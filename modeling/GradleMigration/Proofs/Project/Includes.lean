import GradleMigration.Project.Metadata
import GradleMigration.Proofs.Text.Blank
import GradleMigration.Proofs.Text.Marks
import Mathlib.Data.List.Induction
import Mathlib.Data.List.TakeWhile

/-
  Include statements and the modules that are read off them.

  A statement is the include word and quoted names between
  commas, with or without parentheses, and blanks may stand in
  front of every name.  Reading goes by lines: of a statement
  that is broken over several lines it sees the names on the
  first one, which are all of them where no line feed stands
  in front of a name.

  Main declarations:
    * `IncludeStatement`
    * `IncludeStatement.textOf`
    * `Project.includedNames_feed`
    * `Project.includedNames_blank`
    * `Project.includedNames_textOf`
    * `Project.modulesOf_textOf`
    * `Project.modulesOf_broken`
-/

------------------------------------------------------------
-- Include Statements
------------------------------------------------------------

namespace GradleMigration

/- Names can stand between quotes of two kinds. -/
theorem Script.isQuote_apostrophe :
    isQuote Text.apostrophe = true := by
  decide

theorem Script.isQuote_doubleQuote :
    isQuote Text.doubleQuote = true := by
  decide

/-
  A quoted name and the blanks in front of it.  It is on one
  line and has more to it than colons.
-/
structure QuotedName where
  gap : List Char
  quote : Char
  name : List Char
  gap_blank : gap.all Text.isBlank = true := by decide
  isQuote : Script.isQuote quote = true := by decide
  name_unquoted :
    name.all (!Script.isQuote ·) = true := by decide
  name_inLine : '\n' ∉ name := by decide
  name_named : name.any (· != ':') = true := by decide

namespace QuotedName

/- The text of a name with its quotes and blanks. -/
def text
    (name : QuotedName) : List Char :=
  name.gap ++ name.quote :: (name.name ++ [name.quote])

/- The text of names between commas. -/
def textOf
    (names : List QuotedName) : List Char :=
  [','].intercalate (names.map text)

/- Whether a name stands on a line behind that before it. -/
def isBehindBreak
    (name : QuotedName) : Bool :=
  name.gap.contains '\n'

/- The module that a name is for: no colon leads it. -/
def moduleName
    (name : QuotedName) : String :=
  String.ofList (name.name.dropWhile (· == ':'))

end QuotedName

/-
  An include statement, with or without parentheses, and the
  blanks before and behind it.
-/
structure IncludeStatement where
  lead : List Char
  isCall : Bool
  names : List QuotedName
  trail : List Char
  lead_blank : lead.all Text.isBlank = true := by decide
  trail_blank : trail.all Text.isBlank = true := by decide

namespace IncludeStatement

/- What follows the include word. -/
def body
    (statement : IncludeStatement) : List Char :=
  let names := QuotedName.textOf statement.names
  if statement.isCall then
    '(' :: (names ++ ')' :: statement.trail)
  else
    names ++ statement.trail

/- The text of a statement. -/
def text
    (statement : IncludeStatement) : List Char :=
  statement.lead ++ (Project.includeWord ++ statement.body)

/- The text of statements, each on lines of its own. -/
def textOf
    (statements : List IncludeStatement) : List Char :=
  ['\n'].intercalate (statements.map text)

/- The names on the line that the statement starts on. -/
def onFirstLine
    (statement : IncludeStatement) : List QuotedName :=
  statement.names.takeWhile (!·.isBehindBreak)

/- Whether all names are on the line of the include word. -/
def isUnbroken
    (statement : IncludeStatement) : Bool :=
  statement.names.all (!·.isBehindBreak)

/- The modules that statements are for, as they stand there. -/
def modulesOf
    (statements : List IncludeStatement) : List String :=
  statements.flatMap fun statement =>
    statement.names.map QuotedName.moduleName

end IncludeStatement

end GradleMigration

------------------------------------------------------------
-- Reading Line by Line
------------------------------------------------------------

namespace GradleMigration

/- The first line of a text ends before its first line feed. -/
theorem Text.takeWhile_append_of_mem
    {text : List Char}
    (h : '\n' ∈ text)
    (rest : List Char) :
    (text ++ rest).takeWhile (· != '\n') =
      text.takeWhile (· != '\n') := by
  rcases List.eq_append_cons_of_mem h with
    ⟨front, back, hText, hFront⟩
  rw [hText, List.append_assoc,
    takeWhile_append_inLine hFront,
    takeWhile_append_inLine hFront]
  simp

namespace Project

theorem linesOf_eq_splitOn
    (text : List Char) :
    linesOf text = text.splitOn '\n' := by
  rw [List.splitOn_eq_splitOnP]
  fun_induction linesOf text with
  | case1 => rfl
  | case2 rest ih =>
      rw [List.splitOnP_cons_eq_if_modifyHead,
        if_pos (by decide), ih]
  | case3 c rest hNot hNil ih =>
      exact absurd (ih.symm.trans hNil)
        (List.splitOnP_ne_nil _ _)
  | case4 c rest hNot line more hLines ih =>
      have hFeed : ¬ (c == '\n') = true := by
        intro hEq
        exact hNot (beq_iff_eq.mp hEq)
      rw [List.splitOnP_cons_eq_if_modifyHead, if_neg hFeed,
        ← ih, hLines]
      rfl

/- The names that one line gives. -/
def namesOfLine
    (line : List Char) : List String :=
  match includeTail line with
  | none => []
  | some tail => (quotedTexts 0 tail).map moduleName

/- The names that the lines behind the first one give. -/
def laterNames
    (text : List Char) : List String :=
  match text.dropWhile (· != '\n') with
  | [] => []
  | _ :: rest => includedNames rest

/- The lines of two texts give their names one by one. -/
theorem includedNames_feed
    (text rest : List Char) :
    includedNames (text ++ '\n' :: rest) =
      includedNames text ++ includedNames rest := by
  unfold includedNames
  simp only [linesOf_eq_splitOn, List.splitOn_append_cons_self,
    List.filterMap_append, List.flatMap_append]

/- A single line gives what it gives as a line. -/
theorem includedNames_line
    {line : List Char}
    (h : '\n' ∉ line) :
    includedNames line = namesOfLine line := by
  unfold includedNames namesOfLine
  rw [linesOf_eq_splitOn, Text.splitOn_last h]
  cases hTail : includeTail line with
  | none => simp [hTail]
  | some tail => simp [hTail]

/- The first line gives its names, then come the others. -/
theorem includedNames_eq
    (text : List Char) :
    includedNames text =
      namesOfLine (text.takeWhile (· != '\n')) ++
        laterNames text := by
  have hLine : '\n' ∉ text.takeWhile (· != '\n') := by
    intro hFeed
    have hTest := List.all_eq_true.mp List.all_takeWhile _ hFeed
    simp at hTest
  have hSplit := List.takeWhile_append_dropWhile
    (p := (· != '\n')) (l := text)
  unfold laterNames
  rcases Text.head?_dropWhile_ne '\n' text with hNil | hHead
  · rw [hNil, List.append_nil] at hSplit
    rw [hNil, List.append_nil, hSplit]
    exact includedNames_line (hSplit ▸ hLine)
  · rcases List.head?_eq_some_iff.mp hHead with
      ⟨rest, hRest⟩
    rw [hRest] at hSplit ⊢
    conv_lhs => rw [← hSplit]
    rw [includedNames_feed, includedNames_line hLine]

/- A blank in front of a line does not count. -/
theorem namesOfLine_blank
    {c : Char}
    (h : Text.isBlank c = true)
    (line : List Char) :
    namesOfLine (c :: line) = namesOfLine line := by
  unfold namesOfLine includeTail Text.trimLeft
  simp only [List.dropWhile_cons, h, if_true]

/- A line that starts with something else gives no names. -/
theorem namesOfLine_eq_nil
    {c : Char}
    (hBlank : Text.isBlank c = false)
    (hOther : c ≠ 'i')
    (line : List Char) :
    namesOfLine (c :: line) = [] := by
  have hWord : includeWord.isPrefixOf (c :: line) = false := by
    have hStart : ('i' == c) = false :=
      beq_false_of_ne hOther.symm
    have hSpelled :
        includeWord = 'i' :: "nclude".toList := by decide
    rw [hSpelled, List.isPrefixOf, hStart, Bool.false_and]
  unfold namesOfLine includeTail Text.trimLeft
  simp [hBlank, hWord]

theorem laterNames_feed
    (rest : List Char) :
    laterNames ('\n' :: rest) = includedNames rest :=
  rfl

theorem laterNames_cons
    {c : Char}
    (h : c ≠ '\n')
    (rest : List Char) :
    laterNames (c :: rest) = laterNames rest := by
  unfold laterNames
  rw [List.dropWhile_cons_of_pos (by simpa using h)]

/- What is on the first line does not matter for the others. -/
theorem laterNames_append
    {text : List Char}
    (h : '\n' ∉ text)
    (rest : List Char) :
    laterNames (text ++ rest) = laterNames rest := by
  induction text with
  | nil => rfl
  | cons c text ih =>
      rw [List.mem_cons, not_or] at h
      rw [List.cons_append, laterNames_cons (Ne.symm h.1),
        ih h.2]

/- Blanks and blank lines in front of a text do not count. -/
theorem includedNames_blank
    {blanks : List Char}
    (h : blanks.all Text.isBlank = true)
    (text : List Char) :
    includedNames (blanks ++ text) = includedNames text := by
  induction blanks with
  | nil => rfl
  | cons c blanks ih =>
      rw [List.all_cons, Bool.and_eq_true] at h
      rw [← ih h.2, List.cons_append]
      by_cases hFeed : c = '\n'
      · rw [hFeed]
        exact includedNames_feed [] (blanks ++ text)
      · rw [includedNames_eq,
          includedNames_eq (blanks ++ text),
          List.takeWhile_cons_of_pos (by simpa using hFeed),
          namesOfLine_blank h.1, laterNames_cons hFeed]

end Project

end GradleMigration

------------------------------------------------------------
-- Names on a Line
------------------------------------------------------------

namespace GradleMigration

namespace Project

/- A text that has been taken is passed over. -/
theorem quotedTexts_length
    (taken rest : List Char) :
    quotedTexts taken.length (taken ++ rest) =
      quotedTexts 0 rest := by
  induction taken with
  | nil => rfl
  | cons c taken ih => exact ih

/- What holds no quote is passed over. -/
theorem quotedTexts_unquoted
    {text : List Char}
    (h : text.all (!Script.isQuote ·) = true)
    (rest : List Char) :
    quotedTexts 0 (text ++ rest) = quotedTexts 0 rest := by
  induction text with
  | nil => rfl
  | cons c text ih =>
      simp only [List.all_cons, Bool.and_eq_true,
        Bool.not_eq_true'] at h
      rw [List.cons_append, quotedTexts, h.1]
      exact ih h.2

/- The first line of what holds no quote gives no text. -/
theorem quotedTexts_takeWhile
    {text : List Char}
    (h : text.all (!Script.isQuote ·) = true) :
    quotedTexts 0 (text.takeWhile (· != '\n')) = [] := by
  have hLine :
      (text.takeWhile (· != '\n')).all
        (!Script.isQuote ·) = true := by
    rw [List.all_eq_true] at h ⊢
    exact fun c hC => h c ((List.takeWhile_prefix _).subset hC)
  have hAll := quotedTexts_unquoted hLine []
  rwa [List.append_nil] at hAll

/- A text between quotes is taken. -/
theorem quotedTexts_quoted
    {opening closing : Char}
    {body : List Char}
    (hOpening : Script.isQuote opening = true)
    (hClosing : Script.isQuote closing = true)
    (hBody : body.all (!Script.isQuote ·) = true)
    (hSome : body ≠ [])
    (rest : List Char) :
    quotedTexts 0 (opening :: (body ++ closing :: rest)) =
      body :: quotedTexts 0 rest := by
  have hTaken :
      (body ++ closing :: rest).takeWhile
        (!Script.isQuote ·) = body := by
    rw [List.takeWhile_append_of_pos
      (List.all_eq_true.mp hBody)]
    simp [hClosing]
  have hPassed := quotedTexts_length (body ++ [closing]) rest
  rw [List.append_assoc, List.length_append] at hPassed
  rw [quotedTexts, hOpening, if_pos rfl, hTaken, if_neg]
  · exact congrArg (body :: ·) hPassed
  · simp [hSome]

end Project

namespace QuotedName

open Project

variable (name : QuotedName)

/- No blank in front of a name is a quote. -/
theorem gap_unquoted :
    name.gap.all (!Script.isQuote ·) = true := by
  rw [List.all_eq_true]
  intro c hC
  rw [Script.isQuote_of_isBlank
    (List.all_eq_true.mp name.gap_blank c hC)]
  rfl

theorem name_ne_nil :
    name.name ≠ [] := by
  intro hNil
  have hNamed := name.name_named
  rw [hNil] at hNamed
  cases hNamed

theorem quote_ne_feed :
    name.quote ≠ '\n' := by
  intro hFeed
  have hQuote := name.isQuote
  rw [hFeed] at hQuote
  cases hQuote

theorem quote_ne_letter :
    name.quote ≠ 'i' := by
  intro hLetter
  have hQuote := name.isQuote
  rw [hLetter] at hQuote
  cases hQuote

theorem quote_not_blank :
    Text.isBlank name.quote = false := by
  cases hBlank : Text.isBlank name.quote with
  | false => rfl
  | true =>
      have hQuote := name.isQuote
      rw [Script.isQuote_of_isBlank hBlank] at hQuote
      cases hQuote

theorem quote_not_word :
    Text.isWord name.quote = false := by
  have hQuote := name.isQuote
  unfold Script.isQuote at hQuote
  rw [Bool.or_eq_true, decide_eq_true_eq, decide_eq_true_eq]
    at hQuote
  rcases hQuote with hQuote | hQuote
  · rw [hQuote]
    decide
  · rw [hQuote]
    decide

/- A name does not go on with a word in front of it. -/
theorem isWord_of_mem_head?
    {rest : List Char}
    {c : Char}
    (h : c ∈ (name.text ++ rest).head?) :
    Text.isWord c = false := by
  unfold text at h
  cases hGap : name.gap with
  | nil =>
      rw [hGap] at h
      cases h
      exact name.quote_not_word
  | cons blank gap =>
      have hBlank := name.gap_blank
      rw [hGap, List.all_cons, Bool.and_eq_true] at hBlank
      rw [hGap] at h
      cases h
      exact Text.isWord_of_isBlank hBlank.1

/- A name is read where no line feed stands in front of it. -/
theorem quotedTexts_text
    (rest : List Char) :
    quotedTexts 0
        ((name.text ++ rest).takeWhile (· != '\n')) =
      if name.isBehindBreak then
        []
      else
        name.name ::
          quotedTexts 0 (rest.takeWhile (· != '\n')) := by
  unfold text isBehindBreak
  rw [List.append_assoc]
  by_cases hFeed : '\n' ∈ name.gap
  · rw [if_pos (by simpa using hFeed),
      Text.takeWhile_append_of_mem hFeed]
    exact quotedTexts_takeWhile name.gap_unquoted
  · rw [if_neg (by simpa using hFeed),
      Text.takeWhile_append_inLine hFeed,
      quotedTexts_unquoted name.gap_unquoted,
      List.cons_append, List.takeWhile_cons_of_pos
        (by simpa using name.quote_ne_feed),
      List.append_assoc,
      Text.takeWhile_append_inLine name.name_inLine,
      List.singleton_append, List.takeWhile_cons_of_pos
        (by simpa using name.quote_ne_feed)]
    exact quotedTexts_quoted name.isQuote name.isQuote
      name.name_unquoted name.name_ne_nil _

/- The lines that a name is on start no include statement. -/
theorem laterNames_text
    (rest : List Char) :
    laterNames (name.text ++ rest) = laterNames rest := by
  have hQuoted :
      laterNames (name.quote ::
          (name.name ++ [name.quote] ++ rest)) =
        laterNames rest := by
    rw [laterNames_cons name.quote_ne_feed, List.append_assoc,
      laterNames_append name.name_inLine, List.singleton_append,
      laterNames_cons name.quote_ne_feed]
  unfold text
  rw [List.append_assoc, List.cons_append]
  by_cases hFeed : '\n' ∈ name.gap
  · -- The last of the lines of the gap goes on with the quote.
    rcases List.eq_append_cons_of_mem hFeed with
      ⟨front, back, hGap, hFront⟩
    have hBlank := name.gap_blank
    rw [hGap, List.all_append, List.all_cons,
      Bool.and_eq_true, Bool.and_eq_true] at hBlank
    rw [hGap, List.append_assoc, laterNames_append hFront,
      List.cons_append, laterNames_feed,
      includedNames_blank hBlank.2.2, includedNames_eq,
      List.takeWhile_cons_of_pos
        (by simpa using name.quote_ne_feed),
      namesOfLine_eq_nil name.quote_not_blank
        name.quote_ne_letter, List.nil_append, hQuoted]
  · rw [laterNames_append hFeed, hQuoted]

end QuotedName

end GradleMigration

------------------------------------------------------------
-- Names Between Commas
------------------------------------------------------------

namespace GradleMigration

namespace QuotedName

open Project

/- Every name but the first stands behind a comma. -/
theorem textOf_cons
    (name : QuotedName)
    (names : List QuotedName) :
    textOf (name :: names) =
      name.text ++ names.flatMap fun other =>
        ',' :: other.text := by
  unfold textOf
  induction names generalizing name with
  | nil => simp
  | cons other names ih =>
      rw [List.map_cons, List.map_cons,
        List.intercalate_cons_cons, ← List.map_cons, ih other]
      simp

theorem quotedTexts_comma
    (rest : List Char) :
    quotedTexts 0 ((',' :: rest).takeWhile (· != '\n')) =
      quotedTexts 0 (rest.takeWhile (· != '\n')) :=
  rfl

/- The names up to the first break are read. -/
theorem quotedTexts_more
    (names : List QuotedName)
    {rest : List Char}
    (hRest : rest.all (!Script.isQuote ·) = true) :
    quotedTexts 0
        ((names.flatMap (fun other => ',' :: other.text) ++
          rest).takeWhile (· != '\n')) =
      (names.takeWhile (!·.isBehindBreak)).map
        QuotedName.name := by
  induction names with
  | nil => exact quotedTexts_takeWhile hRest
  | cons name names ih =>
      rw [List.flatMap_cons, List.cons_append, List.cons_append,
        quotedTexts_comma, List.append_assoc, quotedTexts_text,
        ih]
      cases hBreak : name.isBehindBreak with
      | true => simp [hBreak]
      | false => simp [hBreak]

theorem quotedTexts_textOf
    (names : List QuotedName)
    {rest : List Char}
    (hRest : rest.all (!Script.isQuote ·) = true) :
    quotedTexts 0
        ((textOf names ++ rest).takeWhile (· != '\n')) =
      (names.takeWhile (!·.isBehindBreak)).map
        QuotedName.name := by
  cases names with
  | nil => exact quotedTexts_takeWhile hRest
  | cons name names =>
      rw [textOf_cons, List.append_assoc, quotedTexts_text,
        quotedTexts_more names hRest]
      cases hBreak : name.isBehindBreak with
      | true => simp [hBreak]
      | false => simp [hBreak]

/- No line that names are on starts an include statement. -/
theorem laterNames_more
    (names : List QuotedName)
    (rest : List Char) :
    laterNames
        (names.flatMap (fun other => ',' :: other.text) ++
          rest) =
      laterNames rest := by
  induction names with
  | nil => rfl
  | cons name names ih =>
      rw [List.flatMap_cons, List.cons_append, List.cons_append,
        laterNames_cons (by decide), List.append_assoc,
        laterNames_text, ih]

theorem laterNames_textOf
    (names : List QuotedName)
    (rest : List Char) :
    laterNames (textOf names ++ rest) = laterNames rest := by
  cases names with
  | nil => rfl
  | cons name names =>
      rw [textOf_cons, List.append_assoc, laterNames_text,
        laterNames_more]

end QuotedName

end GradleMigration

------------------------------------------------------------
-- Statements
------------------------------------------------------------

namespace GradleMigration

namespace Project

/- Blanks alone give no names. -/
theorem laterNames_of_blank
    {text : List Char}
    (h : text.all Text.isBlank = true) :
    laterNames text = [] := by
  have hAll : includedNames text = [] := by
    have hBlank := includedNames_blank h []
    rwa [List.append_nil] at hBlank
  rw [includedNames_eq] at hAll
  exact (List.append_eq_nil_iff.mp hAll).2

/- The include word, where no word goes on behind it. -/
theorem namesOfLine_includeWord
    {tail : List Char}
    (h : ∀ c ∈ tail.head?, Text.isWord c = false) :
    namesOfLine (includeWord ++ tail) =
      (quotedTexts 0 tail).map moduleName := by
  have hTrim :
      Text.trimLeft (includeWord ++ tail) =
        includeWord ++ tail :=
    List.dropWhile_cons_of_neg (by decide)
  have hStart :
      includeWord.isPrefixOf (includeWord ++ tail) = true :=
    List.isPrefixOf_iff_prefix.mpr (List.prefix_append _ _)
  unfold namesOfLine includeTail
  simp only [hTrim, hStart, if_true, List.drop_left]
  cases tail with
  | nil => rfl
  | cons c rest => simp [h c (by simp)]

end Project

namespace IncludeStatement

open Project

variable (statement : IncludeStatement)

/- What is behind the names: no quote and no statement. -/
theorem trail_unquoted :
    statement.trail.all (!Script.isQuote ·) = true := by
  rw [List.all_eq_true]
  intro c hC
  rw [Script.isQuote_of_isBlank
    (List.all_eq_true.mp statement.trail_blank c hC)]
  rfl

theorem quotedTexts_body :
    quotedTexts 0 (statement.body.takeWhile (· != '\n')) =
      statement.onFirstLine.map QuotedName.name := by
  have hTrail := statement.trail_unquoted
  unfold body onFirstLine
  cases statement.isCall with
  | false => exact QuotedName.quotedTexts_textOf _ hTrail
  | true =>
      exact QuotedName.quotedTexts_textOf _
        (by rw [List.all_cons, hTrail]; rfl)

theorem laterNames_body :
    laterNames statement.body = [] := by
  have hTrail := laterNames_of_blank statement.trail_blank
  unfold body
  cases statement.isCall with
  | false =>
      exact (QuotedName.laterNames_textOf _ _).trans hTrail
  | true =>
      simp only [if_true]
      rw [laterNames_cons (by decide),
        QuotedName.laterNames_textOf,
        laterNames_cons (by decide), hTrail]

/- The include word ends where the body starts. -/
theorem isWord_of_mem_head?
    {c : Char}
    (h : c ∈ statement.body.head?) :
    Text.isWord c = false := by
  unfold body at h
  cases hCall : statement.isCall with
  | true =>
      rw [hCall] at h
      cases h
      decide
  | false =>
      rw [hCall] at h
      cases hNames : statement.names with
      | nil =>
          rw [hNames] at h
          have hTrail := statement.trail_blank
          exact Text.isWord_of_isBlank
            (List.all_eq_true.mp hTrail c
              (List.mem_of_mem_head? h))
      | cons name names =>
          rw [hNames, QuotedName.textOf_cons] at h
          rw [if_neg (by decide), List.append_assoc] at h
          exact name.isWord_of_mem_head? h

/- A statement gives the names on its first line. -/
theorem includedNames_text :
    includedNames statement.text =
      statement.onFirstLine.map QuotedName.moduleName := by
  have hWord : ∀ c ∈ (statement.body.takeWhile
      (· != '\n')).head?, Text.isWord c = false := by
    intro c hC
    rw [List.head?_takeWhile] at hC
    exact statement.isWord_of_mem_head?
      (Option.mem_filter_iff.mp hC).1
  unfold text
  rw [includedNames_blank statement.lead_blank,
    includedNames_eq,
    Text.takeWhile_append_inLine (by decide),
    namesOfLine_includeWord hWord,
    laterNames_append (by decide), statement.laterNames_body,
    statement.quotedTexts_body, List.append_nil, List.map_map]
  rfl

end IncludeStatement

/- Statements give the names on their first lines in turn. -/
theorem Project.includedNames_textOf
    (statements : List IncludeStatement) :
    includedNames (IncludeStatement.textOf statements) =
      statements.flatMap fun statement =>
        statement.onFirstLine.map QuotedName.moduleName := by
  unfold IncludeStatement.textOf
  induction statements with
  | nil => rfl
  | cons statement statements ih =>
      cases statements with
      | nil => simp [statement.includedNames_text]
      | cons next more =>
          rw [List.map_cons, List.map_cons,
            List.intercalate_cons_cons, ← List.map_cons,
            List.append_assoc, List.singleton_append,
            includedNames_feed, statement.includedNames_text,
            ih]
          rfl

end GradleMigration

------------------------------------------------------------
-- Modules
------------------------------------------------------------

namespace GradleMigration

namespace Project

/- Names are listed once each, in the order they come in. -/
theorem foldl_addName
    {names : List String}
    (h : "" ∉ names) :
    names.foldl addName [] = names.eraseDups := by
  induction names using List.reverseRecOn with
  | nil => rfl
  | append_singleton names name ih =>
      rw [List.mem_append, not_or, List.mem_singleton] at h
      rw [List.foldl_append, ih h.1, List.foldl_cons,
        List.foldl_nil, List.eraseDups_append]
      unfold addName
      by_cases hKnown : name ∈ names
      · simp [hKnown, List.removeAll]
      · simp [hKnown, List.removeAll, Ne.symm h.2,
          List.eraseDups_cons]

end Project

/- Something is left of a name without the leading colons. -/
theorem QuotedName.moduleName_ne
    (name : QuotedName) :
    name.moduleName ≠ "" := by
  intro hEmpty
  have hNil : name.name.dropWhile (· == ':') = [] := by
    simpa [moduleName] using congrArg String.toList hEmpty
  rcases List.any_eq_true.mp name.name_named with
    ⟨c, hC, hOther⟩
  have hColon := List.dropWhile_eq_nil_iff.mp hNil c hC
  rw [beq_iff_eq.mp hColon] at hOther
  cases hOther

namespace Project

/-
  The modules of include statements are the names that stand
  on the first lines of the statements, without the leading
  colons, each once and in the order in which they first
  appear.  Where no statement is broken in front of a name,
  these are the names of all statements.
-/
theorem modulesOf_textOf
    (statements : List IncludeStatement) :
    modulesOf (IncludeStatement.textOf statements) =
        (statements.flatMap fun statement =>
          statement.onFirstLine.map
            QuotedName.moduleName).eraseDups ∧
      ((∀ statement ∈ statements,
          statement.isUnbroken = true) →
        modulesOf (IncludeStatement.textOf statements) =
          (IncludeStatement.modulesOf statements).eraseDups) := by
  have hNames :
      modulesOf (IncludeStatement.textOf statements) =
        (statements.flatMap fun statement =>
          statement.onFirstLine.map
            QuotedName.moduleName).eraseDups := by
    unfold modulesOf
    rw [includedNames_textOf]
    apply foldl_addName
    simp only [List.mem_flatMap, List.mem_map, not_exists,
      not_and]
    intro statement _ name _
    exact name.moduleName_ne
  refine ⟨hNames, fun hUnbroken => ?_⟩
  rw [hNames]
  apply congrArg List.eraseDups
  apply List.flatMap_congr
  intro statement hStatement
  rw [IncludeStatement.onFirstLine,
    List.takeWhile_eq_self_iff.mpr
      (List.all_eq_true.mp (hUnbroken statement hStatement))]

/- Statements in both styles, one with a name given before. -/
def settingsIncludes : List IncludeStatement :=
  [ { lead := "\n  ".toList
      isCall := false
      names :=
        [ { gap := " ".toList
            quote := Text.apostrophe
            isQuote := Script.isQuote_apostrophe
            name := ":a".toList },
          { gap := " ".toList
            quote := Text.apostrophe
            isQuote := Script.isQuote_apostrophe
            name := "b".toList } ]
      trail := [] },
    { lead := []
      isCall := true
      names :=
        [ { gap := []
            quote := Text.doubleQuote
            isQuote := Script.isQuote_doubleQuote
            name := "c:d".toList },
          { gap := "\t".toList
            quote := Text.doubleQuote
            isQuote := Script.isQuote_doubleQuote
            name := "a".toList } ]
      trail := "\n".toList } ]

theorem modulesOf_settingsIncludes :
    (∀ statement ∈ settingsIncludes,
        statement.isUnbroken = true) ∧
      IncludeStatement.textOf settingsIncludes =
        ("\n  include ':a', 'b'\n" ++
          "include(\x22c:d\x22,\t\x22a\x22)\n").toList ∧
      modulesOf (IncludeStatement.textOf settingsIncludes) =
        ["a", "b", "c:d"] := by
  have hUnbroken : ∀ statement ∈ settingsIncludes,
      statement.isUnbroken = true :=
    List.all_eq_true.mp (by decide)
  refine ⟨hUnbroken, by decide, ?_⟩
  rw [(modulesOf_textOf settingsIncludes).2 hUnbroken]
  decide

/- A statement of two names, the second on a line of its own. -/
def brokenInclude : IncludeStatement where
  lead := []
  isCall := false
  names :=
    [ { gap := " ".toList
        quote := Text.apostrophe
        isQuote := Script.isQuote_apostrophe
        name := "a".toList },
      { gap := "\n    ".toList
        quote := Text.apostrophe
        isQuote := Script.isQuote_apostrophe
        name := "b".toList } ]
  trail := "\n".toList

/- The name behind the line feed is not read. -/
theorem modulesOf_broken :
    IncludeStatement.textOf [brokenInclude] =
        "include 'a',\n    'b'\n".toList ∧
      IncludeStatement.modulesOf [brokenInclude] =
        ["a", "b"] ∧
      modulesOf (IncludeStatement.textOf [brokenInclude]) =
        ["a"] := by
  decide

end Project

end GradleMigration