import GradleMigration.JsonText.Printer
import GradleMigration.JsonText.Reader
import GradleMigration.Proofs.Text.Digits
import GradleMigration.Text.Lines

/-
  Data written as JSON are read back: strings with all their
  escapes, integers within the limit of digits, and lists and
  tables of such data in any nesting that the reader allows.

  Main declarations:
    * `JsonText.printChar_cases`
    * `JsonText.readString_printChars`
    * `JsonText.Admits`
    * `JsonText.readNumber_digits`
    * `Datum.Readable`
    * `JsonText.readValue_printAt`
    * `JsonText.parse_print`
    * `JsonText.unifyNewlines_print`
-/

------------------------------------------------------------
-- Strings
------------------------------------------------------------

namespace GradleMigration

namespace JsonText

/- Whether four digits are read as a code. -/
def isCode
    (n : Nat) : List Char → Bool
| [a, b, c, d] => codeUnit a b c d == some n
| _ => false

/- Characters with a code below 32 are read from it. -/
theorem codeUnit_hexDigits
    {n : Nat}
    (h : n < 32) :
    ∃ a b c d, Text.hexDigits 4 n = [a, b, c, d] ∧
      codeUnit a b c d = some n := by
  have hAll : ∀ n < 32,
      isCode n (Text.hexDigits 4 n) = true := by
    decide
  have hHere := hAll n h
  unfold isCode at hHere
  split at hHere
  · next a b c d hDigits =>
      exact ⟨a, b, c, d, hDigits, beq_iff_eq.mp hHere⟩
  · cases hHere

/- A character behind a backslash stands for another. -/
theorem readString_escape
    {c d : Char}
    (hNot : d ≠ 'u')
    (h : shortEscape d = some c)
    (more : List Char) :
    readString none ('\\' :: d :: more) =
      (readString none more).map fun read =>
        (c :: read.1, read.2) := by
  rw [readString]
  · simp only [h]
  · intro w x y z rest hEq
    exact absurd hEq hNot

/- Other characters stand for themselves. -/
theorem readString_plain
    {c : Char}
    (hQuote : c ≠ Text.doubleQuote)
    (hSlash : c ≠ '\\')
    (hCode : ¬ c.toNat < 0x20)
    (more : List Char) :
    readString none (c :: more) =
      (readString none more).map fun read =>
        (c :: read.1, read.2) := by
  rw [readString]
  · simp only [hQuote, hSlash, hCode, if_false, decide_false,
      Bool.or_self, Bool.false_eq_true]
  · intro w x y z rest hEq
    exact absurd hEq hSlash
  · intro d rest hEq
    exact absurd hEq hSlash

/-
  A character is written by a short escape, by its code where
  that is low, or as itself.
-/
theorem printChar_cases
    (c : Char) :
    (∃ d, printChar c = ['\\', d] ∧ d ≠ 'u' ∧
      shortEscape d = some c) ∨
    (c.toNat < 0x20 ∧ printChar c =
      '\\' :: 'u' :: Text.hexDigits 4 c.toNat) ∨
    (c ≠ Text.doubleQuote ∧ c ≠ '\\' ∧ ¬ c.toNat < 0x20 ∧
      printChar c = [c]) := by
  unfold printChar
  split
  · next hOwn =>
      rw [Bool.or_eq_true, decide_eq_true_eq,
        decide_eq_true_eq] at hOwn
      rcases hOwn with rfl | rfl
      · exact Or.inl ⟨_, rfl, by decide, by decide⟩
      · exact Or.inl ⟨_, rfl, by decide, rfl⟩
  · next hOther =>
      rw [Bool.or_eq_true, decide_eq_true_eq,
        decide_eq_true_eq, not_or] at hOther
      split
      · next hEq =>
          exact Or.inl ⟨'b', rfl, by decide, hEq ▸ rfl⟩
      split
      · next hEq =>
          exact Or.inl ⟨'f', rfl, by decide, hEq ▸ rfl⟩
      split
      · next hEq =>
          exact Or.inl ⟨'n', rfl, by decide, hEq ▸ rfl⟩
      split
      · next hEq =>
          exact Or.inl ⟨'r', rfl, by decide, hEq ▸ rfl⟩
      split
      · next hEq =>
          exact Or.inl ⟨'t', rfl, by decide, hEq ▸ rfl⟩
      split
      · next hLow => exact Or.inr (Or.inl ⟨hLow, rfl⟩)
      · next hCode =>
          exact Or.inr (Or.inr
            ⟨hOther.1, hOther.2, hCode, rfl⟩)

/- A written character is read as itself. -/
theorem readString_printChar
    (c : Char)
    (more : List Char) :
    readString none (printChar c ++ more) =
      (readString none more).map fun read =>
        (c :: read.1, read.2) := by
  rcases printChar_cases c with
    ⟨d, hPrint, hNot, hEscape⟩ | ⟨hLow, hPrint⟩ |
      ⟨hQuote, hSlash, hCode, hPrint⟩
  · rw [hPrint]
    exact readString_escape hNot hEscape more
  · rcases codeUnit_hexDigits hLow with
      ⟨x, y, z, w, hDigits, hUnit⟩
    have hHigh : isHighHalf c.toNat = false := by
      simp [isHighHalf]
      omega
    have hPair : isLowHalf c.toNat = false := by
      simp [isLowHalf]
      omega
    rw [hPrint]
    simp [hDigits, readString, hUnit, hHigh, hPair]
  · rw [hPrint]
    exact readString_plain hQuote hSlash hCode more

/- A written string is read back. -/
theorem readString_printChars
    (text rest : List Char) :
    readString none
        (text.flatMap printChar ++ Text.doubleQuote :: rest) =
      some (text, rest) := by
  induction text with
  | nil =>
      rw [List.flatMap_nil, List.nil_append, readString]
      · rw [if_pos rfl]
      · intro w x y z rest hEq
        cases hEq
      · intro d rest hEq
        cases hEq
  | cons c more ih =>
      rw [List.flatMap_cons, List.append_assoc,
        readString_printChar, ih]
      rfl

end JsonText

end GradleMigration

------------------------------------------------------------
-- Numbers and Words
------------------------------------------------------------

namespace GradleMigration

namespace JsonText

/- What may follow a value: a comma, a line end, or nothing. -/
def IsEnd : List Char → Prop
| [] => True
| c :: _ => c = ',' ∨ c = '\n'

/- Digits up to an end are split off. -/
theorem splitDigits_append
    {digits rest : List Char}
    (hDigits : ∀ c ∈ digits, c.isDigit = true)
    (hEnd : IsEnd rest) :
    splitDigits (digits ++ rest) = (digits, rest) := by
  have hStop : rest.takeWhile Text.isAsciiDigit = [] ∧
      rest.dropWhile Text.isAsciiDigit = rest := by
    cases rest with
    | nil => exact ⟨rfl, rfl⟩
    | cons c more =>
        have hC : Text.isAsciiDigit c = false := by
          rcases hEnd with hEq | hEq
          · rw [hEq]
            decide
          · rw [hEq]
            decide
        constructor
        · rw [List.takeWhile_cons, hC]
          rfl
        · rw [List.dropWhile_cons, hC]
          rfl
  have hAll : ∀ c ∈ digits, Text.isAsciiDigit c = true :=
    hDigits
  unfold splitDigits
  rw [List.takeWhile_append_of_pos hAll,
    List.dropWhile_append_of_pos hAll, hStop.1, hStop.2,
    List.append_nil]

/- No fraction and no exponent start at an end. -/
theorem readFraction_of_isEnd
    {rest : List Char}
    (h : IsEnd rest) :
    readFraction rest = some ([], rest) := by
  cases rest with
  | nil => rfl
  | cons c more =>
      rcases h with hEq | hEq
      · rw [hEq]
        rfl
      · rw [hEq]
        rfl

theorem readExponent_of_isEnd
    {rest : List Char}
    (h : IsEnd rest) :
    readExponent rest = some (none, rest) := by
  cases rest with
  | nil => rfl
  | cons c more =>
      rcases h with hEq | hEq
      · rw [hEq]
        rfl
      · rw [hEq]
        rfl

/- The integers that the limit of digits admits. -/
def Admits
    (n : Int) : Prop :=
  (Nat.toDigits 10 n.natAbs).length ≤ Text.maxDigits

instance
    (n : Int) :
    Decidable (Admits n) := by
  unfold Admits
  infer_instance

theorem admits_iff
    {n : Int} :
    Admits n ↔ n.natAbs < 10 ^ Text.maxDigits :=
  Nat.length_toDigits_le_iff (by decide) (by decide)

/- The digits of a number are read as the number. -/
theorem readNumber_digits
    (negative : Bool)
    {n : Nat}
    (h : (Nat.toDigits 10 n).length ≤ Text.maxDigits)
    {rest : List Char}
    (hEnd : IsEnd rest) :
    readNumber negative (Nat.toDigits 10 n ++ rest) =
      some (.int (if negative then -(n : Int) else n),
        rest) := by
  have hSplit := splitDigits_append
    (fun _ => Text.isDigit_of_mem_digits (n := n)) hEnd
  have hLead :
      ((Nat.toDigits 10 n).isEmpty ||
        (decide ((Nat.toDigits 10 n).head? = some '0') &&
          decide (1 < (Nat.toDigits 10 n).length))) =
            false := by
    rw [Bool.or_eq_false_iff, Bool.and_eq_false_iff]
    constructor
    · simp
    · by_cases hZero : n = 0
      · right
        rw [hZero]
        decide
      · left
        exact decide_eq_false
          (Text.head?_toDigits (Nat.pos_of_ne_zero hZero))
  have hNumber : numberOf negative (Nat.toDigits 10 n) [] none =
      some (.int (if negative then -(n : Int) else n)) := by
    unfold numberOf
    simp only [List.isEmpty_nil, Option.isNone_none,
      Bool.and_self, if_true, Nat.not_lt.mpr h, if_false,
      Text.digitsValue_toDigits]
  unfold readNumber
  simp only [hSplit, hLead, Bool.false_eq_true, if_false,
    readFraction_of_isEnd hEnd, readExponent_of_isEnd hEnd,
    Option.bind_eq_bind, Option.bind_some, hNumber]
  rfl

/- Whether a word does not start like a numeral. -/
def isNoNumeral : List Char → Bool
| '-' :: c :: _ => !c.isDigit
| c :: _ => !c.isDigit && c != '-'
| [] => false

/- No word is read where a numeral starts. -/
theorem readWord_of_digit
    {ahead more : List Char}
    {d : Char}
    (hDigit : d.isDigit = true)
    (h : ahead = d :: more ∨ ahead = '-' :: d :: more) :
    readWord ahead = none := by
  have hWords :
      (wordValues.map Prod.fst).all isNoNumeral = true := by
    decide
  unfold readWord
  rw [List.findSome?_eq_none_iff]
  rintro ⟨word, value⟩ hMem
  have hWord := List.all_eq_true.mp hWords word
    (List.mem_map.mpr ⟨_, hMem, rfl⟩)
  simp only
  rw [if_neg]
  intro hPrefix
  have hStarts := List.isPrefixOf_iff_prefix.mp hPrefix
  unfold isNoNumeral at hWord
  split at hWord
  · next c tail =>
      rcases h with hEq | hEq
      · rw [hEq, List.cons_prefix_cons] at hStarts
        rw [← hStarts.1] at hDigit
        exact absurd hDigit (by decide)
      · rw [hEq, List.cons_prefix_cons,
          List.cons_prefix_cons] at hStarts
        rw [hStarts.2.1, hDigit] at hWord
        cases hWord
  · next c tail _ =>
      rw [Bool.and_eq_true, bne_iff_ne] at hWord
      rcases h with hEq | hEq
      · rw [hEq, List.cons_prefix_cons] at hStarts
        rw [hStarts.1, hDigit] at hWord
        cases hWord.1
      · rw [hEq, List.cons_prefix_cons] at hStarts
        exact hWord.2 hStarts.1
  · cases hWord

/- An integer within the limit is read back. -/
theorem readScalar_int
    {n : Int}
    (h : Admits n)
    {rest : List Char}
    (hEnd : IsEnd rest) :
    readScalar ((toString n).toList ++ rest) =
      some (.int n, rest) := by
  rw [Text.toList_int]
  cases hDigits : Nat.toDigits 10 n.natAbs with
  | nil => exact absurd hDigits Nat.toDigits_ne_nil
  | cons d more =>
      have hDigit : d.isDigit = true := by
        apply Text.isDigit_of_mem_digits (n := n.natAbs)
        rw [hDigits]
        exact List.mem_cons_self
      have hQuote : d ≠ Text.doubleQuote := by
        intro hEq
        rw [hEq] at hDigit
        exact absurd hDigit (by decide)
      have hMinus : d ≠ '-' := by
        intro hEq
        rw [hEq] at hDigit
        exact absurd hDigit (by decide)
      unfold Text.intSign
      by_cases hNegative : n < 0
      · have hNumber := readNumber_digits true h hEnd
        rw [hDigits] at hNumber
        have hValue : -(n.natAbs : Int) = n := by omega
        rw [if_pos hNegative]
        unfold readScalar
        simp only [List.cons_append, List.nil_append] at *
        rw [if_neg (by decide), readWord_of_digit hDigit
          (Or.inr rfl)]
        simp only [if_true, hNumber, hValue]
      · have hNumber := readNumber_digits false h hEnd
        rw [hDigits] at hNumber
        have hValue : (n.natAbs : Int) = n := by omega
        rw [if_neg hNegative]
        unfold readScalar
        simp only [List.cons_append, List.nil_append] at *
        rw [if_neg hQuote, readWord_of_digit hDigit
          (Or.inl rfl)]
        simp only [hMinus, if_false, hNumber, hValue,
          Bool.false_eq_true]

/- A string is read back. -/
theorem readScalar_text
    (text : String)
    (rest : List Char) :
    readScalar (printString text ++ rest) =
      some (.text text, rest) := by
  unfold printString readScalar
  simp only [List.cons_append, List.append_assoc,
    List.nil_append, if_true]
  rw [readString_printChars]
  simp

end JsonText

end GradleMigration

------------------------------------------------------------
-- Lists and Tables
------------------------------------------------------------

namespace GradleMigration

/-
  Data that can be read back from at most so many lists and
  tables inside one another: integers are within the limit,
  and no table has two entries with the same name.
-/
inductive Datum.Readable : (depth : Nat) → Datum → Prop where
| null
    {depth : Nat} :
    Readable depth .null
| bool
    {depth : Nat}
    (value : Bool) :
    Readable depth (.bool value)
| int
    {depth : Nat}
    {value : Int}
    (h : JsonText.Admits value) :
    Readable depth (.int value)
| text
    {depth : Nat}
    (value : String) :
    Readable depth (.text value)
| list
    {depth : Nat}
    {items : List Datum}
    (h : ∀ item ∈ items, Readable depth item) :
    Readable (depth + 1) (.list items)
| table
    {depth : Nat}
    {entries : List (String × Datum)}
    (h : ∀ entry ∈ entries, Readable depth entry.2)
    (hNames : (entries.map Prod.fst).Nodup) :
    Readable (depth + 1) (.table entries)

namespace JsonText

/- Blanks are passed over. -/
theorem skipSpace_append
    {blanks : List Char}
    (h : ∀ c ∈ blanks, isSpace c = true)
    (ahead : List Char) :
    skipSpace (blanks ++ ahead) = skipSpace ahead :=
  List.dropWhile_append_of_pos h

theorem skipSpace_cons
    {c : Char}
    (h : isSpace c = false)
    (more : List Char) :
    skipSpace (c :: more) = c :: more := by
  unfold skipSpace
  rw [List.dropWhile_cons_of_neg]
  rw [h]
  decide

theorem readValue_append
    {blanks : List Char}
    (h : ∀ c ∈ blanks, isSpace c = true)
    (fuel depth : Nat)
    (ahead : List Char) :
    readValue fuel depth (blanks ++ ahead) =
      readValue fuel depth ahead := by
  cases fuel with
  | zero => rfl
  | succ fuel =>
      unfold readValue
      rw [skipSpace_append h]

theorem isSpace_of_mem_newLine
    {indent : Nat}
    {c : Char}
    (h : c ∈ newLine indent) :
    isSpace c = true := by
  unfold newLine at h
  rcases List.mem_cons.mp h with hEq | hMem
  · rw [hEq]
    decide
  · rw [(List.mem_replicate.mp hMem).2]
    decide

theorem skipSpace_newLine
    (indent : Nat)
    (ahead : List Char) :
    skipSpace (newLine indent ++ ahead) = skipSpace ahead :=
  skipSpace_append (fun _ => isSpace_of_mem_newLine) ahead

theorem readItems_newLine
    (fuel depth indent : Nat)
    (ahead : List Char) :
    readItems fuel depth (newLine indent ++ ahead) =
      readItems fuel depth ahead := by
  cases fuel with
  | zero => rfl
  | succ fuel =>
      unfold readItems
      rw [readValue_append fun _ => isSpace_of_mem_newLine]

theorem readEntries_newLine
    (fuel depth indent : Nat)
    (done : Table)
    (ahead : List Char) :
    readEntries fuel depth done (newLine indent ++ ahead) =
      readEntries fuel depth done ahead := by
  cases fuel with
  | zero => rfl
  | succ fuel =>
      unfold readEntries
      rw [skipSpace_newLine]

end JsonText

end GradleMigration

------------------------------------------------------------
-- First Characters
------------------------------------------------------------

namespace GradleMigration

namespace JsonText

/- The characters that a scalar may start with. -/
def startsScalar
    (c : Char) : Bool :=
  c = Text.doubleQuote || c = '-' || c.isDigit ||
    c = 'n' || c = 't' || c = 'f'

theorem ne_of_startsScalar
    {c other : Char}
    (h : startsScalar c = true)
    (hOther : startsScalar other = false) :
    c ≠ other := by
  intro hEq
  rw [hEq, hOther] at h
  cases h

theorem isSpace_of_startsScalar
    {c : Char}
    (h : startsScalar c = true) :
    isSpace c = false := by
  unfold isSpace
  rw [decide_eq_false (ne_of_startsScalar h (by decide)),
    decide_eq_false (ne_of_startsScalar h (by decide)),
    decide_eq_false (ne_of_startsScalar h (by decide)),
    decide_eq_false (ne_of_startsScalar h (by decide))]
  rfl

/- A text that starts like a scalar is read as a scalar. -/
theorem readValue_of_startsScalar
    {c : Char}
    (h : startsScalar c = true)
    (fuel depth : Nat)
    (more : List Char) :
    readValue (fuel + 1) depth (c :: more) =
      readScalar (c :: more) := by
  rw [readValue, skipSpace_cons (isSpace_of_startsScalar h)]
  split
  · next hEq =>
      exact absurd (List.cons.inj hEq).1
        (ne_of_startsScalar h (by decide))
  · next hEq =>
      exact absurd (List.cons.inj hEq).1
        (ne_of_startsScalar h (by decide))
  · rfl

/- Integers are written with a sign or a digit in front. -/
theorem toList_int_cons
    (n : Int) :
    ∃ c more, (toString n).toList = c :: more ∧
      startsScalar c = true := by
  rw [Text.toList_int]
  unfold Text.intSign
  split
  · exact ⟨'-', _, rfl, by decide⟩
  · cases hDigits : Nat.toDigits 10 n.natAbs with
    | nil => exact absurd hDigits Nat.toDigits_ne_nil
    | cons d more =>
        have hDigit : d.isDigit = true := by
          apply Text.isDigit_of_mem_digits (n := n.natAbs)
          rw [hDigits]
          exact List.mem_cons_self
        refine ⟨d, more, rfl, ?_⟩
        unfold startsScalar
        rw [hDigit]
        simp

/- Values start with no blank and no closing bracket. -/
theorem printAt_cons
    {depth : Nat}
    {value : Datum}
    (h : value.Readable depth)
    (indent : Nat) :
    ∃ c more, printAt indent value = c :: more ∧
      isSpace c = false ∧ c ≠ ']' := by
  have hScalar : ∀ {text : List Char},
      (∃ c more, text = c :: more ∧ startsScalar c = true) →
      ∃ c more, text = c :: more ∧ isSpace c = false ∧
        c ≠ ']' := by
    rintro text ⟨c, more, hText, hStarts⟩
    exact ⟨c, more, hText, isSpace_of_startsScalar hStarts,
      ne_of_startsScalar hStarts (by decide)⟩
  cases h with
  | null => exact hScalar ⟨_, _, rfl, by decide⟩
  | bool value =>
      cases value with
      | false => exact hScalar ⟨_, _, rfl, by decide⟩
      | true => exact hScalar ⟨_, _, rfl, by decide⟩
  | int h => exact hScalar (toList_int_cons _)
  | text value => exact hScalar ⟨_, _, rfl, by decide⟩
  | @list _ items h =>
      cases items with
      | nil => exact ⟨_, _, rfl, by decide, by decide⟩
      | cons item items =>
          exact ⟨_, _, rfl, by decide, by decide⟩
  | @table _ entries h hNames =>
      cases entries with
      | nil => exact ⟨_, _, rfl, by decide, by decide⟩
      | cons entry entries =>
          exact ⟨_, _, rfl, by decide, by decide⟩

end JsonText

end GradleMigration

------------------------------------------------------------
-- Lists
------------------------------------------------------------

namespace GradleMigration

namespace JsonText

/-
  A value at some indentation is read back, whatever may
  follow it, with one unit of fuel for each character.
-/
def ReadsBack
    (depth indent : Nat)
    (value : Datum) : Prop :=
  ∀ (fuel : Nat) (rest : List Char),
    (printAt indent value).length ≤ fuel →
    IsEnd rest →
    readValue fuel depth (printAt indent value ++ rest) =
      some (value, rest)

/- Further items and the closing line end a value. -/
theorem isEnd_printItems
    (indent outer : Nat)
    (items : List Datum)
    (rest : List Char) :
    IsEnd (printItems indent items ++
      (newLine outer ++ rest)) := by
  cases items with
  | nil => exact Or.inr rfl
  | cons item items => exact Or.inl rfl

/- The items of a list are read back one by one. -/
theorem readItems_printItems
    {depth indent : Nat}
    {item : Datum}
    {items : List Datum}
    (h : ∀ other ∈ item :: items,
      ReadsBack depth indent other)
    {fuel : Nat}
    (hFuel :
      (printAt indent item ++
        printItems indent items).length < fuel)
    (outer : Nat)
    (rest : List Char) :
    readItems fuel depth
        (printAt indent item ++ (printItems indent items ++
          (newLine outer ++ ']' :: rest))) =
      some (item :: items, rest) := by
  induction items generalizing item fuel with
  | nil =>
      cases fuel with
      | zero => exact absurd hFuel (Nat.not_lt_zero _)
      | succ fuel =>
          have hItem := h item List.mem_cons_self fuel
            (newLine outer ++ ']' :: rest)
            (by
              rw [List.length_append] at hFuel
              omega)
            (isEnd_printItems indent outer [] _)
          rw [readItems, printItems, List.nil_append, hItem]
          simp only
          rw [skipSpace_newLine, skipSpace_cons (by decide)]
          rfl
  | cons next items ih =>
      cases fuel with
      | zero => exact absurd hFuel (Nat.not_lt_zero _)
      | succ fuel =>
          have hItem := h item List.mem_cons_self fuel
            (printItems indent (next :: items) ++
              (newLine outer ++ ']' :: rest))
            (by
              rw [List.length_append] at hFuel
              omega)
            (isEnd_printItems indent outer _ _)
          have hLess :
              (printAt indent next ++
                printItems indent items).length < fuel := by
            rw [printItems] at hFuel
            simp only [List.length_append,
              List.length_cons] at hFuel ⊢
            omega
          have hItems := ih
            (fun other hMem => h other
              (List.mem_cons_of_mem _ hMem)) hLess
          rw [readItems, hItem]
          simp only [printItems, List.cons_append,
            List.append_assoc]
          rw [skipSpace_cons (by decide)]
          simp only
          rw [readItems_newLine, hItems]
          rfl

/- A list is read back when its items are. -/
theorem readsBack_list
    {depth indent : Nat}
    {items : List Datum}
    (h : ∀ item ∈ items, item.Readable depth)
    (hReads : ∀ item ∈ items,
      ReadsBack depth (indent + 2) item) :
    ReadsBack (depth + 1) indent (.list items) := by
  intro fuel rest hFuel hEnd
  cases items with
  | nil =>
      cases fuel with
      | zero => exact absurd hFuel (Nat.not_succ_le_zero _)
      | succ fuel => rfl
  | cons item items =>
      cases fuel with
      | zero => exact absurd hFuel (Nat.not_succ_le_zero _)
      | succ fuel =>
          rcases printAt_cons (h item List.mem_cons_self)
            (indent + 2) with ⟨c, more, hPrint, hSpace, hNot⟩
          have hLess :
              (printAt (indent + 2) item ++
                printItems (indent + 2) items).length <
                  fuel := by
            rw [printAt] at hFuel
            simp only [List.length_append,
              List.length_cons] at hFuel ⊢
            omega
          have hItems :=
            readItems_printItems hReads hLess indent rest
          rw [readValue, printAt]
          simp only [List.cons_append, List.append_assoc,
            List.nil_append]
          rw [skipSpace_cons (by decide)]
          simp only
          rw [skipSpace_newLine]
          rw [hPrint, List.cons_append] at hItems ⊢
          rw [skipSpace_cons hSpace]
          split
          · next hEq =>
              exact absurd (List.cons.inj hEq).1 hNot
          · rw [hItems]
            rfl

end JsonText

end GradleMigration

------------------------------------------------------------
-- Tables
------------------------------------------------------------

namespace GradleMigration

/- An entry with a new name is added at the end. -/
theorem Table.set_of_notMem
    {table : Table}
    {name : String}
    (h : name ∉ table.map Prod.fst)
    (value : Datum) :
    table.set name value = table ++ [(name, value)] := by
  induction table with
  | nil => rfl
  | cons entry rest ih =>
      rw [List.map_cons, List.mem_cons, not_or] at h
      rw [Table.set, if_neg (Ne.symm h.1), ih h.2]
      rfl

/- Of distinct names the next one is new. -/
theorem Table.notMem_of_nodup
    {done entries : Table}
    {name : String}
    {value : Datum}
    (h : ((done ++ (name, value) :: entries).map
      Prod.fst).Nodup) :
    name ∉ done.map Prod.fst := by
  intro hMem
  rw [List.map_append, List.nodup_append] at h
  exact h.2.2 name hMem name List.mem_cons_self rfl

namespace JsonText

/- A written name is read back. -/
theorem readName_printString
    (name : String)
    (rest : List Char) :
    readName (printString name ++ ':' :: rest) =
      some (name, rest) := by
  unfold printString readName
  simp only [List.cons_append, List.append_assoc,
    List.nil_append, if_true]
  rw [readString_printChars]
  simp only
  rw [skipSpace_cons (by decide)]
  simp

/- Further entries and the closing line end a value. -/
theorem isEnd_printEntries
    (indent outer : Nat)
    (entries : Table)
    (rest : List Char) :
    IsEnd (printEntries indent entries ++
      (newLine outer ++ rest)) := by
  cases entries with
  | nil => exact Or.inr rfl
  | cons entry entries => exact Or.inl rfl

section

variable {depth indent : Nat} {value : Datum}
variable {fuel : Nat} {rest after : List Char}

/- The name and the value of the first entry are read. -/
theorem readEntry_cons
    (h : ReadsBack depth indent value)
    (hFuel : (printAt indent value).length ≤ fuel)
    (hEnd : IsEnd rest)
    (name : String) :
    ∃ behind,
      readName (skipSpace (printString name ++ ':' :: ' ' ::
        (printAt indent value ++ rest))) =
          some (name, behind) ∧
      readValue fuel depth behind = some (value, rest) := by
  have hBlank : ∀ c ∈ [' '], isSpace c = true :=
    List.forall_mem_singleton.mpr (by decide)
  have hSkip :
      skipSpace (printString name ++ ':' :: ' ' ::
          (printAt indent value ++ rest)) =
        printString name ++ ':' :: ' ' ::
          (printAt indent value ++ rest) :=
    skipSpace_cons (by decide) _
  refine ⟨' ' :: (printAt indent value ++ rest), ?_, ?_⟩
  · rw [hSkip, readName_printString]
  · rw [← h fuel rest hFuel hEnd]
    exact readValue_append hBlank fuel depth _

/- The last entry ends the table. -/
theorem readEntries_last
    (h : ReadsBack depth indent value)
    (hFuel : (printAt indent value).length ≤ fuel)
    (hEnd : IsEnd rest)
    (hClose : skipSpace rest = '\x7d' :: after)
    (name : String)
    (done : Table) :
    readEntries (fuel + 1) depth done
        (printString name ++ ':' :: ' ' ::
          (printAt indent value ++ rest)) =
      some (done.set name value, after) := by
  rcases readEntry_cons h hFuel hEnd name with
    ⟨behind, hName, hValue⟩
  rw [readEntries, hName]
  simp only [hValue, hClose]

/- Behind a comma the next entry is read. -/
theorem readEntries_more
    (h : ReadsBack depth indent value)
    (hFuel : (printAt indent value).length ≤ fuel)
    (hEnd : IsEnd rest)
    (hComma : skipSpace rest = ',' :: after)
    (name : String)
    (done : Table) :
    readEntries (fuel + 1) depth done
        (printString name ++ ':' :: ' ' ::
          (printAt indent value ++ rest)) =
      readEntries fuel depth (done.set name value) after := by
  rcases readEntry_cons h hFuel hEnd name with
    ⟨behind, hName, hValue⟩
  rw [readEntries, hName]
  simp only [hValue, hComma]

end

/- The entries of a table are read back one by one. -/
theorem readEntries_printEntries
    {depth indent : Nat}
    {name : String}
    {value : Datum}
    {entries : Table}
    (h : ∀ entry ∈ (name, value) :: entries,
      ReadsBack depth indent entry.2)
    (done : Table)
    (hNames : ((done ++ (name, value) :: entries).map
      Prod.fst).Nodup)
    {fuel : Nat}
    (hFuel :
      (printAt indent value ++
        printEntries indent entries).length < fuel)
    (outer : Nat)
    (rest : List Char) :
    readEntries fuel depth done
        (printString name ++ ':' :: ' ' ::
          (printAt indent value ++
            (printEntries indent entries ++
              (newLine outer ++ '\x7d' :: rest)))) =
      some (done ++ (name, value) :: entries, rest) := by
  induction entries generalizing name value done fuel with
  | nil =>
      cases fuel with
      | zero => exact absurd hFuel (Nat.not_lt_zero _)
      | succ fuel =>
          have hLess : (printAt indent value).length ≤ fuel := by
            rw [List.length_append] at hFuel
            omega
          have hClose :
              skipSpace (printEntries indent [] ++
                  (newLine outer ++ '\x7d' :: rest)) =
                '\x7d' :: rest := by
            rw [printEntries, List.nil_append,
              skipSpace_newLine, skipSpace_cons (by decide)]
          rw [readEntries_last (h _ List.mem_cons_self) hLess
            (isEnd_printEntries indent outer _ _) hClose,
            Table.set_of_notMem (Table.notMem_of_nodup hNames)]
  | cons entry entries ih =>
      rcases entry with ⟨next, datum⟩
      cases fuel with
      | zero => exact absurd hFuel (Nat.not_lt_zero _)
      | succ fuel =>
          have hHere : (printAt indent value).length ≤ fuel := by
            rw [List.length_append] at hFuel
            omega
          have hLess :
              (printAt indent datum ++
                printEntries indent entries).length < fuel := by
            rw [printEntries] at hFuel
            simp only [List.length_append,
              List.length_cons] at hFuel ⊢
            omega
          have hSet := Table.set_of_notMem
            (Table.notMem_of_nodup hNames) value
          have hMore : done ++ (name, value) ::
              (next, datum) :: entries =
                done ++ [(name, value)] ++
                  (next, datum) :: entries := by
            rw [List.append_assoc]
            rfl
          rw [hMore] at hNames
          have hEntries := ih
            (fun other hMem => h other
              (List.mem_cons_of_mem _ hMem))
            _ hNames hLess
          have hComma :
              skipSpace (printEntries indent
                  ((next, datum) :: entries) ++
                    (newLine outer ++ '\x7d' :: rest)) =
                ',' :: (newLine indent ++ (printString next ++
                  ':' :: ' ' :: (printAt indent datum ++
                    (printEntries indent entries ++
                      (newLine outer ++ '\x7d' :: rest))))) := by
            rw [printEntries]
            simp only [List.cons_append, List.append_assoc,
              List.nil_append]
            rw [skipSpace_cons (by decide)]
          rw [readEntries_more (h _ List.mem_cons_self) hHere
            (isEnd_printEntries indent outer _ _) hComma, hSet,
            readEntries_newLine, hEntries, hMore]

/- A table is read back when its entries are. -/
theorem readsBack_table
    {depth indent : Nat}
    {entries : Table}
    (hNames : (entries.map Prod.fst).Nodup)
    (hReads : ∀ entry ∈ entries,
      ReadsBack depth (indent + 2) entry.2) :
    ReadsBack (depth + 1) indent (.table entries) := by
  intro fuel rest hFuel hEnd
  cases entries with
  | nil =>
      cases fuel with
      | zero => exact absurd hFuel (Nat.not_succ_le_zero _)
      | succ fuel => rfl
  | cons entry entries =>
      rcases entry with ⟨name, value⟩
      cases fuel with
      | zero => exact absurd hFuel (Nat.not_succ_le_zero _)
      | succ fuel =>
          have hLess :
              (printAt (indent + 2) value ++
                printEntries (indent + 2) entries).length <
                  fuel := by
            rw [printAt] at hFuel
            simp only [List.length_append,
              List.length_cons] at hFuel ⊢
            omega
          have hEntries := readEntries_printEntries hReads []
            hNames hLess indent rest
          have hSkip : ∀ more,
              skipSpace (printString name ++ more) =
                printString name ++ more :=
            fun more => skipSpace_cons (by decide) _
          rw [readValue, printAt]
          simp only [List.cons_append, List.append_assoc,
            List.nil_append]
          rw [skipSpace_cons (by decide)]
          simp only
          rw [skipSpace_newLine, hSkip]
          split
          · next hEq =>
              exact absurd (List.cons.inj hEq).1 (by decide)
          · rw [hEntries]
            rfl

end JsonText

end GradleMigration

------------------------------------------------------------
-- Values
------------------------------------------------------------

namespace GradleMigration

namespace JsonText

/- A scalar is read back when it is read as a scalar. -/
theorem readsBack_of_readScalar
    {value : Datum}
    {indent : Nat}
    (hStarts : ∃ c more, printAt indent value = c :: more ∧
      startsScalar c = true)
    (hRead : ∀ rest, IsEnd rest →
      readScalar (printAt indent value ++ rest) =
        some (value, rest))
    (depth : Nat) :
    ReadsBack depth indent value := by
  rcases hStarts with ⟨c, more, hPrint, hC⟩
  intro fuel rest hFuel hEnd
  have hScalar := hRead rest hEnd
  rw [hPrint] at hFuel hScalar ⊢
  cases fuel with
  | zero => exact absurd hFuel (Nat.not_succ_le_zero _)
  | succ fuel =>
      rw [List.cons_append] at hScalar ⊢
      rw [readValue_of_startsScalar hC, hScalar]

/- Readable data are read back. -/
theorem readValue_printAt
    {depth : Nat}
    {value : Datum}
    (h : value.Readable depth)
    (indent : Nat) :
    ReadsBack depth indent value := by
  induction h generalizing indent with
  | null =>
      exact readsBack_of_readScalar
        ⟨_, _, rfl, by decide⟩ (fun _ _ => rfl) _
  | bool value =>
      cases value with
      | false =>
          exact readsBack_of_readScalar
            ⟨_, _, rfl, by decide⟩ (fun _ _ => rfl) _
      | true =>
          exact readsBack_of_readScalar
            ⟨_, _, rfl, by decide⟩ (fun _ _ => rfl) _
  | int h =>
      apply readsBack_of_readScalar
      · rw [printAt]
        exact toList_int_cons _
      · intro rest hEnd
        rw [printAt]
        exact readScalar_int h hEnd
  | text value =>
      apply readsBack_of_readScalar
      · exact ⟨_, _, rfl, by decide⟩
      · intro rest hEnd
        rw [printAt]
        exact readScalar_text value rest
  | list h ih =>
      exact readsBack_list h fun item hMem =>
        ih item hMem (indent + 2)
  | table h hNames ih =>
      exact readsBack_table hNames fun entry hMem =>
        ih entry hMem (indent + 2)

/- What has been written as JSON is read back. -/
theorem parse_print
    {value : Datum}
    (h : value.Readable maxDepth) :
    parse (print value) = some value := by
  have hRead := readValue_printAt h 0
    (2 * (print value).length + 2) []
    (by
      unfold print
      omega)
    trivial
  rw [List.append_nil] at hRead
  unfold parse
  rw [print] at hRead ⊢
  rw [hRead]
  rfl

end JsonText

end GradleMigration

------------------------------------------------------------
-- Line Ends
------------------------------------------------------------

namespace GradleMigration

namespace Text

/- Without carriage returns no line end changes. -/
theorem unifyNewlines_of_notMem
    {text : List Char}
    (h : '\r' ∉ text) :
    unifyNewlines text = text := by
  induction text with
  | nil => rfl
  | cons c rest ih =>
      rw [List.mem_cons, not_or] at h
      rw [unifyNewlines, ih h.2]
      · intro more hEq
        exact absurd hEq.symm h.1
      · intro hEq
        exact absurd hEq.symm h.1

end Text

namespace JsonText

/- Carriage returns are written by an escape. -/
theorem notMem_printChar
    (c : Char) :
    '\r' ∉ printChar c := by
  have hCodes : ∀ n < 32, '\r' ∉ Text.hexDigits 4 n := by
    decide
  rcases printChar_cases c with
    ⟨d, hPrint, -, hEscape⟩ | ⟨hLow, hPrint⟩ |
      ⟨-, -, hCode, hPrint⟩
  · rw [hPrint]
    simp only [List.mem_cons, List.not_mem_nil, or_false,
      not_or]
    refine ⟨by decide, ?_⟩
    rintro rfl
    cases hEscape
  · rw [hPrint]
    simp only [List.mem_cons, not_or]
    exact ⟨by decide, by decide, hCodes _ hLow⟩
  · rw [hPrint, List.mem_singleton]
    rintro rfl
    exact hCode (by decide)

theorem notMem_printString
    (text : String) :
    '\r' ∉ printString text := by
  unfold printString
  intro hMem
  rcases List.mem_append.mp hMem with hMem | hMem
  · rcases List.mem_cons.mp hMem with hEq | hMem
    · exact absurd hEq (by decide)
    · rcases List.mem_flatMap.mp hMem with ⟨c, -, hC⟩
      exact notMem_printChar c hC
  · exact absurd (List.mem_singleton.mp hMem) (by decide)

theorem notMem_newLine
    (indent : Nat) :
    '\r' ∉ newLine indent := by
  unfold newLine
  intro hMem
  rcases List.mem_cons.mp hMem with hEq | hMem
  · exact absurd hEq (by decide)
  · exact absurd (List.mem_replicate.mp hMem).2 (by decide)

theorem notMem_printItems
    {indent : Nat}
    {items : List Datum}
    (h : ∀ item ∈ items, '\r' ∉ printAt indent item) :
    '\r' ∉ printItems indent items := by
  induction items with
  | nil =>
      rw [printItems]
      exact List.not_mem_nil
  | cons item items ih =>
      rw [List.forall_mem_cons] at h
      rw [printItems]
      simp [notMem_newLine, h.1, ih h.2]

theorem notMem_printEntries
    {indent : Nat}
    {entries : Table}
    (h : ∀ entry ∈ entries, '\r' ∉ printAt indent entry.2) :
    '\r' ∉ printEntries indent entries := by
  induction entries with
  | nil =>
      rw [printEntries]
      exact List.not_mem_nil
  | cons entry entries ih =>
      rw [List.forall_mem_cons] at h
      rw [printEntries]
      simp [notMem_newLine, notMem_printString, h.1, ih h.2]

/- No carriage return is written. -/
theorem notMem_printAt
    {depth : Nat}
    {value : Datum}
    (h : value.Readable depth)
    (indent : Nat) :
    '\r' ∉ printAt indent value := by
  induction h generalizing indent with
  | null =>
      rw [printAt]
      decide
  | bool value =>
      cases value with
      | false =>
          rw [printAt]
          decide
      | true =>
          rw [printAt]
          decide
  | @int _ n h =>
      rw [printAt, Text.toList_int, Text.intSign]
      intro hMem
      rcases List.mem_append.mp hMem with hMem | hMem
      · split at hMem
        · exact absurd (List.mem_singleton.mp hMem)
            (by decide)
        · cases hMem
      · exact absurd (Text.isDigit_of_mem_digits hMem)
          (by decide)
  | text value =>
      rw [printAt]
      exact notMem_printString value
  | @list _ items h ih =>
      cases items with
      | nil =>
          rw [printAt]
          decide
      | cons item items =>
          rw [List.forall_mem_cons] at ih
          have hItems := notMem_printItems
            fun other hMem => ih.2 other hMem (indent + 2)
          rw [printAt]
          simp [notMem_newLine, ih.1 (indent + 2), hItems]
  | @table _ entries h hNames ih =>
      cases entries with
      | nil =>
          rw [printAt]
          decide
      | cons entry entries =>
          rw [List.forall_mem_cons] at ih
          have hEntries := notMem_printEntries
            fun other hMem => ih.2 other hMem (indent + 2)
          rw [printAt]
          simp [notMem_newLine, notMem_printString,
            ih.1 (indent + 2), hEntries]

/- Reading with any line ends leaves written data alone. -/
theorem unifyNewlines_print
    {depth : Nat}
    {value : Datum}
    (h : value.Readable depth) :
    Text.unifyNewlines (print value) = print value :=
  Text.unifyNewlines_of_notMem (notMem_printAt h 0)

end JsonText

end GradleMigration
