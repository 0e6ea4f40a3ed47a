import GradleMigration.Proofs.Pattern.Spelling
import GradleMigration.Proofs.Rule.OnePerLine

/-
  Old releases that the address of a distribution names.

  One release of an address is replaced by a newer one, and
  what is in front of it and behind it is kept.  Releases do
  not share characters, because each has its only `g` at its
  start, so all other releases are kept as they are.

  Main declarations:
    * `namesRelease` and `IsRelease`
    * `namesRelease_iff`
    * `releases`
    * `releases_append`
    * `Release.form`
    * `Release.exists_replaced`
    * `Release.spends` and `Release.wears`
-/

------------------------------------------------------------
-- Releases in a Text
------------------------------------------------------------

namespace GradleMigration

/- The majors of old releases. -/
def isOldMajor
    (c : Char) : Bool :=
  49 ≤ c.toNat && c.toNat ≤ 56

/- What is behind the digits at the front of a text. -/
def behindDigits : List Char → Option (List Char)
| [] => none
| c :: rest =>
    if Text.isDigit c then
      some (rest.dropWhile Text.isDigit)
    else
      none

/- What is behind a mark and digits, if they are there. -/
def behindPart
    (mark text : List Char) : List Char :=
  if mark.isPrefixOf text then
    (behindDigits (text.drop mark.length)).getD text
  else
    text

/- The marks in front of a patch and of a candidate. -/
def patchMark : List Char :=
  ['.']

def candidateMark : List Char :=
  "-rc-".toList

/- The kinds of distributions. -/
def kinds : List (List Char) :=
  ["-bin.zip".toList, "-all.zip".toList]

/- What releases start with. -/
def releaseMark : List Char :=
  "gradle-".toList

/-
  Whether a text starts with the file name of an old release:
  two numbers or three, perhaps a candidate, and the kind.
-/
def namesRelease
    (text : List Char) : Bool :=
  releaseMark.isPrefixOf text &&
    match text.drop releaseMark.length with
    | major :: '.' :: rest =>
        isOldMajor major &&
          match behindDigits rest with
          | none => false
          | some behind =>
              kinds.any (·.isPrefixOf
                (behindPart candidateMark
                  (behindPart patchMark behind)))
    | _ => false

/- The number of old releases in a text. -/
def releases : List Char → Nat
| [] => 0
| c :: rest =>
    (if namesRelease (c :: rest) then 1 else 0) + releases rest

/- One digit or more. -/
def IsDigits
    (text : List Char) : Prop :=
  text ≠ [] ∧ ∀ c ∈ text, Text.isDigit c = true

/- Digits behind a mark, or nothing. -/
def IsPart
    (mark text : List Char) : Prop :=
  text = [] ∨ ∃ digits, IsDigits digits ∧ text = mark ++ digits

/- The file names of old releases. -/
inductive IsRelease : List Char → Prop
| intro
    {major : Char}
    {minor patch candidate kind : List Char}
    (hMajor : isOldMajor major = true)
    (hMinor : IsDigits minor)
    (hPatch : IsPart patchMark patch)
    (hCandidate : IsPart candidateMark candidate)
    (hKind : kind ∈ kinds) :
    IsRelease (releaseMark ++ (major :: '.' ::
      (minor ++ (patch ++ (candidate ++ kind)))))

/- Digits are passed over, up to another character. -/
theorem behindDigits_append
    {digits rest : List Char}
    (h : IsDigits digits)
    (hEnd : ∀ c, rest.head? = some c →
      Text.isDigit c = false) :
    behindDigits (digits ++ rest) = some rest := by
  rcases h with ⟨hNe, hDigits⟩
  cases digits with
  | nil => exact absurd rfl hNe
  | cons c more =>
      have hMore : ∀ d ∈ more, Text.isDigit d = true :=
        fun d hD => hDigits d (List.mem_cons_of_mem _ hD)
      have hRest : rest.dropWhile Text.isDigit = rest := by
        cases rest with
        | nil => rfl
        | cons d others =>
            rw [List.dropWhile_cons, hEnd d rfl]
            rfl
      rw [List.cons_append, behindDigits,
        if_pos (hDigits c List.mem_cons_self),
        List.dropWhile_append_of_pos hMore, hRest]

/- Only digits are passed over. -/
theorem of_behindDigits
    {text rest : List Char}
    (h : behindDigits text = some rest) :
    ∃ digits, IsDigits digits ∧ text = digits ++ rest := by
  unfold behindDigits at h
  split at h
  · cases h
  · next c more =>
      split at h
      · next hC =>
          cases h
          refine ⟨c :: more.takeWhile Text.isDigit,
            ⟨List.cons_ne_nil _ _, ?_⟩, ?_⟩
          · intro d hD
            rcases List.mem_cons.mp hD with hHere | hMore
            · exact hHere ▸ hC
            · exact List.all_eq_true.mp List.all_takeWhile d
                hMore
          · rw [List.cons_append,
              List.takeWhile_append_dropWhile]
      · cases h

/- A part is passed over, up to what cannot go on with it. -/
theorem behindPart_append
    {mark part rest : List Char}
    (h : IsPart mark part)
    (hEnd : ∀ c, rest.head? = some c →
      Text.isDigit c = false)
    (hMark : mark.isPrefixOf rest = false) :
    behindPart mark (part ++ rest) = rest := by
  unfold behindPart
  rcases h with hNil | ⟨digits, hDigits, hPart⟩
  · rw [hNil, List.nil_append, hMark]
    rfl
  · have hPrefix : mark.isPrefixOf (part ++ rest) = true := by
      rw [hPart, List.append_assoc]
      exact List.isPrefixOf_iff_prefix.mpr
        (List.prefix_append _ _)
    rw [if_pos hPrefix, hPart, List.append_assoc,
      List.drop_left, behindDigits_append hDigits hEnd]
    rfl

/- Only a part is passed over. -/
theorem exists_part
    (mark text : List Char) :
    ∃ part, IsPart mark part ∧
      text = part ++ behindPart mark text := by
  unfold behindPart
  split
  · next hPrefix =>
      rcases List.isPrefixOf_iff_prefix.mp hPrefix with
        ⟨rest, hRest⟩
      rw [← hRest, List.drop_left]
      cases hBehind : behindDigits rest with
      | none => exact ⟨[], Or.inl rfl, rfl⟩
      | some behind =>
          rcases of_behindDigits hBehind with
            ⟨digits, hDigits, hSplit⟩
          refine ⟨mark ++ digits,
            Or.inr ⟨digits, hDigits, rfl⟩, ?_⟩
          rw [List.append_assoc, hSplit]
          rfl
  · exact ⟨[], Or.inl rfl, rfl⟩

/- A kind is no number, no patch and no candidate. -/
theorem kind_start
    {kind : List Char}
    (h : kind ∈ kinds)
    (tail : List Char) :
    (∃ rest, kind ++ tail = '-' :: rest) ∧
      candidateMark.isPrefixOf (kind ++ tail) = false := by
  simp only [kinds, List.mem_cons, List.not_mem_nil, or_false]
    at h
  rcases h with hBin | hAll
  · subst hBin
    exact ⟨⟨_, rfl⟩, rfl⟩
  · subst hAll
    exact ⟨⟨_, rfl⟩, rfl⟩

/- A candidate and a kind start with a dash. -/
theorem candidate_start
    {candidate kind : List Char}
    (hCandidate : IsPart candidateMark candidate)
    (hKind : kind ∈ kinds)
    (tail : List Char) :
    ∃ rest, candidate ++ (kind ++ tail) = '-' :: rest := by
  rcases hCandidate with hNil | ⟨digits, _, hDigits⟩
  · subst hNil
    exact (kind_start hKind tail).1
  · subst hDigits
    exact ⟨_, rfl⟩

theorem isDigit_of_dash
    {text rest : List Char}
    (h : text = '-' :: rest) :
    ∀ c, text.head? = some c → Text.isDigit c = false := by
  intro c hC
  rw [h] at hC
  cases hC
  decide

/- What is behind the minor number of a release. -/
theorem behindPart_release
    {patch candidate kind : List Char}
    (hPatch : IsPart patchMark patch)
    (hCandidate : IsPart candidateMark candidate)
    (hKind : kind ∈ kinds)
    (tail : List Char) :
    behindPart candidateMark (behindPart patchMark
        (patch ++ (candidate ++ (kind ++ tail)))) =
      kind ++ tail := by
  rcases kind_start hKind tail with ⟨⟨rest, hDash⟩, hOther⟩
  rcases candidate_start hCandidate hKind tail with
    ⟨more, hMore⟩
  have hMark :
      patchMark.isPrefixOf (candidate ++ (kind ++ tail)) =
        false := by
    rw [hMore]
    rfl
  rw [behindPart_append hPatch (isDigit_of_dash hMore) hMark,
    behindPart_append hCandidate (isDigit_of_dash hDash) hOther]

/- What is behind the minor number starts with no digit. -/
theorem patch_start
    {patch candidate kind : List Char}
    (hPatch : IsPart patchMark patch)
    (hCandidate : IsPart candidateMark candidate)
    (hKind : kind ∈ kinds)
    (tail : List Char) :
    ∀ c, (patch ++ (candidate ++ (kind ++ tail))).head? =
        some c →
      Text.isDigit c = false := by
  rcases hPatch with hNil | ⟨digits, _, hDigits⟩
  · subst hNil
    rcases candidate_start hCandidate hKind tail with
      ⟨rest, hDash⟩
    exact isDigit_of_dash hDash
  · subst hDigits
    intro c hC
    cases hC
    decide

/- A text names a release exactly when one is at its front. -/
theorem namesRelease_iff
    {text : List Char} :
    namesRelease text = true ↔
      ∃ word tail, text = word ++ tail ∧ IsRelease word := by
  unfold namesRelease
  rw [Bool.and_eq_true]
  constructor
  · rintro ⟨hMark, hNumbers⟩
    rcases List.isPrefixOf_iff_prefix.mp hMark with
      ⟨behind, hBehind⟩
    subst hBehind
    rw [List.drop_left] at hNumbers
    split at hNumbers
    · next major rest =>
        rcases Bool.and_eq_true_iff.mp hNumbers with
          ⟨hMajor, hRest⟩
        split at hRest
        · cases hRest
        · next more hMore =>
            rcases of_behindDigits hMore with
              ⟨minor, hMinor, hSplit⟩
            rcases exists_part patchMark more with
              ⟨patch, hPatch, hFirst⟩
            rcases exists_part candidateMark
                (behindPart patchMark more) with
              ⟨candidate, hCandidate, hSecond⟩
            rcases List.any_eq_true.mp hRest with
              ⟨kind, hKind, hLast⟩
            rcases List.isPrefixOf_iff_prefix.mp hLast with
              ⟨tail, hTail⟩
            refine ⟨_, tail, ?_, .intro hMajor hMinor hPatch
              hCandidate hKind⟩
            rw [hSplit, hFirst, hSecond, ← hTail]
            simp
    · cases hNumbers
  · rintro ⟨word, tail, hText, hWord⟩
    subst hText
    cases hWord with
    | intro hMajor hMinor hPatch hCandidate hKind =>
        refine ⟨?_, ?_⟩
        · rw [List.append_assoc]
          exact List.isPrefixOf_iff_prefix.mpr
            (List.prefix_append _ _)
        · rw [List.append_assoc, List.drop_left]
          simp only [List.cons_append, List.append_assoc]
          rw [behindDigits_append hMinor
            (patch_start hPatch hCandidate hKind tail)]
          simp only [behindPart_release hPatch hCandidate hKind]
          rw [hMajor, Bool.true_and, List.any_eq_true]
          exact ⟨_, hKind, List.isPrefixOf_iff_prefix.mpr
            (List.prefix_append _ _)⟩

theorem IsDigits.not_mem
    {digits : List Char}
    (h : IsDigits digits) :
    'g' ∉ digits := by
  intro hMem
  have hDigit := h.2 'g' hMem
  revert hDigit
  decide

theorem IsPart.not_mem
    {mark part : List Char}
    (h : IsPart mark part)
    (hMark : 'g' ∉ mark) :
    'g' ∉ part := by
  rcases h with hNil | ⟨digits, hDigits, hPart⟩
  · subst hNil
    exact List.not_mem_nil
  · rw [hPart, List.mem_append, not_or]
    exact ⟨hMark, hDigits.not_mem⟩

/- A release has its only `g` at its start. -/
theorem IsRelease.start
    {word : List Char}
    (h : IsRelease word) :
    ∃ rest, word = 'g' :: rest ∧ 'g' ∉ rest := by
  cases h with
  | @intro major minor patch candidate kind hMajor hMinor
      hPatch hCandidate hKind =>
      refine ⟨"radle-".toList ++ (major :: '.' ::
        (minor ++ (patch ++ (candidate ++ kind)))), rfl, ?_⟩
      have hNotMajor : 'g' ≠ major := by
        intro hEq
        subst hEq
        revert hMajor
        decide
      have hNotKind : 'g' ∉ kind := by
        revert hKind kind
        decide
      simp only [List.mem_append, List.mem_cons, not_or]
      exact ⟨by decide, hNotMajor, by decide, hMinor.not_mem,
        hPatch.not_mem (by decide),
        hCandidate.not_mem (by decide), hNotKind⟩

end GradleMigration

------------------------------------------------------------
-- Counting Releases
------------------------------------------------------------

namespace GradleMigration

open Script

/- A text that names a release starts with `g`. -/
theorem namesRelease_cons_of_ne
    {c : Char}
    (h : c ≠ 'g')
    (rest : List Char) :
    namesRelease (c :: rest) = false := by
  rw [Bool.eq_false_iff]
  intro hNames
  rcases namesRelease_iff.mp hNames with
    ⟨word, tail, hText, hWord⟩
  rcases hWord.start with ⟨more, hStart, _⟩
  rw [hStart, List.cons_append, List.cons.injEq] at hText
  exact h hText.1

/- Without a `g` there is no release. -/
theorem releases_append_of_not_mem
    {front : List Char}
    (h : 'g' ∉ front)
    (rest : List Char) :
    releases (front ++ rest) = releases rest := by
  induction front with
  | nil => rfl
  | cons c more ih =>
      rw [List.mem_cons, not_or] at h
      rw [List.cons_append, releases,
        namesRelease_cons_of_ne (Ne.symm h.1), ih h.2]
      simp

/- A release does not go beyond the next `g`. -/
theorem namesRelease_append
    {front : List Char}
    (hFront : front ≠ [])
    (rest : List Char) :
    namesRelease (front ++ 'g' :: rest) =
      namesRelease front := by
  rw [Bool.eq_iff_iff, namesRelease_iff, namesRelease_iff]
  constructor
  · rintro ⟨word, tail, hText, hWord⟩
    rcases List.append_eq_append_iff.mp hText with
      ⟨left, hSplit, hRest⟩ | ⟨behind, hSplit, _⟩
    · cases left with
      | nil =>
          refine ⟨word, [], ?_, hWord⟩
          rw [hSplit, List.append_nil, List.append_nil]
      | cons c left =>
          -- The next `g` would be inside of the release.
          exfalso
          rcases hWord.start with ⟨more, hStart, hMore⟩
          cases front with
          | nil => exact hFront rfl
          | cons d front =>
              rw [List.cons_append, List.cons.injEq] at hRest
              rw [hStart, List.cons_append, List.cons.injEq,
                ← hRest.1] at hSplit
              apply hMore
              rw [hSplit.2]
              simp
    · exact ⟨word, behind, hSplit, hWord⟩
  · rintro ⟨word, tail, hText, hWord⟩
    refine ⟨word, tail ++ 'g' :: rest, ?_, hWord⟩
    rw [hText, List.append_assoc]

/- Releases in front of a `g` and from it on. -/
theorem releases_append
    (front rest : List Char) :
    releases (front ++ 'g' :: rest) =
      releases front + releases ('g' :: rest) := by
  induction front with
  | nil => exact (Nat.zero_add _).symm
  | cons c more ih =>
      have hSame : namesRelease (c :: (more ++ 'g' :: rest)) =
          namesRelease (c :: more) :=
        namesRelease_append (List.cons_ne_nil c more) rest
      have hMore : releases (c :: more) =
          (if namesRelease (c :: more) then 1 else 0) +
            releases more := rfl
      rw [List.cons_append, releases, hSame, ih, hMore,
        Nat.add_assoc]

/- The end of a text has no more releases than the text. -/
theorem releases_suffix
    (front rest : List Char) :
    releases rest ≤ releases (front ++ rest) := by
  induction front with
  | nil => exact Nat.le_refl _
  | cons c more ih =>
      rw [List.cons_append, releases]
      exact Nat.le_trans ih (Nat.le_add_left _ _)

/- A release, and those behind it. -/
theorem IsRelease.releases_append
    {word : List Char}
    (h : IsRelease word)
    (tail : List Char) :
    releases (word ++ tail) = releases tail + 1 := by
  have hNames : namesRelease (word ++ tail) = true :=
    namesRelease_iff.mpr ⟨word, tail, rfl, h⟩
  rcases h.start with ⟨rest, hWord, hRest⟩
  subst hWord
  rw [List.cons_append] at hNames ⊢
  rw [releases, hNames, releases_append_of_not_mem hRest,
    if_pos rfl, Nat.add_comm]

/- The releases of a text, counted. -/
def Release.tally : Tally where
  count _ := releases
  suffix _ := releases_suffix

end GradleMigration

------------------------------------------------------------
-- Replacing a Release
------------------------------------------------------------

namespace GradleMigration

open Script

namespace Pattern

/- One digit or more. -/
def digits : Pattern :=
  .loop ⟨1, none⟩ .greedy
    (.one ⟨false, [.kind .digit false false], .exact⟩)

/- The address of a distribution, up to its release. -/
def address : Pattern :=
  .group 1 <| .spelled "distributionUrl=".toList <|
    .seq (.loop ⟨0, none⟩ .greedy inLine)
      (.spelled "gradle".toList (.letter '-'))

/- The kind of a distribution. -/
def kind : Pattern :=
  .group 2 <| .seq (.letter '-') <|
    .seq
      (.alt (.spelled "bi".toList (.letter 'n'))
        (.spelled "al".toList (.letter 'l')))
      (.spelled ".zi".toList (.letter 'p'))

/- Digits behind a mark, if they are there. -/
def part
    (mark : List Char) : Pattern :=
  .loop ⟨0, some 1⟩ .greedy (.spelled mark digits)

/- The numbers of an old release, and its kind. -/
def oldNumbers : Pattern :=
  .seq (.one ⟨false, [.range 49 56], .exact⟩) <|
    .seq (.letter '.') <|
      .seq digits <|
        .seq (part patchMark) (.seq (part candidateMark) kind)

/- What digits pass over. -/
theorem passes_of_mem_digits
    {s t : Spot}
    (h : t ∈ digits.ways s) :
    ∃ text, IsDigits text ∧ s.Passes t text [] := by
  rcases passes_of_mem_repeated h with ⟨text, hText, hPasses⟩
  refine ⟨text, ⟨?_, ?_⟩, hPasses⟩
  · intro hNil
    have hMoves := pos_lt_of_mem_ways rfl h
    rw [hPasses.pos, hNil] at hMoves
    exact Nat.lt_irrefl _ hMoves
  · intro c hC
    have hAccepts := List.all_eq_true.mp hText c hC
    simpa [CharTest.accepts, SetItem.accepts,
      CharKind.holds] using hAccepts

/- What digits behind a mark pass over, where they are. -/
theorem passes_of_mem_part
    {mark : List Char}
    {s t : Spot}
    (h : t ∈ (part mark).ways s) :
    ∃ part, IsPart mark part ∧ s.Passes t part [] := by
  rcases mem_ways_optional h with hSkip | hPart
  · subst hSkip
    exact ⟨[], Or.inl rfl, .refl t⟩
  · rcases passes_of_mem_spelled hPart with ⟨u, hMark, hDigits⟩
    rcases passes_of_mem_digits hDigits with
      ⟨text, hText, hPasses⟩
    exact ⟨mark ++ text, Or.inr ⟨text, hText, rfl⟩,
      hMark.trans hPasses⟩

/- What a text that is spelled to its end passes over. -/
theorem passes_of_mem_word
    {text : List Char}
    {c : Char}
    {s t : Spot}
    (h : t ∈ (spelled text (.letter c)).ways s) :
    s.Passes t (text ++ [c]) [] := by
  rcases passes_of_mem_spelled h with ⟨u, hText, hLast⟩
  exact hText.trans (passes_of_mem_letter hLast)

/- What the kind of a distribution passes over and keeps. -/
theorem passes_of_mem_kind
    {s t : Spot}
    (h : t ∈ kind.ways s) :
    ∃ text ∈ kinds, s.Passes t text [(2, text)] := by
  rcases passes_of_mem_group h with ⟨u, hU, hKeeps⟩
  rcases List.mem_flatMap.mp hU with ⟨v, hV, hU⟩
  rcases List.mem_flatMap.mp hU with ⟨w, hW, hU⟩
  have hDash := passes_of_mem_letter hV
  have hZip := passes_of_mem_word hU
  rcases List.mem_append.mp hW with hBin | hAll
  · have hText := (hDash.trans (passes_of_mem_word hBin)).trans
      hZip
    exact ⟨_, by decide, hKeeps _ _ hText⟩
  · have hText := (hDash.trans (passes_of_mem_word hAll)).trans
      hZip
    exact ⟨_, by decide, hKeeps _ _ hText⟩

/- What an address passes over and keeps. -/
theorem passes_of_mem_address
    {s t : Spot}
    (h : t ∈ address.ways s) :
    ∃ path, s.Passes t (path ++ releaseMark)
      [(1, path ++ releaseMark)] := by
  rcases passes_of_mem_group h with ⟨u, hU, hKeeps⟩
  rcases passes_of_mem_spelled hU with ⟨v, hStart, hU⟩
  rcases List.mem_flatMap.mp hU with ⟨w, hW, hU⟩
  rcases passes_of_mem_repeated hW with ⟨more, _, hMore⟩
  have hText := (hStart.trans hMore).trans
    (passes_of_mem_word hU)
  exact ⟨_, hKeeps _ _ hText⟩

/- What the numbers of an old release pass over. -/
theorem passes_of_mem_oldNumbers
    {s t : Spot}
    (h : t ∈ oldNumbers.ways s) :
    ∃ numbers, ∃ kind ∈ kinds,
      s.Passes t (numbers ++ kind) [(2, kind)] ∧
        IsRelease (releaseMark ++ (numbers ++ kind)) ∧
          0 < numbers.countP isOldMajor := by
  rcases List.mem_flatMap.mp h with ⟨u, hU, hRest⟩
  rcases List.mem_flatMap.mp hRest with ⟨v, hV, hRest⟩
  rcases List.mem_flatMap.mp hRest with ⟨w, hW, hRest⟩
  rcases List.mem_flatMap.mp hRest with ⟨x, hX, hRest⟩
  rcases List.mem_flatMap.mp hRest with ⟨y, hY, hKind⟩
  rcases passes_of_mem_one hU with ⟨major, hMajor, hU⟩
  have hOld : isOldMajor major = true := by
    simpa [CharTest.accepts, SetItem.accepts, Folding.variants,
      isOldMajor] using hMajor
  have hDot := passes_of_mem_letter hV
  rcases passes_of_mem_digits hW with ⟨minor, hMinor, hW⟩
  rcases passes_of_mem_part hX with ⟨patch, hPatch, hX⟩
  rcases passes_of_mem_part hY with
    ⟨candidate, hCandidate, hY⟩
  rcases passes_of_mem_kind hKind with ⟨kind, hMem, hKind⟩
  have hNumbers := hU.trans (hDot.trans (hW.trans (hX.trans hY)))
  refine ⟨major :: '.' :: (minor ++ (patch ++ candidate)), kind,
    hMem, hNumbers.trans hKind, ?_, ?_⟩
  · have hRelease :=
      IsRelease.intro hOld hMinor hPatch hCandidate hMem
    simpa using hRelease
  · rw [List.countP_cons_of_pos hOld]
    exact Nat.succ_pos _

end Pattern

namespace Release

/- How the address of an old release is replaced. -/
def form : Form where
  pattern := .seq .address .oldNumbers
  template := .group 1 :: (literals "9.0.0".toList ++
    [.group 2])

/-
  The address of an old release, its numbers and its kind,
  where the place `t` is behind all of them.
-/
structure Replaced
    (s t : Spot)
    (path numbers kind : List Char) : Prop where
  passes : s.Passes t
    ((path ++ releaseMark) ++ (numbers ++ kind)) t.groups
  groups : t.groups = [(2, kind), (1, path ++ releaseMark)]
  kind_mem : kind ∈ kinds
  release : IsRelease (releaseMark ++ (numbers ++ kind))
  old : 0 < numbers.countP isOldMajor

/- Every hit replaces a release. -/
theorem exists_replaced
    {before after : List Char}
    {t : Spot}
    (h : t ∈ form.pattern.ways (Pattern.spotAt before after)) :
    ∃ path numbers kind,
      Replaced (Pattern.spotAt before after) t path numbers
        kind := by
  rcases List.mem_flatMap.mp h with ⟨s, hS, hT⟩
  rcases Pattern.passes_of_mem_address hS with ⟨path, hPath⟩
  rcases Pattern.passes_of_mem_oldNumbers hT with
    ⟨numbers, kind, hKind, hNumbers, hRelease, hOld⟩
  have hPasses := hPath.trans hNumbers
  have hGroups : t.groups =
      [(2, kind)] ++ [(1, path ++ releaseMark)] := by
    rw [hPasses.groups]
    exact List.append_nil _
  exact ⟨path, numbers, kind, hGroups ▸ hPasses, hGroups, hKind,
    hRelease, hOld⟩

variable {before after front path numbers kind : List Char}
variable {t : Spot}

theorem Replaced.after_eq
    (h : Replaced (Pattern.spotAt before after) t path numbers
      kind) :
    after = path ++
      ((releaseMark ++ (numbers ++ kind)) ++ t.after) := by
  have hAfter := h.passes.after
  simp only [List.append_assoc] at hAfter ⊢
  exact hAfter

/- What is put in for an old release. -/
theorem Replaced.expand_eq
    (h : Replaced (Pattern.spotAt before after) t path numbers
      kind) :
    expand form.template
        (.between (Pattern.spotAt before after) t) =
      path ++ (releaseMark ++ ("9.0.0".toList ++ kind)) := by
  have hFirst :
      (Hit.between (Pattern.spotAt before after) t).group 1 =
        path ++ releaseMark := by
    simp only [Hit.group, Hit.between, h.groups]
    rfl
  have hSecond :
      (Hit.between (Pattern.spotAt before after) t).group 2 =
        kind := by
    simp only [Hit.group, Hit.between, h.groups]
    rfl
  have hNil (hit : Hit) : expand [] hit = [] := rfl
  simp only [form, expand_group, expand_append, expand_literals,
    hFirst, hSecond, hNil, List.append_assoc, List.append_nil]

/- What is put in is no old release. -/
theorem releases_put
    (h : kind ∈ kinds)
    (tail : List Char) :
    releases (releaseMark ++ ("9.0.0".toList ++
        (kind ++ tail))) =
      releases tail := by
  have hPlain : 'g' ∉ "radle-9.0.0".toList ++ kind := by
    revert h kind
    decide
  have hNames :
      namesRelease (releaseMark ++ ("9.0.0".toList ++
        (kind ++ tail))) = false := rfl
  have hText :
      releaseMark ++ ("9.0.0".toList ++ (kind ++ tail)) =
        'g' :: (("radle-9.0.0".toList ++ kind) ++ tail) := by
    rw [List.append_assoc]
    rfl
  rw [hText] at hNames ⊢
  rw [releases, hNames, releases_append_of_not_mem hPlain]
  exact Nat.zero_add _

/- What is behind an old release has fewer. -/
theorem Replaced.behind
    (h : Replaced (Pattern.spotAt before after) t path numbers
      kind) :
    releases t.after < releases after := by
  have hSuffix := releases_suffix path
    ((releaseMark ++ (numbers ++ kind)) ++ t.after)
  rw [← h.after_eq, h.release.releases_append] at hSuffix
  exact hSuffix

/- Replacing an old release leaves fewer. -/
theorem Replaced.lowers
    (h : Replaced (Pattern.spotAt before after) t path numbers
      kind)
    (front : List Char) :
    releases (front ++ (path ++ (releaseMark ++
        ("9.0.0".toList ++ (kind ++ t.after))))) <
      releases (front ++ after) := by
  have hSplit (rest : List Char) :
      releases (front ++ (path ++ (releaseMark ++ rest))) =
        releases (front ++ path) +
          releases (releaseMark ++ rest) := by
    rw [← List.append_assoc]
    exact releases_append _ _
  have hAfter := h.release.releases_append t.after
  conv => rhs; rw [h.after_eq]
  rw [List.append_assoc] at hAfter ⊢
  rw [hSplit, hSplit, hAfter, releases_put h.kind_mem]
  omega

/- Every hit is an old release, and leaves fewer. -/
theorem spends :
    form.Spends tally where
  behind hT := by
    rcases exists_replaced hT with ⟨_, _, _, h⟩
    exact h.behind
  lowers hT := by
    rcases exists_replaced hT with ⟨_, _, _, h⟩
    rw [h.expand_eq]
    simp only [List.append_assoc]
    exact h.lowers _

/- The major of an old release is not kept. -/
theorem wears :
    form.Wears isOldMajor := by
  intro front rest t hT
  rcases exists_replaced hT with ⟨_, _, _, h⟩
  have hNew : "9.0.0".toList.countP isOldMajor = 0 := by decide
  have hOld := h.old
  rw [h.expand_eq]
  conv => rhs; rw [h.after_eq]
  simp only [List.countP_append]
  omega

end Release

end GradleMigration
