import GradleMigration.Project.Metadata
import GradleMigration.Proofs.Pattern.Taking
import GradleMigration.Proofs.Rule.Loading
import GradleMigration.Proofs.Rule.Values
import GradleMigration.Proofs.Text.Digits
import GradleMigration.Proofs.Text.Marks

/-
  The release of a wrapper is read in three ways: as the
  version of the project, as an occurrence of an old release,
  and as what is replaced by a newer one.

  A wrapper has one address, with one release in it.  All
  three find this release, because nothing else is marked as
  one, and read it up to the kind of the distribution.

  Main declarations:
    * `Version` and `Version.text`
    * `Version.versionAt_text`
    * `Version.unique`
    * `Wrapper` and `Wrapper.text`
    * `Wrapper.versionOf_text`
    * `Wrapper.sought_finds`
    * `Wrapper.rewrite_text`
    * `Builtin.wrapper_release_agrees`
-/

------------------------------------------------------------
-- Versions
------------------------------------------------------------

namespace GradleMigration

/- Two numbers or three, and perhaps a candidate. -/
structure Version where
  major : List Char
  minor : List Char
  patch : List Char
  candidate : List Char
  major_digits : IsDigits major
  minor_digits : IsDigits minor
  patch_part : IsPart patchMark patch
  candidate_part : IsPart candidateMark candidate

namespace Version

/- A version as it is written. -/
def text
    (v : Version) : List Char :=
  v.major ++ '.' :: (v.minor ++ (v.patch ++ v.candidate))

/- Whether the major of a version is from one to eight. -/
def isOld
    (v : Version) : Bool :=
  match v.major with
  | [c] => isOldMajor c
  | _ => false

/- One digit is a number. -/
theorem isDigits_singleton
    {c : Char}
    (h : Text.isDigit c = true) :
    IsDigits [c] :=
  ⟨List.cons_ne_nil _ _, by simpa using h⟩

/- The version that replaces old ones. -/
def nine : Version where
  major := ['9']
  minor := ['0']
  patch := ['.', '0']
  candidate := []
  major_digits := isDigits_singleton (by decide)
  minor_digits := isDigits_singleton (by decide)
  patch_part := Or.inr
    ⟨['0'], isDigits_singleton (by decide), rfl⟩
  candidate_part := Or.inl rfl

end Version

/- Digits are read up to another character. -/
theorem IsDigits.takeWhile_append
    {digits rest : List Char}
    (h : IsDigits digits)
    (hEnd : ∀ c, rest.head? = some c →
      Text.isDigit c = false) :
    (digits ++ rest).takeWhile Text.isDigit = digits := by
  rw [List.takeWhile_append_of_pos h.2]
  cases rest with
  | nil => exact List.append_nil _
  | cons c more =>
      rw [List.takeWhile_cons_of_neg, List.append_nil]
      rw [hEnd c rfl]
      decide

namespace Project

/- A mark and digits are read where they are. -/
theorem markedDigits_digits
    {mark : Char}
    {digits rest : List Char}
    (h : IsDigits digits)
    (hEnd : ∀ c, rest.head? = some c →
      Text.isDigit c = false) :
    markedDigits mark (mark :: (digits ++ rest)) =
      mark :: digits := by
  have hSome : digits.isEmpty = false := by
    simpa using h.1
  simp [markedDigits, h.takeWhile_append hEnd, hSome]

theorem markedDigits_of_ne
    {mark c : Char}
    (h : c ≠ mark)
    (rest : List Char) :
    markedDigits mark (c :: rest) = [] := by
  simp [markedDigits, h]

/- A candidate is a qualifier, and a kind is none. -/
theorem qualifier_candidate
    {candidate kind : List Char}
    (hCandidate : IsPart candidateMark candidate)
    (hKind : kind ∈ kinds)
    (tail : List Char) :
    qualifier (candidate ++ (kind ++ tail)) = candidate := by
  rcases kind_start hKind tail with ⟨⟨rest, hDash⟩, _⟩
  rcases hCandidate with hNil | ⟨digits, hDigits, hEq⟩
  · subst hNil
    simp only [kinds, List.mem_cons, List.not_mem_nil, or_false]
      at hKind
    rcases hKind with hBin | hAll
    · subst hBin
      rfl
    · subst hAll
      rfl
  · subst hEq
    have hRead : markedDigits '-' ('-' :: (digits ++
        (kind ++ tail))) = '-' :: digits :=
      markedDigits_digits hDigits (isDigit_of_dash hDash)
    have hWord :
        ('r' :: 'c' :: '-' :: (digits ++
            (kind ++ tail))).takeWhile Text.isWord =
          ['r', 'c'] := by
      rw [List.takeWhile_cons_of_pos (by decide),
        List.takeWhile_cons_of_pos (by decide),
        List.takeWhile_cons_of_neg (by decide)]
    have hText :
        candidateMark ++ digits ++ (kind ++ tail) =
          '-' :: 'r' :: 'c' :: '-' ::
            (digits ++ (kind ++ tail)) := by
      rw [List.append_assoc]
      rfl
    have hKnown : distributionKinds.contains ['r', 'c'] =
        false := by
      decide
    rw [hText]
    simp only [qualifier, hWord, hKnown, List.isEmpty_cons,
      Bool.or_self, Bool.false_eq_true, if_false,
      List.length_cons, List.length_nil, List.drop_succ_cons,
      List.drop_zero, hRead]
    rfl

end Project

namespace Version

variable {kind tail : List Char}

/- A version is read up to the kind of its distribution. -/
theorem versionAt_text
    (v : Version)
    (hKind : kind ∈ kinds)
    (tail : List Char) :
    Project.versionAt (v.text ++ (kind ++ tail)) =
      some v.text := by
  rcases candidate_start v.candidate_part hKind tail with
    ⟨rest, hDash⟩
  have hText : v.text ++ (kind ++ tail) =
      v.major ++ ('.' :: (v.minor ++ (v.patch ++
        (v.candidate ++ (kind ++ tail))))) := by
    simp [text]
  have hMajor :
      (v.major ++ ('.' :: (v.minor ++ (v.patch ++
          (v.candidate ++ (kind ++ tail)))))).takeWhile
            Text.isDigit = v.major := by
    apply v.major_digits.takeWhile_append
    intro c hC
    cases hC
    decide
  have hMinor :
      Project.markedDigits '.' ('.' :: (v.minor ++ (v.patch ++
          (v.candidate ++ (kind ++ tail))))) =
        '.' :: v.minor :=
    Project.markedDigits_digits v.minor_digits
      (patch_start v.patch_part v.candidate_part hKind tail)
  have hPatch :
      Project.markedDigits '.'
          (v.patch ++ (v.candidate ++ (kind ++ tail))) =
        v.patch := by
    rcases v.patch_part with hNil | ⟨digits, hDigits, hEq⟩
    · rw [hNil, hDash]
      exact Project.markedDigits_of_ne (by decide) rest
    · rw [hEq, hDash]
      exact Project.markedDigits_digits hDigits
        (isDigit_of_dash rfl)
  have hSome : v.major.isEmpty = false := by
    simpa using v.major_digits.1
  rw [hText]
  simp only [Project.versionAt, hMajor, List.drop_left, hMinor,
    hSome, List.isEmpty_cons, Bool.or_self, Bool.false_eq_true,
    if_false, List.length_cons, List.drop_succ_cons, hPatch,
    Project.qualifier_candidate v.candidate_part hKind tail]
  simp [text]

/- The kinds of distributions are of one length. -/
theorem length_eq_of_kinds
    {other : List Char}
    (hKind : kind ∈ kinds)
    (hOther : other ∈ kinds) :
    kind.length = other.length := by
  have hLength : ∀ k ∈ kinds, k.length = 8 := by decide
  rw [hLength _ hKind, hLength _ hOther]

/- There is one version in front of the kind. -/
theorem unique
    {v w : Version}
    {other behind : List Char}
    (hKind : kind ∈ kinds)
    (hOther : other ∈ kinds)
    (h : v.text ++ (kind ++ tail) =
      w.text ++ (other ++ behind)) :
    v.text = w.text ∧ v.isOld = w.isOld ∧ kind = other ∧
      tail = behind := by
  have hText : v.text = w.text := by
    have hFirst := v.versionAt_text hKind tail
    rw [h, w.versionAt_text hOther behind] at hFirst
    exact (Option.some.inj hFirst).symm
  have hMajor : v.major = w.major := by
    have hDot (rest : List Char) :
        ∀ c, ('.' :: rest).head? = some c →
          Text.isDigit c = false := by
      intro c hC
      cases hC
      decide
    rw [← v.major_digits.takeWhile_append (hDot _),
      ← w.major_digits.takeWhile_append (hDot _)]
    exact congrArg (List.takeWhile Text.isDigit) hText
  rw [hText] at h
  rcases List.append_inj (List.append_cancel_left h)
      (length_eq_of_kinds hKind hOther) with
    ⟨hSame, hTail⟩
  refine ⟨hText, ?_, hSame, hTail⟩
  unfold isOld
  rw [hMajor]

/- A version is made of digits and marks. -/
theorem not_mem_text
    (v : Version)
    {c : Char}
    (hDigit : Text.isDigit c = false)
    (hMarks : c ∉ '.' :: (patchMark ++ candidateMark)) :
    c ∉ v.text := by
  have hDigits {digits : List Char} (h : IsDigits digits) :
      c ∉ digits := by
    intro hMem
    rw [h.2 c hMem] at hDigit
    cases hDigit
  have hPart {mark part : List Char} (h : IsPart mark part)
      (hMark : c ∉ mark) :
      c ∉ part := by
    rcases h with hNil | ⟨digits, hSome, hEq⟩
    · rw [hNil]
      exact List.not_mem_nil
    · rw [hEq, List.mem_append, not_or]
      exact ⟨hMark, hDigits hSome⟩
  simp only [List.mem_cons, List.mem_append, not_or] at hMarks
  unfold text
  simp only [List.mem_append, List.mem_cons, not_or]
  exact ⟨hDigits v.major_digits, hMarks.1,
    hDigits v.minor_digits, hPart v.patch_part hMarks.2.1,
    hPart v.candidate_part hMarks.2.2⟩

end Version

end GradleMigration

------------------------------------------------------------
-- Wrappers
------------------------------------------------------------

namespace GradleMigration

/- What the address of a distribution starts with. -/
def addressMark : List Char :=
  "distributionUrl=".toList

/-
  A wrapper with one address: its path, its release, and the
  kind of its distribution.  The text around it may have any
  lines, but nothing else that is marked as a release.
-/
structure Wrapper where
  before : List Char
  path : List Char
  version : Version
  kind : List Char
  after : List Char
  path_inLine : ∀ c ∈ path, c ≠ '\n' ∧ c ≠ '\r'
  kind_mem : kind ∈ kinds
  path_free : ¬ releaseMark <:+: path
  before_free : ¬ releaseMark <:+: before
  after_free : ¬ releaseMark <:+: after

namespace Wrapper

/- The text of a wrapper. -/
def text
    (w : Wrapper) : List Char :=
  w.before ++ (addressMark ++ (w.path ++ (releaseMark ++
    (w.version.text ++ (w.kind ++ w.after)))))

/- The same wrapper with the version that replaces old ones. -/
def renewed
    (w : Wrapper) : Wrapper :=
  { w with version := .nine }

/- What is in front of the mark of the release. -/
def front
    (w : Wrapper) : List Char :=
  w.before ++ (addressMark ++ w.path)

/- What is behind it. -/
def behind
    (w : Wrapper) : List Char :=
  w.version.text ++ (w.kind ++ w.after)

variable {w : Wrapper}

theorem text_eq
    (w : Wrapper) :
    w.text = w.front ++ (releaseMark ++ w.behind) := by
  simp [text, front, behind]

theorem front_free
    (w : Wrapper) :
    ¬ releaseMark <:+: w.front := by
  have hAddress : ¬ releaseMark <:+: addressMark ++ w.path :=
    Text.not_infix_of_not_mem (by decide) w.path_free
  exact Text.not_infix_of_pair w.before_free hAddress
    (by decide) (by decide)

theorem behind_free
    (w : Wrapper) :
    ¬ releaseMark <:+: w.behind := by
  have hKind : ∀ k ∈ kinds, 'g' ∉ k := by decide
  unfold behind
  rw [← List.append_assoc]
  refine Text.not_infix_of_not_mem ?_ w.after_free
  rw [List.mem_append, not_or]
  exact ⟨w.version.not_mem_text (by decide) (by decide),
    hKind _ w.kind_mem⟩

/- The mark of a release is at one place. -/
theorem place
    {front rest : List Char}
    (h : w.text = front ++ (releaseMark ++ rest)) :
    front = w.front ∧ rest = w.behind := by
  rw [text_eq] at h
  exact Text.place_of_mark (by decide) w.front_free
    w.behind_free h

end Wrapper

/- The first version is read behind the first mark. -/
theorem Project.findVersion_append
    {front rest version : List Char}
    (hFront : ¬ releaseMark <:+: front)
    (hRest : ¬ releaseMark <:+: rest)
    (h : versionAt rest = some version) :
    findVersion (front ++ (releaseMark ++ rest)) =
      some version := by
  induction front with
  | nil =>
      have hPrefix :
          versionLead.isPrefixOf (releaseMark ++ rest) = true :=
        List.isPrefixOf_iff_prefix.mpr (List.prefix_append _ _)
      have hDrop :
          (releaseMark ++ rest).drop versionLead.length = rest :=
        List.drop_left
      have hCons : releaseMark ++ rest =
          'g' :: ("radle-".toList ++ rest) := rfl
      rw [hCons] at hPrefix hDrop
      rw [List.nil_append, hCons, findVersion]
      simp only [hPrefix, if_true, hDrop, h]
  | cons c front ih =>
      have hNone : versionLead.isPrefixOf
          (c :: (front ++ (releaseMark ++ rest))) = false := by
        rw [Bool.eq_false_iff]
        intro hPrefix
        rcases List.isPrefixOf_iff_prefix.mp hPrefix with
          ⟨others, hOthers⟩
        have hStart : (c :: front) ++ (releaseMark ++ rest) =
            [] ++ (releaseMark ++ others) := hOthers.symm
        cases (Text.place_of_mark (by decide) hFront hRest
          hStart).1
      rw [List.cons_append, findVersion]
      simp only [hNone, Bool.false_eq_true, if_false]
      exact ih fun hInfix =>
        hFront (List.infix_cons_iff.mpr (Or.inr hInfix))

/- The version of a wrapper is read as it is written. -/
theorem Wrapper.versionOf_text
    (w : Wrapper) :
    Project.versionOf w.text =
      String.ofList w.version.text := by
  have hFound := Project.findVersion_append w.front_free
    w.behind_free (w.version.versionAt_text w.kind_mem w.after)
  unfold Project.versionOf
  rw [w.text_eq, hFound]

end GradleMigration

------------------------------------------------------------
-- Finding Old Releases
------------------------------------------------------------

namespace GradleMigration

namespace Release

open Pattern

/- What an occurrence of an old release is found by. -/
def sought : Pattern :=
  .spelled addressMark <|
    .seq (.loop ⟨0, none⟩ .greedy
        (.one ⟨true, [.char '\n'], .exact⟩)) <|
      .spelled releaseMark <|
        .seq (.one ⟨false, [.range 49 56], .exact⟩) <|
          .seq (.letter '.') digits

/- The majors of old releases are what is found. -/
theorem accepts_oldMajor
    (c : Char) :
    (⟨false, [.range 49 56], .exact⟩ : CharTest).accepts c =
      isOldMajor c := by
  simp [CharTest.accepts, SetItem.accepts, Folding.variants,
    isOldMajor]

/- What an occurrence passes over. -/
theorem passes_of_mem_sought
    {s t : Spot}
    (h : t ∈ sought.ways s) :
    ∃ path c minor, isOldMajor c = true ∧
      s.Passes t (addressMark ++ (path ++ (releaseMark ++
        (c :: '.' :: minor)))) [] := by
  rcases passes_of_mem_spelled h with ⟨u, hAddress, hU⟩
  rcases List.mem_flatMap.mp hU with ⟨v, hV, hRest⟩
  rcases passes_of_mem_repeated hV with ⟨path, _, hPath⟩
  rcases passes_of_mem_spelled hRest with ⟨w, hMark, hW⟩
  rcases List.mem_flatMap.mp hW with ⟨x, hX, hRest⟩
  rcases passes_of_mem_one hX with ⟨c, hMajor, hC⟩
  rcases List.mem_flatMap.mp hRest with ⟨y, hY, hDigits⟩
  have hDot := passes_of_mem_letter hY
  rcases passes_of_mem_digits hDigits with ⟨minor, _, hMinor⟩
  rw [accepts_oldMajor] at hMajor
  exact ⟨path, c, minor, hMajor, hAddress.trans (hPath.trans
    (hMark.trans (hC.trans (hDot.trans hMinor))))⟩

/- Digits are taken, and parts, whether they are there or not. -/
theorem takes_digits
    {text : List Char}
    (h : IsDigits text) :
    digits.Takes text := by
  apply takes_repeated
  · intro c hC
    simp [CharTest.accepts, SetItem.accepts, CharKind.holds,
      h.2 c hC]
  · exact List.length_pos_iff.mpr h.1

theorem takes_part
    {mark text : List Char}
    (h : IsPart mark text) :
    (part mark).Takes text := by
  apply Takes.optional
  rcases h with hNil | ⟨digits, hDigits, hEq⟩
  · exact Or.inl hNil
  · rw [hEq]
    exact Or.inr ((takes_digits hDigits).spelled mark)

theorem takes_oldMajor
    {c : Char}
    (h : isOldMajor c = true) :
    (Pattern.one ⟨false, [.range 49 56], .exact⟩).Takes [c] :=
  takes_one ((accepts_oldMajor c).trans h)

/- Every old release behind a path is found. -/
theorem takes_sought
    {path minor : List Char}
    {c : Char}
    (hPath : ∀ d ∈ path, d ≠ '\n' ∧ d ≠ '\r')
    (hMajor : isOldMajor c = true)
    (hMinor : IsDigits minor) :
    sought.Takes (addressMark ++ (path ++ (releaseMark ++
      (c :: '.' :: minor)))) := by
  have hInLine :
      (Pattern.loop ⟨0, none⟩ .greedy
        (.one ⟨true, [.char '\n'], .exact⟩)).Takes path := by
    apply takes_repeated
    · intro d hD
      simp [CharTest.accepts, SetItem.accepts, Folding.same,
        (hPath d hD).1]
    · exact Nat.zero_le _
  have hNumbers := (takes_oldMajor hMajor).seq
    ((takes_letter '.').seq (takes_digits hMinor))
  exact (hInLine.seq (hNumbers.spelled releaseMark)).spelled _

/- Every kind of distribution is taken. -/
theorem takes_kind
    {text : List Char}
    (h : text ∈ kinds) :
    Pattern.kind.Takes text := by
  apply Takes.group
  have hZip := (takes_letter 'p').spelled ".zi".toList
  simp only [kinds, List.mem_cons, List.not_mem_nil, or_false]
    at h
  rcases h with hBin | hAll
  · subst hBin
    exact (takes_letter '-').seq
      (((takes_letter 'n').spelled "bi".toList).alt_left.seq
        hZip)
  · subst hAll
    exact (takes_letter '-').seq
      (((takes_letter 'l').spelled "al".toList).alt_right.seq
        hZip)

/- Every old release behind a path is replaced. -/
theorem takes_form
    {path minor patch candidate kind : List Char}
    {c : Char}
    (hPath : ∀ d ∈ path, d ≠ '\n' ∧ d ≠ '\r')
    (hMajor : isOldMajor c = true)
    (hMinor : IsDigits minor)
    (hPatch : IsPart patchMark patch)
    (hCandidate : IsPart candidateMark candidate)
    (hKind : kind ∈ kinds) :
    form.pattern.Takes
      ((addressMark ++ (path ++ releaseMark)) ++
        (c :: '.' :: (minor ++ (patch ++
          (candidate ++ kind))))) := by
  have hInLine :
      (Pattern.loop ⟨0, none⟩ .greedy inLine).Takes path := by
    apply takes_repeated
    · intro d hD
      simp [CharTest.accepts, SetItem.accepts, Folding.same,
        hPath d hD]
    · exact Nat.zero_le _
  have hAddress :=
    ((hInLine.seq ((takes_letter '-').spelled
      "gradle".toList)).spelled addressMark).group 1
  have hNumbers := (takes_oldMajor hMajor).seq
    ((takes_letter '.').seq ((takes_digits hMinor).seq
      ((takes_part hPatch).seq ((takes_part hCandidate).seq
        (takes_kind hKind)))))
  exact hAddress.seq hNumbers

end Release

end GradleMigration

------------------------------------------------------------
-- The Release of a Wrapper
------------------------------------------------------------

namespace GradleMigration

namespace Wrapper

open Release

variable {w : Wrapper}

/- An old version, behind its major. -/
theorem of_isOld
    (h : w.version.isOld = true) :
    ∃ c, isOldMajor c = true ∧ w.version.major = [c] := by
  unfold Version.isOld at h
  split at h
  · next c hMajor => exact ⟨c, h, hMajor⟩
  · cases h

theorem isDigits_of_isOldMajor
    {c : Char}
    (h : isOldMajor c = true) :
    IsDigits [c] := by
  have hCode : 49 ≤ c.toNat ∧ c.toNat ≤ 56 := by
    simpa [isOldMajor] using h
  apply Version.isDigits_singleton
  apply Text.isDigit_of_ascii
  simp only [Char.isDigit, Bool.and_eq_true, decide_eq_true_eq,
    ge_iff_le, UInt32.le_iff_toNat_le]
  exact ⟨Nat.le_trans (by decide) hCode.1,
    Nat.le_trans hCode.2 (by decide)⟩

/- What is behind the mark starts like an old release. -/
theorem isOld_of_behind
    {c : Char}
    {rest : List Char}
    (hMajor : isOldMajor c = true)
    (h : w.behind = c :: '.' :: rest) :
    w.version.isOld = true := by
  rcases hDigits : w.version.major_digits with ⟨hSome, hAll⟩
  unfold behind Version.text at h
  cases hCases : w.version.major with
  | nil => exact absurd hCases hSome
  | cons d others =>
      rw [hCases, List.cons_append, List.cons_append,
        List.cons.injEq] at h
      rcases h with ⟨hD, hOthers⟩
      subst hD
      cases others with
      | nil =>
          unfold Version.isOld
          rw [hCases]
          exact hMajor
      | cons e more =>
          -- A dot is no digit.
          rw [List.cons_append, List.cons_append,
            List.cons.injEq] at hOthers
          have hDot := hAll e (by rw [hCases]; simp)
          rw [hOthers.1] at hDot
          exact absurd hDot (by decide)

/- Occurrences of an old release are around its mark. -/
theorem of_mem_sought
    {front rest : List Char}
    (hText : w.text = front ++ rest)
    {t : Spot}
    (h : t ∈ sought.ways (.at front rest)) :
    w.version.isOld = true ∧ front.length ≤ w.front.length ∧
      w.front.length < t.pos := by
  rcases passes_of_mem_sought h with
    ⟨path, c, minor, hMajor, hPasses⟩
  have hRest := hPasses.after
  simp only [Spot.at] at hRest
  have hSplit : w.text =
      (front ++ (addressMark ++ path)) ++ (releaseMark ++
        (c :: '.' :: (minor ++ t.after))) := by
    rw [hText, hRest]
    simp
  rcases place hSplit with ⟨hFront, hBehind⟩
  refine ⟨isOld_of_behind hMajor hBehind.symm, ?_, ?_⟩
  · rw [← hFront, List.length_append]
    exact Nat.le_add_right _ _
  · rw [hPasses.pos, ← hFront]
    simp only [Spot.at, List.length_append, List.length_cons]
    omega

/- Where the version is not old, there is no occurrence. -/
theorem hits_eq_nil
    {regex : Regex}
    (hRegex : regex.pattern = sought)
    (hOld : w.version.isOld = false) :
    regex.hits w.text = [] := by
  rw [Regex.hits_eq_nil_iff, hRegex]
  intro front rest hText
  apply List.eq_nil_iff_forall_not_mem.mpr
  intro t hT
  rw [(of_mem_sought hText hT).1] at hOld
  cases hOld

/- An old version is found once, around its mark. -/
theorem exists_hits_eq
    {regex : Regex}
    (hRegex : regex.pattern = sought)
    (hOld : w.version.isOld = true) :
    ∃ hit, regex.hits w.text = [hit] ∧
      hit.start ≤ w.front.length ∧
        w.front.length < hit.stop := by
  have hSome : regex.hits w.text ≠ [] := by
    intro hNil
    rcases of_isOld hOld with ⟨c, hC, hMajor⟩
    have hTakes := takes_sought w.path_inLine hC
      w.version.minor_digits
    have hText : w.text = w.before ++
        ((addressMark ++ (w.path ++ (releaseMark ++
          (c :: '.' :: w.version.minor)))) ++
            (w.version.patch ++ (w.version.candidate ++
              (w.kind ++ w.after)))) := by
      simp [text, Version.text, hMajor]
    rcases hTakes (.at w.before _) _ rfl with ⟨t, hT, _⟩
    rw [Regex.hits_eq_nil_iff, hRegex] at hNil
    rw [hNil w.before _ hText] at hT
    cases hT
  have hPlace : ∀ hit ∈ regex.hits w.text,
      hit.start ≤ w.front.length ∧
        w.front.length < hit.stop := by
    intro hit hHit
    rcases Regex.exists_way_of_mem_hits hHit with
      ⟨front, rest, hText, t, hT, hEq⟩
    have hStop : t.pos = hit.stop := by
      rcases regex.pattern.passing_of_mem_ways _ _ hT with
        ⟨passed, _, hPasses, _⟩
      rw [hEq, Hit.stop, Hit.between, hPasses.pos,
        hPasses.textTo_eq]
    rw [hRegex] at hT
    rcases of_mem_sought hText hT with ⟨_, hStart, hEnd⟩
    rw [hStop] at hEnd
    rw [hEq]
    exact ⟨hStart, hEq ▸ hEnd⟩
  rcases Regex.hits_eq_singleton hSome hPlace with
    ⟨hit, hHit⟩
  exact ⟨hit, hHit, hPlace hit (by rw [hHit]; simp)⟩

/- A replaced release is that of the wrapper. -/
theorem of_replaced
    {gap rest : List Char}
    (hText : w.text = gap ++ rest)
    {t : Spot}
    {path numbers kind : List Char}
    (h : Replaced (Pattern.spotAt gap.reverse rest) t path
      numbers kind) :
    w.version.isOld = true ∧ gap ++ path = w.front ∧
      kind = w.kind ∧ t.after = w.after := by
  have hSplit : w.text = (gap ++ path) ++ (releaseMark ++
      (numbers ++ (kind ++ t.after))) := by
    rw [hText, h.after_eq]
    simp
  rcases place hSplit with ⟨hFront, hBehind⟩
  have hRelease := h.release
  generalize hWord : releaseMark ++ (numbers ++ kind) = word
    at hRelease
  cases hRelease with
  | @intro major minor patch candidate last hMajor hMinor
      hPatch hCandidate hLast =>
      let v : Version :=
        { major := [major]
          minor := minor
          patch := patch
          candidate := candidate
          major_digits := isDigits_of_isOldMajor hMajor
          minor_digits := hMinor
          patch_part := hPatch
          candidate_part := hCandidate }
      have hCut : numbers ++ kind = v.text ++ last := by
        rw [List.append_cancel_left hWord]
        simp [v, Version.text]
      have hSame : v.text ++ (last ++ t.after) =
          w.version.text ++ (w.kind ++ w.after) := by
        rw [← List.append_assoc, ← hCut, List.append_assoc]
        exact hBehind
      rcases Version.unique hLast w.kind_mem hSame with
        ⟨hVersion, hOld, hKind, hAfter⟩
      have hLasts := (List.append_inj' hCut
        (Version.length_eq_of_kinds h.kind_mem hLast)).2
      exact ⟨hOld.symm.trans hMajor, hFront,
        hLasts.trans hKind, hAfter⟩

/- Where nothing is replaced, the text is kept. -/
theorem rewrite_of_isOld_eq_false
    (hOld : w.version.isOld = false) :
    form.rewrite w.text = w.text := by
  rcases form.pattern.rewriteFrom_cases rfl
      (expand form.template) [] w.text with
    hKept | ⟨gap, rest, t, hText, hWay, _⟩
  · exact hKept
  · rcases exists_replaced hWay with
      ⟨path, numbers, kind, hReplaced⟩
    rw [(of_replaced hText hReplaced).1] at hOld
    cases hOld

/- A text without the mark of a release is kept. -/
theorem rewriteFrom_of_free
    {before after : List Char}
    (hFree : ¬ releaseMark <:+: after) :
    form.pattern.rewriteFrom (expand form.template) 0 before
      after = after := by
  rcases form.pattern.rewriteFrom_cases rfl
      (expand form.template) before.reverse after with
    hKept | ⟨gap, rest, t, hAfter, hWay, _⟩
  · rw [List.reverse_reverse] at hKept
    exact hKept
  · rcases exists_replaced hWay with ⟨path, numbers, kind, h⟩
    refine absurd ⟨gap ++ path, (numbers ++ kind) ++ t.after,
      ?_⟩ hFree
    rw [hAfter, h.after_eq]
    simp only [List.append_assoc]

/- An old version is replaced, and nothing else. -/
theorem rewrite_of_isOld
    (hOld : w.version.isOld = true) :
    form.rewrite w.text = w.renewed.text := by
  rcases of_isOld hOld with ⟨c, hC, hMajor⟩
  have hTakes := takes_form w.path_inLine hC
    w.version.minor_digits w.version.patch_part
    w.version.candidate_part w.kind_mem
  have hText : w.text = w.before ++
      (((addressMark ++ (w.path ++ releaseMark)) ++
        (c :: '.' :: (w.version.minor ++ (w.version.patch ++
          (w.version.candidate ++ w.kind))))) ++ w.after) := by
    simp [text, Version.text, hMajor]
  rcases hTakes (Pattern.spotAt w.before.reverse _) _ rfl with
    ⟨u, hU, _⟩
  rcases Pattern.exists_rewrite rfl hText hU
      (expand form.template) with
    ⟨gap, rest, t, hSplit, hT, hRewrite⟩
  rcases exists_replaced hT with ⟨path, numbers, kind, h⟩
  rcases of_replaced hSplit h with
    ⟨_, hFront, hKind, hAfter⟩
  rw [h.expand_eq, hAfter, rewriteFrom_of_free w.after_free,
    hKind] at hRewrite
  unfold Form.rewrite
  rw [hRewrite]
  have hNine : Version.nine.text = "9.0.0".toList := rfl
  have hNew : w.renewed.text = w.front ++ (releaseMark ++
      ("9.0.0".toList ++ (w.kind ++ w.after))) := by
    rw [w.renewed.text_eq, ← hNine]
    rfl
  rw [hNew, ← hFront]
  simp

end Wrapper

end GradleMigration

------------------------------------------------------------
-- The Rule for Wrappers
------------------------------------------------------------

namespace GradleMigration

namespace Wrapper

variable {w : Wrapper}

/- The address and its release, up to the end of its kind. -/
def address
    (w : Wrapper) : List Char :=
  addressMark ++ (w.path ++ (releaseMark ++
    (w.version.text ++ w.kind)))

theorem text_eq_address
    (w : Wrapper) :
    w.text = w.before ++ (w.address ++ w.after) := by
  simp [text, address]

/- The address is in one line. -/
theorem address_inLine
    (w : Wrapper) :
    '\n' ∉ w.address := by
  have hKind : ∀ k ∈ kinds, '\n' ∉ k := by decide
  unfold address
  simp only [List.mem_append, not_or]
  exact ⟨by decide, fun hPath => (w.path_inLine _ hPath).1 rfl,
    by decide, w.version.not_mem_text (by decide) (by decide),
    hKind _ w.kind_mem⟩

/- The lines around the release are a wrapper as well. -/
theorem exists_lines
    (w : Wrapper)
    {start stop : Nat}
    (hStart : start ≤ w.front.length)
    (hStop : w.front.length < stop) :
    ∃ lines : Wrapper,
      lines.version = w.version ∧
        Text.lineOf w.text start stop = lines.text := by
  have hFront : w.front.length =
      w.before.length + (addressMark.length + w.path.length) := by
    simp [front]
  have hAddress :
      addressMark.length + w.path.length ≤ w.address.length := by
    simp only [address, List.length_append]
    omega
  have hFirst :
      start ≤ w.before.length + w.address.length := by
    omega
  have hLast : w.before.length ≤ stop := by
    omega
  rcases Text.lineOf_of_meets w.before w.address_inLine w.after
      hFirst hLast with
    ⟨head, left, right, tail, hBefore, hAfter, hLines⟩
  have hLeft : left <:+: w.before :=
    ⟨head, [], by rw [hBefore, List.append_nil]⟩
  have hRight : right <:+: w.after :=
    ⟨[], tail, by rw [hAfter, List.nil_append]⟩
  let lines : Wrapper :=
    { w with
      before := left
      after := right
      before_free := fun h => w.before_free (h.trans hLeft)
      after_free := fun h => w.after_free (h.trans hRight) }
  refine ⟨lines, rfl, ?_⟩
  rw [w.text_eq_address, hLines]
  exact lines.text_eq_address.symm

/- An old version differs from the one that replaces it. -/
theorem renewed_text_ne
    (hOld : w.version.isOld = true) :
    w.renewed.text ≠ w.text := by
  intro hEq
  have hBehind : w.renewed.behind = w.behind := by
    rw [w.renewed.text_eq] at hEq
    exact (place hEq.symm).2
  have hNine : w.renewed.behind =
      '9' :: '.' :: ("0.0".toList ++ (w.kind ++ w.after)) := rfl
  rcases of_isOld hOld with ⟨c, hC, hMajor⟩
  rw [hNine] at hBehind
  unfold behind Version.text at hBehind
  rw [hMajor, List.cons_append, List.cons_append,
    List.cons.injEq] at hBehind
  rw [← hBehind.1] at hC
  exact absurd hC (by decide)

end Wrapper

namespace Builtin

/- What the rule for wrappers looks for, it says to fix. -/
theorem isTested_gradleVersion :
    gradleVersion.isTested (fun rule =>
      rule.autoFixable &&
        rule.pattern.pattern = Release.sought) = true := by
  rw [RuleEntry.isTested_eq_decoded]
  decide +kernel

/-
  The version of every wrapper is read as it is written.  The
  rule for wrappers finds an old version once, says that it
  can fix it, and replaces it and nothing else; it finds no
  other version, and keeps the text.
-/
theorem wrapper_release_agrees :
    ∃ rule, gradleVersion.build = .ok rule ∧
      ∀ w : Wrapper,
        Project.versionOf w.text =
            String.ofList w.version.text ∧
          if w.version.isOld then
            (∃ hit, rule.hits w.text = [hit] ∧
              rule.isFixable w.text hit = .ok true) ∧
              rule.transform w.text = .ok w.renewed.text ∧
                Project.versionOf w.renewed.text = "9.0.0"
          else
            rule.hits w.text = [] ∧
              rule.transform w.text = .ok w.text := by
  rcases gradleVersion.of_hasForms hasForms_gradleVersion with
    ⟨hLinewise, hRewrites⟩
  rcases Rule.exists_transform_of_rewritesBy hRewrites
      (fun form hForm =>
        Form.isMoving_of_isLinewise (hLinewise form hForm)) with
    ⟨rule, hBuild, hKind, _, hTransform⟩
  have hTested :=
    RuleEntry.test_of_build isTested_gradleVersion hBuild
  simp only [Bool.and_eq_true, decide_eq_true_eq] at hTested
  rcases hTested with ⟨hAuto, hSought⟩
  refine ⟨rule, hBuild, fun w => ⟨w.versionOf_text, ?_⟩⟩
  by_cases hOld : w.version.isOld = true
  · rw [if_pos hOld]
    have hRenewed (lines : Wrapper)
        (hLines : lines.version = w.version) :
        rule.transform lines.text = .ok lines.renewed.text := by
      rw [hTransform]
      exact congrArg Except.ok
        (Wrapper.rewrite_of_isOld (hLines ▸ hOld))
    rcases Wrapper.exists_hits_eq hSought hOld with
      ⟨hit, hHits, hStart, hStop⟩
    refine ⟨⟨hit, hHits, ?_⟩, hRenewed w rfl,
      w.renewed.versionOf_text⟩
    rcases w.exists_lines hStart hStop with
      ⟨lines, hVersion, hLine⟩
    unfold Rule.isFixable
    rw [hAuto, hKind]
    simp only [Bool.not_true, Bool.false_eq_true, if_false]
    rw [hLine, hRenewed lines hVersion]
    have hNe := Wrapper.renewed_text_ne
      (w := lines) (hVersion ▸ hOld)
    simpa using hNe
  · rw [if_neg hOld]
    rw [Bool.not_eq_true] at hOld
    refine ⟨Wrapper.hits_eq_nil hSought hOld, ?_⟩
    rw [hTransform]
    exact congrArg Except.ok
      (Wrapper.rewrite_of_isOld_eq_false hOld)

/- A wrapper with a candidate of an old release. -/
def candidateWrapper : Wrapper where
  before := "#\n".toList
  path := "https://host/".toList
  version :=
    { major := ['7']
      minor := ['6']
      patch := []
      candidate := "-rc-1".toList
      major_digits := Version.isDigits_singleton (by decide)
      minor_digits := Version.isDigits_singleton (by decide)
      patch_part := Or.inl rfl
      candidate_part := Or.inr
        ⟨['1'], Version.isDigits_singleton (by decide),
          rfl⟩ }
  kind := "-bin.zip".toList
  after := "\n".toList
  path_inLine := by simp
  kind_mem := by decide
  path_free h :=
    absurd (h.subset List.mem_cons_self) (by decide)
  before_free h :=
    absurd (h.subset List.mem_cons_self) (by decide)
  after_free h :=
    absurd (h.subset List.mem_cons_self) (by decide)

theorem wrapper_release_agrees_candidateWrapper :
    ∃ rule, gradleVersion.build = .ok rule ∧
      Project.versionOf
          ("#\ndistributionUrl=https://host/" ++
            "gradle-7.6-rc-1-bin.zip\n").toList =
        "7.6-rc-1" ∧
        rule.transform
            ("#\ndistributionUrl=https://host/" ++
              "gradle-7.6-rc-1-bin.zip\n").toList =
          .ok ("#\ndistributionUrl=https://host/" ++
            "gradle-9.0.0-bin.zip\n").toList := by
  rcases wrapper_release_agrees with ⟨rule, hBuild, hAgrees⟩
  have hWrapper := hAgrees candidateWrapper
  have hOld : candidateWrapper.version.isOld = true := rfl
  rw [if_pos hOld] at hWrapper
  exact ⟨rule, hBuild, hWrapper.1, hWrapper.2.2.1⟩

end Builtin

end GradleMigration
