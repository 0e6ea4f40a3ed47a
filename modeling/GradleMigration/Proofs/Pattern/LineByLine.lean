import GradleMigration.Proofs.Pattern.Transport
import GradleMigration.Proofs.Pattern.WholeLines

/-
  Patterns that do not see beyond a line: their hits are
  replaced line by line.

  Such a pattern has the same ways in a line as in the text
  around it, in the same order.

  Main declarations:
    * `Pattern.isLineBound`
    * `Spot.embed`
    * `Pattern.ways_embed`
    * `Pattern.rewrite_line`
-/

------------------------------------------------------------
-- Line-Bound Patterns
------------------------------------------------------------

namespace GradleMigration

/- Anchors that hold in a line where they hold in a text. -/
def Anchor.isLineBound : Anchor → Bool
| .lineStart => true
| .lineEnd => true
| .boundary _ negated => !negated
| _ => false

namespace Pattern

/- Patterns that do not see beyond the line that they are in. -/
def isLineBound : Pattern → Bool
| .empty => true
| .one test => !test.accepts '\n'
| .anchor a => a.isLineBound
| .seq p q => p.isLineBound && q.isLineBound
| .alt p q => p.isLineBound && q.isLineBound
| .group _ p => p.isLineBound
| .loop _ greed p =>
    greed != .possessive && p.isMoving && p.isLineBound
| .ahead _ p => p.isLineBound
| _ => false

end Pattern

/- The same place with something in front of it and behind it. -/
def Spot.embed
    (front behind : List Char)
    (s : Spot) : Spot where
  before := s.before ++ front.reverse
  after := s.after ++ behind
  pos := s.pos + front.length
  groups := s.groups

variable {front behind : List Char}

/- What is passed over is passed over in the longer text. -/
theorem Spot.Passes.embed
    {s t : Spot}
    {text : List Char}
    {captured : List (Nat × List Char)}
    (h : s.Passes t text captured) :
    (s.embed front behind).Passes (t.embed front behind) text
      captured where
  after := by
    simp only [Spot.embed, h.after, List.append_assoc]
  before := by
    simp only [Spot.embed, h.before, List.append_assoc]
  pos := by
    simp only [Spot.embed, h.pos]
    omega
  groups := h.groups

/- Line-bound anchors hold in a line and in the text alike. -/
theorem Anchor.holds_embed
    (hLines : Text.WholeLines front behind)
    {a : Anchor}
    (hBound : a.isLineBound = true)
    (s : Spot) :
    a.holds (s.embed front behind).before
        (s.embed front behind).after =
      a.holds s.before s.after := by
  have hFront :
      front.reverse = [] ∨ front.reverse.head? = some '\n' := by
    rw [List.head?_reverse, List.reverse_eq_nil_iff]
    exact hLines.front_end
  unfold Spot.embed
  simp only
  cases a with
  | textStart => cases hBound
  | textEnd => cases hBound
  | lastLineEnd => cases hBound
  | lineStart =>
      cases hBefore : s.before with
      | nil => simpa [holds] using hFront
      | cons c rest => simp [holds]
  | lineEnd =>
      cases hAfter : s.after with
      | nil => simpa [holds] using hLines.behind_start
      | cons c rest => simp [holds]
  | boundary ascii negated =>
      cases negated with
      | true => cases hBound
      | false =>
          -- Where nothing is around, there is no boundary.
          simp only [holds]
          rw [wordAt_append ascii hFront,
            wordAt_append ascii hLines.behind_start]
          cases hBefore : s.before with
          | cons c rest => simp
          | nil =>
              cases hAfter : s.after with
              | cons c rest => simp
              | nil => simp [wordAt]

/- A line is carried into the text around it. -/
def Transport.intoLines
    (front behind : List Char) : Transport where
  good _ := True
  move := Spot.embed front behind
  capture := by
    intro s t text captured _ _ hText index
    rw [hText.embed.textTo_eq]
    exact ⟨trivial, rfl⟩
  restore _ _ := ⟨trivial, rfl⟩

namespace Pattern

/- Characters of a line, and anchors that are bound to it. -/
def isLinePart : Pattern → Bool
| .one test => !test.accepts '\n'
| .anchor a => a.isLineBound
| _ => false

/- Line-bound patterns are put together from such parts. -/
theorem isBuiltFrom_of_isLineBound
    {p : Pattern}
    (h : p.isLineBound = true) :
    p.isBuiltFrom isLinePart = true := by
  induction p with
  | empty => rfl
  | one test => exact h
  | anchor a => exact h
  | seq p q ihP ihQ =>
      rcases Bool.and_eq_true_iff.mp h with ⟨hP, hQ⟩
      rw [isBuiltFrom, ihP hP, ihQ hQ]
      rfl
  | alt p q ihP ihQ =>
      rcases Bool.and_eq_true_iff.mp h with ⟨hP, hQ⟩
      rw [isBuiltFrom, ihP hP, ihQ hQ]
      rfl
  | group index p ih => exact ih h
  | loop bounds greed p ih =>
      rcases Bool.and_eq_true_iff.mp h with ⟨hRounds, hP⟩
      rw [isBuiltFrom, hRounds, ih hP]
      rfl
  | ahead negated p ih =>
      rw [isBuiltFrom, ih h, Bool.or_true]
  | atomic p ih => cases h
  | behind negated width p ih => cases h
  | backref index folding => cases h
  | ifGroup index present absent ihP ihA => cases h

/- The parts of line-bound patterns are carried. -/
theorem carries_of_isLinePart
    (hLines : Text.WholeLines front behind)
    (p : Pattern)
    (h : p.isLinePart = true) :
    (Transport.intoLines front behind).Carries p.ways := by
  intro s _
  refine ⟨?_, fun _ _ => trivial⟩
  change p.ways (s.embed front behind) =
    (p.ways s).map (Spot.embed front behind)
  cases p with
  | one test =>
      have hFeed : test.accepts '\n' = false := by
        simpa [isLinePart] using h
      rw [ways, ways]
      cases hAfter : s.after with
      | nil =>
          simp only [Spot.embed, hAfter, List.nil_append]
          cases behind with
          | nil => rfl
          | cons d rest =>
              rcases hLines.behind_start with hNil | hHead
              · cases hNil
              · cases hHead
                simp [hFeed]
      | cons c rest =>
          simp only [Spot.embed, hAfter, List.cons_append]
          split
          · simp only [List.map_cons, List.map_nil, Spot.step,
              Spot.embed, List.cons_append, Nat.add_right_comm]
          · rfl
  | anchor a =>
      rw [ways, ways, a.holds_embed hLines h]
      split
      · rfl
      · rfl
  | _ => cases h

/-
  A line-bound pattern has the same ways in a line as in the
  text around it.
-/
theorem ways_embed
    (hLines : Text.WholeLines front behind)
    {p : Pattern}
    (hBound : p.isLineBound = true)
    (s : Spot) :
    p.ways (s.embed front behind) =
      (p.ways s).map (Spot.embed front behind) :=
  (Transport.carries_ways (carries_of_isLinePart hLines)
    (isBuiltFrom_of_isLineBound hBound) s trivial).1

end Pattern

end GradleMigration

------------------------------------------------------------
-- Rewriting Line by Line
------------------------------------------------------------

namespace GradleMigration

/- A replacement that does not depend on where a hit is. -/
def Hit.Placeless
    (replace : Hit → List Char) : Prop :=
  ∀ a b : Hit, a.text = b.text → a.groups = b.groups →
    replace a = replace b

/- Templates do not depend on where a hit is. -/
theorem placeless_expand
    (parts : List TemplatePart) :
    Hit.Placeless (expand parts) := by
  intro a b hText hGroups
  unfold expand Hit.group
  rw [hText, hGroups]

namespace Pattern

variable {front behind : List Char}
variable {p : Pattern} {replace : Hit → List Char}

/- A hit in a line is replaced as it is in the text. -/
theorem replace_embed
    (hReplace : Hit.Placeless replace)
    {s t : Spot}
    (hT : t ∈ p.ways s) :
    replace (.between (s.embed front behind)
        (t.embed front behind)) =
      replace (.between s t) := by
  rcases p.passing_of_mem_ways s t hT with
    ⟨text, captured, hText, _⟩
  apply hReplace
  · unfold Hit.between
    rw [hText.embed.textTo_eq, hText.textTo_eq]
  · rfl

/- What stands in the lines before makes no difference. -/
theorem rewriteFrom_front
    (hReplace : Hit.Placeless replace)
    (hBound : p.isLineBound = true)
    (hFront : front = [] ∨ front.getLast? = some '\n')
    (skip : Nat)
    (before text : List Char) :
    p.rewriteFrom replace skip (before ++ front.reverse) text =
      p.rewriteFrom replace skip before text := by
  induction text generalizing skip before with
  | nil => simp only [rewriteFrom]
  | cons c rest ih =>
      cases skip with
      | succ skip =>
          rw [rewriteFrom, rewriteFrom]
          exact ih skip (c :: before)
      | zero =>
          have hSpot :
              spotAt (before ++ front.reverse) (c :: rest) =
                (spotAt before (c :: rest)).embed front [] := by
            simp [spotAt, Spot.embed]
          have hWays := ways_embed ⟨hFront, Or.inl rfl⟩ hBound
            (spotAt before (c :: rest))
          rw [rewriteFrom, rewriteFrom, hSpot, hWays,
            List.head?_map]
          cases hHead :
              (p.ways (spotAt before (c :: rest))).head? with
          | none =>
              simp only [Option.map_none]
              rw [← List.cons_append, ih]
          | some t =>
              simp only [Option.map_some]
              rw [replace_embed hReplace
                (List.mem_of_head? hHead), ← List.cons_append,
                ih]
              congr 2
              simp only [Spot.embed, List.length_append,
                List.length_reverse]
              omega

/-
  Where a pattern has the same ways in a text as in a longer
  one, what is behind the text makes no difference.
-/
theorem rewriteFrom_append
    (hReplace : Hit.Placeless replace)
    {skip : Nat}
    {line behind : List Char}
    (hWays : ∀ before part, part <:+ line →
      p.ways (spotAt before (part ++ behind)) =
        (p.ways (spotAt before part)).map
          (Spot.embed [] behind))
    (hSkip : skip ≤ line.length)
    (before : List Char) :
    p.rewriteFrom replace skip before (line ++ behind) =
      p.rewriteFrom replace skip before line ++
        p.rewriteFrom replace 0 (line.reverse ++ before)
          behind := by
  induction line generalizing skip before with
  | nil =>
      cases Nat.le_zero.mp hSkip
      rfl
  | cons c more ih =>
      have hMore : ∀ {skip}, skip ≤ more.length → ∀ before,
          p.rewriteFrom replace skip before (more ++ behind) =
            p.rewriteFrom replace skip before more ++
              p.rewriteFrom replace 0 (more.reverse ++ before)
                behind :=
        fun hLess => ih
          (fun before part hPart => hWays before part
            (hPart.trans (List.suffix_cons c more))) hLess
      rw [List.cons_append, List.reverse_cons,
        List.append_assoc, List.singleton_append]
      cases skip with
      | succ skip =>
          rw [rewriteFrom, rewriteFrom,
            hMore (Nat.le_of_succ_le_succ hSkip)]
      | zero =>
          have hHere := hWays before (c :: more)
            List.suffix_rfl
          rw [List.cons_append] at hHere
          rw [rewriteFrom, rewriteFrom, hHere, List.head?_map]
          cases hHead :
              (p.ways (spotAt before (c :: more))).head? with
          | none =>
              simp only [Option.map_none]
              rw [hMore (Nat.zero_le _), List.cons_append]
          | some t =>
              have hT := List.mem_of_head? hHead
              have hEnd :
                  t.pos - before.length - 1 ≤ more.length := by
                rcases p.passing_of_mem_ways _ _ hT with
                  ⟨text, captured, hText, _⟩
                have hAfter := congrArg List.length hText.after
                have hPos := hText.pos
                simp only [spotAt, List.length_append,
                  List.length_cons] at hAfter hPos
                omega
              have hSpot :
                  spotAt before (c :: (more ++ behind)) =
                    (spotAt before (c :: more)).embed []
                      behind := by
                simp [spotAt, Spot.embed]
              have hPos : (t.embed [] behind).pos = t.pos := by
                simp [Spot.embed]
              simp only [Option.map_some]
              rw [hSpot, replace_embed hReplace hT, hPos,
                hMore hEnd, List.append_assoc]

/- A character from which there is no way is kept. -/
theorem rewriteFrom_kept
    (hMoving : p.isMoving = true)
    {c : Char}
    {before rest : List Char}
    (h : p.ways (spotAt before ([] ++ c :: rest)) =
      (p.ways (spotAt before [])).map
        (Spot.embed [] (c :: rest))) :
    p.rewriteFrom replace 0 before (c :: rest) =
      c :: p.rewriteFrom replace 0 (c :: before) rest := by
  have hNone := ways_of_after_eq_nil hMoving
    (show (spotAt before []).after = [] from rfl)
  rw [hNone, List.nil_append, List.map_nil] at h
  rw [rewriteFrom, h]
  rfl

/- A line and the lines behind it, as the pattern sees them. -/
theorem ways_line
    (hBound : p.isLineBound = true)
    (before line rest : List Char) :
    p.ways (spotAt before (line ++ '\n' :: rest)) =
      (p.ways (spotAt before line)).map
        (Spot.embed [] ('\n' :: rest)) := by
  have hSpot :
      spotAt before (line ++ '\n' :: rest) =
        (spotAt before line).embed [] ('\n' :: rest) := by
    simp [spotAt, Spot.embed]
  rw [hSpot]
  exact ways_embed ⟨Or.inl rfl, Or.inr rfl⟩ hBound _

/- The hits of a line-bound pattern are replaced by lines. -/
theorem rewrite_line
    (hReplace : Hit.Placeless replace)
    (hBound : p.isLineBound = true)
    (hMoving : p.isMoving = true)
    (line rest : List Char) :
    p.rewrite replace (line ++ '\n' :: rest) =
      p.rewrite replace line ++
        '\n' :: p.rewrite replace rest := by
  unfold rewrite
  rw [rewriteFrom_append hReplace
      (fun before part _ => ways_line hBound before part rest)
      (Nat.zero_le _),
    rewriteFrom_kept hMoving (ways_line hBound _ [] rest)]
  congr 2
  have hEnd :
      line ++ ['\n'] = [] ∨
        (line ++ ['\n']).getLast? = some '\n' :=
    Or.inr List.getLast?_concat
  rw [← rewriteFrom_front hReplace hBound hEnd 0 [] rest]
  simp

end Pattern

end GradleMigration
