import GradleMigration.Pattern.Reader
import GradleMigration.Pattern.Run

/-
  Searching a text for a pattern.

  Key definitions include:
    * `Hit`
    * `Pattern.searchFrom`
    * `Pattern.segments`
    * `Regex.hits`
    * `Regex.hitAt`

  The hits of a pattern are found from left to right and never
  overlap.  After an empty hit the search goes on at the same
  place for a hit that is not empty.
-/

------------------------------------------------------------
-- Hits
------------------------------------------------------------

namespace GradleMigration

/-
  An occurrence of a pattern: where it starts, its text, and
  the captures, newest first.
-/
structure Hit where
  start : Nat
  text : List Char
  groups : List (Nat × List Char)
deriving DecidableEq, Repr

namespace Hit

/- The offset just behind a hit. -/
def stop
    (hit : Hit) : Nat :=
  hit.start + hit.text.length

/-
  What a group has captured: nothing counts as the empty text,
  and group zero is the whole hit.
-/
def group
    (hit : Hit)
    (index : Nat) : List Char :=
  if index = 0 then
    hit.text
  else
    (hit.groups.lookup index).getD []

/- The hit that a run from one spot to another has made. -/
def between
    (s t : Spot) : Hit where
  start := s.pos
  text := s.textTo t
  groups := t.groups

end Hit

end GradleMigration

------------------------------------------------------------
-- Searching
------------------------------------------------------------

namespace GradleMigration

namespace Pattern

/-
  Run a pattern at a place; with `moving` the run has to end
  at a later place.
-/
def runAt
    (p : Pattern)
    (moving : Bool)
    (s : Spot) : Option Spot :=
  p.run s fun t =>
    if moving && t.pos == s.pos then none else some t

/-
  The first place from here on where a pattern matches: the
  characters passed over, the hit, and the spot behind it.
  Only a hit right here has to move on.
-/
def searchFrom
    (p : Pattern) :
    (moving : Bool) →
    (before : List Char) →
    (pos : Nat) →
    (after : List Char) →
    Option (List Char × Hit × Spot)
| moving, before, pos, [] =>
    let s : Spot := ⟨before, [], pos, []⟩
    match p.runAt moving s with
    | some t => some ([], .between s t, t)
    | none => none
| moving, before, pos, c :: rest =>
    let s : Spot := ⟨before, c :: rest, pos, []⟩
    match p.runAt moving s with
    | some t => some ([], .between s t, t)
    | none =>
        match searchFrom p false (c :: before)
            (pos + 1) rest with
        | none => none
        | some (gap, hit, t) => some (c :: gap, hit, t)

/- A text cut into hits, each with the text before it. -/
structure Segments where
  hits : List (List Char × Hit)
  tail : List Char
deriving DecidableEq, Repr

/- Cut the text from a place on; `fuel` bounds the hits. -/
def segmentsFrom
    (p : Pattern) :
    (fuel : Nat) →
    (moving : Bool) →
    (before : List Char) →
    (pos : Nat) →
    (after : List Char) →
    Segments
| 0, _, _, _, after => ⟨[], after⟩
| fuel + 1, moving, before, pos, after =>
    match p.searchFrom moving before pos after with
    | none => ⟨[], after⟩
    | some (gap, hit, t) =>
        let rest := segmentsFrom p fuel (t.pos == hit.start)
          t.before t.pos t.after
        ⟨(gap, hit) :: rest.hits, rest.tail⟩

/-
  Cut a text at the hits of a pattern.  At each place there is
  at most one empty hit and one that is not.
-/
def segments
    (p : Pattern)
    (text : List Char) : Segments :=
  p.segmentsFrom (2 * text.length + 2) false [] 0 text

end Pattern

namespace Regex

/- The hits of a pattern in a text, from left to right. -/
def hits
    (regex : Regex)
    (text : List Char) : List Hit :=
  (regex.pattern.segments text).hits.map (·.2)

end Regex

end GradleMigration
