import GradleMigration.Pattern.Basic

/-
  Running a pattern at a place of a text.

  Key definitions include:
    * `Spot`
    * `Anchor.holds`
    * `Pattern.run`

  A run tries the ways in which a pattern can match in order
  of preference and hands each to a continuation; the first
  way that the continuation accepts is the result.  A round of
  a repetition beyond the required ones is only tried where
  the round before it has moved on, so every run ends.
-/

------------------------------------------------------------
-- Spots
------------------------------------------------------------

namespace GradleMigration

/-
  A place in a text with what has been captured on the way:
  the characters before it, nearest first, the characters
  after it, its offset, and the captures, newest first.
-/
structure Spot where
  before : List Char
  after : List Char
  pos : Nat
  groups : List (Nat × List Char)
deriving DecidableEq, Repr

namespace Spot

/- Step over the character `c`, with `rest` behind it. -/
def step
    (s : Spot)
    (c : Char)
    (rest : List Char) : Spot :=
  { s with
    before := c :: s.before
    after := rest
    pos := s.pos + 1 }

/- Go back over `count` characters, if there are as many. -/
def back : Nat → Spot → Option Spot
| 0, s => some s
| count + 1, s =>
    match s.before with
    | [] => none
    | c :: before =>
        back count
          { s with
            before := before
            after := c :: s.after
            pos := s.pos - 1 }

/- The text between a spot and a later one. -/
def textTo
    (s t : Spot) : List Char :=
  (t.before.take (t.pos - s.pos)).reverse

/- Remember what a group has matched. -/
def capture
    (s : Spot)
    (index : Nat)
    (text : List Char) : Spot :=
  { s with groups := (index, text) :: s.groups }

/- Step over a given text, compared under a folding. -/
def stepOver
    (folding : Folding) :
    List Char → Spot → Option Spot
| [], s => some s
| c :: text, s =>
    match s.after with
    | [] => none
    | d :: rest =>
        if folding.sameLower c d then
          stepOver folding text (s.step d rest)
        else
          none

end Spot

end GradleMigration

------------------------------------------------------------
-- Anchors
------------------------------------------------------------

namespace GradleMigration

namespace Anchor

/- Whether the character at the front is a word character. -/
def wordAt
    (ascii : Bool) : List Char → Bool
| [] => false
| c :: _ => CharKind.word.holds ascii c

/-
  Whether an anchor holds between the characters before and
  after a place.  An empty text has no boundaries, and no
  places that count as between boundaries either.
-/
def holds
    (anchor : Anchor)
    (before after : List Char) : Bool :=
  match anchor with
  | .textStart => before.isEmpty
  | .lineStart => before.isEmpty || before.head? == some '\n'
  | .textEnd => after.isEmpty
  | .lastLineEnd => after.isEmpty || after == ['\n']
  | .lineEnd => after.isEmpty || after.head? == some '\n'
  | .boundary ascii negated =>
      !(before.isEmpty && after.isEmpty) &&
        ((wordAt ascii before != wordAt ascii after) !=
          negated)

end Anchor

end GradleMigration

------------------------------------------------------------
-- Repetition
------------------------------------------------------------

namespace GradleMigration

namespace Repetition

/- What is to be done after a spot has been reached. -/
abbrev Next :=
  Spot → Option Spot

/- One round: from a spot, with what is to be done after it. -/
abbrev Round :=
  Spot → Next → Option Spot

/- Whether another round is allowed at a spot. -/
def mayGoOn
    (room : Option Nat)
    (last : Option Nat)
    (s : Spot) : Bool :=
  room != some 0 && last != some s.pos

/- The rounds that are left after one more. -/
def useRoom
    (room : Option Nat) : Option Nat :=
  room.map (· - 1)

/- The required rounds, then the rest. -/
def required
    (round : Round)
    (rest : Next) : Nat → Next
| 0, s => rest s
| n + 1, s => round s (required round rest n)

/-
  Further rounds as long as possible, giving rounds back when
  what follows fails.  `last` is where the last round began;
  each element of `fuel` pays for one round.
-/
def greedy
    (round : Round)
    (next : Next) :
    (fuel : List Char) →
    (room last : Option Nat) → Next
| [], room, last, s =>
    if mayGoOn room last s then
      match round s next with
      | some t => some t
      | none => next s
    else
      next s
| _ :: fuel, room, last, s =>
    if mayGoOn room last s then
      match round s
          (greedy round next fuel (useRoom room)
            (some s.pos)) with
      | some t => some t
      | none => next s
    else
      next s

/- Further rounds only when what follows fails. -/
def lazy
    (round : Round)
    (next : Next) :
    (fuel : List Char) →
    (room last : Option Nat) → Next
| [], room, last, s =>
    match next s with
    | some t => some t
    | none =>
        if mayGoOn room last s then round s next else none
| _ :: fuel, room, last, s =>
    match next s with
    | some t => some t
    | none =>
        if mayGoOn room last s then
          round s
            (lazy round next fuel (useRoom room)
              (some s.pos))
        else
          none

/- The required rounds, each in its preferred way only. -/
def requiredOnce
    (once : Next) : Nat → Next
| 0, s => some s
| n + 1, s =>
    match once s with
    | none => none
    | some t => requiredOnce once n t

/- Further rounds as long as possible, none given back. -/
def possessive
    (once : Next) :
    (fuel : List Char) →
    (room last : Option Nat) → Spot → Spot
| [], room, last, s =>
    if mayGoOn room last s then (once s).getD s else s
| _ :: fuel, room, last, s =>
    if mayGoOn room last s then
      match once s with
      | none => s
      | some t =>
          possessive once fuel (useRoom room) (some s.pos) t
    else
      s

end Repetition

end GradleMigration

------------------------------------------------------------
-- Runs
------------------------------------------------------------

namespace GradleMigration

namespace Pattern

/- Run a pattern at a spot, then the continuation `next`. -/
def run : Pattern → Repetition.Round
| .empty, s, next => next s
| .one test, s, next =>
    match s.after with
    | [] => none
    | c :: rest =>
        if test.accepts c then next (s.step c rest) else none
| .anchor a, s, next =>
    if a.holds s.before s.after then next s else none
| .seq p q, s, next => p.run s fun t => q.run t next
| .alt p q, s, next =>
    match p.run s next with
    | some t => some t
    | none => q.run s next
| .group index p, s, next =>
    p.run s fun t => next (t.capture index (s.textTo t))
| .loop bounds greed p, s, next =>
    let room := bounds.most.map (· - bounds.least)
    match greed with
    | .greedy =>
        Repetition.required p.run
          (fun t =>
            Repetition.greedy p.run next t.after room none t)
          bounds.least s
    | .lazy =>
        Repetition.required p.run
          (fun t =>
            Repetition.lazy p.run next t.after room none t)
          bounds.least s
    | .possessive =>
        let once := fun t => p.run t some
        match Repetition.requiredOnce once bounds.least s with
        | none => none
        | some t =>
            next
              (Repetition.possessive once t.after room none t)
| .atomic p, s, next =>
    match p.run s some with
    | none => none
    | some t => next t
| .ahead negated p, s, next =>
    match p.run s some with
    | none => if negated then next s else none
    | some t =>
        if negated then none
        else next { s with groups := t.groups }
| .behind negated width p, s, next =>
    match (s.back width.least).bind (p.run · some) with
    | none => if negated then next s else none
    | some t =>
        if negated then none
        else next { s with groups := t.groups }
| .backref index folding, s, next =>
    match (s.groups.lookup index).bind
        (s.stepOver folding ·) with
    | none => none
    | some t => next t
| .ifGroup index present absent, s, next =>
    if (s.groups.lookup index).isSome then
      present.run s next
    else
      absent.run s next

end Pattern

end GradleMigration
