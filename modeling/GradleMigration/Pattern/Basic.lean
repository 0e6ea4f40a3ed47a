import GradleMigration.Text.Blank
import GradleMigration.Text.Case
import GradleMigration.Text.Digit
import GradleMigration.Text.Word

/-
  Search patterns: what a pattern says about a text.

  Key definitions include:
    * `CharKind`
    * `SetItem`
    * `CharTest`
    * `CharTest.accepts`
    * `Anchor`
    * `Bounds`
    * `Greed`
    * `Pattern`
    * `Width`
    * `Pattern.width`

  Modes such as "ignore case" are resolved while a pattern is
  read, so each node says on its own what it accepts.
-/

------------------------------------------------------------
-- Character Tests
------------------------------------------------------------

namespace GradleMigration

/- The named classes of characters. -/
inductive CharKind where
| digit
| blank
| word
deriving DecidableEq, Repr

/-
  Whether a character is of a kind; with `ascii` only the
  ASCII members count.
-/
def CharKind.holds
    (kind : CharKind)
    (ascii : Bool)
    (c : Char) : Bool :=
  match kind, ascii with
  | .digit, true => Text.isAsciiDigit c
  | .digit, false => Text.isDigit c
  | .blank, true => Text.isAsciiBlank c
  | .blank, false => Text.isBlank c
  | .word, true => Text.isAsciiWord c
  | .word, false => Text.isWord c

/- How far two spellings of a letter count as the same. -/
inductive Folding where
| exact
| ascii
| full
deriving DecidableEq, Repr

/- Whether two characters are the same under a folding. -/
def Folding.same
    (folding : Folding)
    (a b : Char) : Bool :=
  match folding with
  | .exact => a == b
  | .ascii => a.toLower == b.toLower
  | .full => Text.sameIgnoringCase a b

/- Whether two characters have the same lower-case form. -/
def Folding.sameLower
    (folding : Folding)
    (a b : Char) : Bool :=
  match folding with
  | .exact => a == b
  | .ascii => a.toLower == b.toLower
  | .full => Text.lower a == Text.lower b

/- The characters that are the same as the given one. -/
def Folding.variants
    (folding : Folding)
    (c : Char) : List Char :=
  match folding with
  | .exact => [c]
  | .ascii => [c, c.toLower, c.toUpper]
  | .full => Text.caseVariants c

/- A member of a bracketed set. -/
inductive SetItem where
| char (c : Char)
| range (first last : Nat)
| kind (k : CharKind) (ascii negated : Bool)
deriving DecidableEq, Repr

/- Whether a set member accepts a character. -/
def SetItem.accepts
    (item : SetItem)
    (folding : Folding)
    (c : Char) : Bool :=
  match item with
  | .char d => folding.same c d
  | .range first last =>
      (folding.variants c).any fun v =>
        first ≤ v.toNat && v.toNat ≤ last
  | .kind k ascii negated =>
      k.holds ascii c != negated

/-
  A test on one character: a set of members, perhaps negated.
  A single literal is a set with one member.
-/
structure CharTest where
  negated : Bool
  items : List SetItem
  folding : Folding
deriving DecidableEq, Repr

/- Whether a test accepts a character. -/
def CharTest.accepts
    (test : CharTest)
    (c : Char) : Bool :=
  test.items.any (·.accepts test.folding c) != test.negated

end GradleMigration

------------------------------------------------------------
-- Patterns
------------------------------------------------------------

namespace GradleMigration

/- Conditions on a place in the text, which take no room. -/
inductive Anchor where
| textStart
| lineStart
| textEnd
| lastLineEnd
| lineEnd
| boundary (ascii negated : Bool)
deriving DecidableEq, Repr

/- How often a part may be repeated. -/
structure Bounds where
  least : Nat
  most : Option Nat
deriving DecidableEq, Repr

/-
  Whether repetition prefers more rounds, prefers fewer, or
  takes as many as it can and never gives one back.
-/
inductive Greed where
| greedy
| lazy
| possessive
deriving DecidableEq, Repr

/- The least and the greatest length of what can be matched. -/
structure Width where
  least : Nat
  most : Option Nat
deriving DecidableEq, Repr

/- A search pattern. -/
inductive Pattern where
| empty
| one (test : CharTest)
| anchor (a : Anchor)
| seq (first second : Pattern)
| alt (first second : Pattern)
| group (index : Nat) (body : Pattern)
| loop (bounds : Bounds) (greed : Greed) (body : Pattern)
| atomic (body : Pattern)
| ahead (negated : Bool) (body : Pattern)
| behind (negated : Bool) (width : Width) (body : Pattern)
| backref (index : Nat) (folding : Folding)
| ifGroup (index : Nat) (present absent : Pattern)
deriving DecidableEq, Repr

namespace Pattern

/- The patterns of a list, one after another. -/
def sequence : List Pattern → Pattern
| [] => .empty
| [p] => p
| p :: ps => .seq p (sequence ps)

/- The patterns of a list, as alternatives in order. -/
def choice : List Pattern → Pattern
| [] => .empty
| [p] => p
| p :: ps => .alt p (choice ps)

end Pattern

end GradleMigration

------------------------------------------------------------
-- Widths
------------------------------------------------------------

namespace GradleMigration

namespace Width

/- Nothing is matched but the empty text. -/
def zero : Width :=
  ⟨0, some 0⟩

/- Exactly one character is matched. -/
def one : Width :=
  ⟨1, some 1⟩

/- Both parts, one after the other. -/
def add
    (a b : Width) : Width where
  least := a.least + b.least
  most := do
    let x ← a.most
    let y ← b.most
    return x + y

/- Either part. -/
def union
    (a b : Width) : Width where
  least := min a.least b.least
  most := do
    let x ← a.most
    let y ← b.most
    return max x y

/- The part repeated within the bounds. -/
def repeated
    (bounds : Bounds)
    (w : Width) : Width where
  least := w.least * bounds.least
  most :=
    match w.most, bounds.most with
    | some 0, _ => some 0
    | some x, some n => some (x * n)
    | _, some 0 => some 0
    | _, _ => none

/- Whether only one length is possible. -/
def isFixed
    (w : Width) : Bool :=
  w.most == some w.least

end Width

/-
  The width of a pattern, given the widths of the groups that
  it may refer to.
-/
def Pattern.width
    (groups : Nat → Width) : Pattern → Width
| .empty => .zero
| .one _ => .one
| .anchor _ => .zero
| .seq p q => (p.width groups).add (q.width groups)
| .alt p q => (p.width groups).union (q.width groups)
| .group _ p => p.width groups
| .loop bounds _ p => (p.width groups).repeated bounds
| .atomic p => p.width groups
| .ahead _ _ => .zero
| .behind _ _ _ => .zero
| .backref index _ => groups index
| .ifGroup _ p q => (p.width groups).union (q.width groups)

end GradleMigration
