import GradleMigration.Pattern.Basic
import GradleMigration.Pattern.Fault

/-
  The tokens of a pattern or a replacement text, and reading
  them one by one.

  Key definitions include:
    * `Token`
    * `tokenize`
    * `Reading`
    * `Reading.next`
    * `Reading.advance`
    * `Reading.refuse`

  A token is a character, or a backslash with the character
  after it.  A backslash at the very end is refused as soon as
  reading comes to stand before it.
-/

------------------------------------------------------------
-- Tokens
------------------------------------------------------------

namespace GradleMigration

/- A plain character, or one behind a backslash. -/
inductive Token where
| plain (c : Char)
| escaped (c : Char)
deriving DecidableEq, Repr

namespace Token

/- The characters that a token stands for in the text. -/
def chars : Token → List Char
| .plain c => [c]
| .escaped c => ['\\', c]

/- The text of a token. -/
def text
    (token : Token) : String :=
  String.ofList token.chars

/- The number of characters of a token. -/
def size
    (token : Token) : Nat :=
  token.chars.length

/- Whether a token is a plain character with a property. -/
def isPlainAnd
    (test : Char → Bool) : Token → Bool
| .plain c => test c
| .escaped _ => false

end Token

/-
  The tokens of a text, and whether a lone backslash is left
  over at its end.
-/
def tokenize : List Char → List Token × Bool
| [] => ([], false)
| ['\\'] => ([], true)
| '\\' :: c :: rest =>
    let (tokens, dangling) := tokenize rest
    (.escaped c :: tokens, dangling)
| c :: rest =>
    let (tokens, dangling) := tokenize rest
    (.plain c :: tokens, dangling)

end GradleMigration

------------------------------------------------------------
-- Reading Tokens
------------------------------------------------------------

namespace GradleMigration

/-
  What is known while a pattern is read: the text, the tokens
  ahead with the offset of the first, and the groups so far.
-/
structure ReadState where
  text : List Char
  tokens : List Token
  dangling : Bool
  position : Nat
  groups : Nat
  names : List (String × Nat)
  widths : List (Nat × Width)
  references : List (Nat × Nat)
  outsideLookbehind : Option Nat
deriving Repr

/- Reading either advances or refuses the text. -/
abbrev Reading :=
  StateT ReadState (Except PatternFault)

namespace Reading

/- Refuse the text at a given place. -/
def refuseAt
    {α : Type}
    (position : Nat)
    (cause : PatternCause) : Reading α := do
  let state ← get
  throw (.refused cause (some position) state.text)

/- Refuse the text `back` characters before the next token. -/
def refuse
    {α : Type}
    (back : Nat)
    (cause : PatternCause) : Reading α := do
  let state ← get
  refuseAt (state.position - back) cause

/- Refuse when only a lone backslash is left. -/
def checkDangling : Reading Unit := do
  let state ← get
  if state.tokens.isEmpty && state.dangling then
    refuseAt (state.text.length - 1) .danglingEscape

/- The next token, which stays where it is. -/
def next : Reading (Option Token) := do
  let state ← get
  return state.tokens.head?

/- Step over the next token, if there is one. -/
def advance : Reading Unit := do
  let state ← get
  match state.tokens with
  | [] => return ()
  | token :: tokens =>
      set { state with
        tokens := tokens
        position := state.position + token.size }
      checkDangling

/- Step over several tokens. -/
def advanceBy : Nat → Reading Unit
| 0 => return ()
| n + 1 => do
    advance
    advanceBy n

/- Take the next token. -/
def take : Reading (Option Token) := do
  let token ← next
  advance
  return token

/- Step over the next token if it is the given character. -/
def accept
    (c : Char) : Reading Bool := do
  let token ← next
  if token = some (.plain c) then
    advance
    return true
  else
    return false

/- The offset of the next token. -/
def position : Reading Nat := do
  let state ← get
  return state.position

/- Take up to `limit` plain characters with a property. -/
def takeWhile
    (limit : Nat)
    (test : Char → Bool) : Reading (List Char) := do
  let state ← get
  let taken :=
    (state.tokens.take limit).takeWhile (·.isPlainAnd test)
  advanceBy taken.length
  return taken.flatMap Token.chars

/-
  Take a non-empty name up to a terminator, and step over the
  terminator.
-/
def takeName
    (terminator : Char)
    (what : String) : Reading (List Char) := do
  let state ← get
  let taken :=
    state.tokens.takeWhile (· != .plain terminator)
  let name := taken.flatMap Token.chars
  if taken.length < state.tokens.length then
    advanceBy (taken.length + 1)
    if name.isEmpty then
      refuse 1 (.missingName what)
    return name
  else
    advanceBy taken.length
    if name.isEmpty then
      refuse 0 (.missingName what)
    else
      refuse name.length (.unterminatedName terminator)

/- Read a whole text from its start. -/
def run
    {α : Type}
    (text : List Char)
    (reading : Reading α) :
    Except PatternFault (α × ReadState) :=
  let (tokens, dangling) := tokenize text
  StateT.run (checkDangling >>= fun _ => reading)
    { text := text
      tokens := tokens
      dangling := dangling
      position := 0
      groups := 1
      names := []
      widths := []
      references := []
      outsideLookbehind := none }

end Reading

end GradleMigration
