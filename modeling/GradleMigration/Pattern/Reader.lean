import GradleMigration.Pattern.Mode
import GradleMigration.Pattern.Token
import GradleMigration.Text.CharName
import GradleMigration.Text.Identifier

/-
  Reading a pattern from its text.

  Key definitions include:
    * `Regex`
    * `Regex.compile`
    * `readAlternatives`
    * `readItems`
    * `readSet`
    * `readEscape`

  A pattern text is read from left to right up to its first
  fault.  Look-behinds must have a fixed width, which is
  checked once the whole text has been read.  Parentheses may
  be nested to any depth: what stack the reading needs is up to
  the machine, and no fault of the pattern.
-/

------------------------------------------------------------
-- Escapes
------------------------------------------------------------

namespace GradleMigration

namespace Reading

/- Hexadecimal digits. -/
def isHexDigit
    (c : Char) : Bool :=
  c.isDigit || ('a' ≤ c && c ≤ 'f') || ('A' ≤ c && c ≤ 'F')

/- Octal digits. -/
def isOctalDigit
    (c : Char) : Bool :=
  '0' ≤ c && c ≤ '7'

/- The value of one digit in a base up to sixteen. -/
def digitOf
    (c : Char) : Nat :=
  if c.isDigit then c.toNat - '0'.toNat
  else (c.toLower.toNat - 'a'.toNat) + 10

/- The value of digits in a base. -/
def valueIn
    (base : Nat)
    (digits : List Char) : Nat :=
  digits.foldl (fun n c => base * n + digitOf c) 0

/- The characters that a letter behind a backslash names. -/
def controlChar : Char → Option Char
| 'a' => some '\x07'
| 'b' => some '\x08'
| 'f' => some '\x0c'
| 'n' => some '\n'
| 'r' => some '\r'
| 't' => some '\t'
| 'v' => some '\x0b'
| '\\' => some '\\'
| _ => none

/- The kind that a letter behind a backslash names. -/
def kindOf
    (modes : Modes) : Char → Option SetItem
| 'd' => some (.kind .digit modes.ascii false)
| 'D' => some (.kind .digit modes.ascii true)
| 's' => some (.kind .blank modes.ascii false)
| 'S' => some (.kind .blank modes.ascii true)
| 'w' => some (.kind .word modes.ascii false)
| 'W' => some (.kind .word modes.ascii true)
| _ => none

/- The anchor that a letter behind a backslash names. -/
def anchorOf
    (modes : Modes) : Char → Option Anchor
| 'A' => some .textStart
| 'Z' => some .textEnd
| 'b' => some (.boundary modes.ascii false)
| 'B' => some (.boundary modes.ascii true)
| _ => none

/- The escape text made of a letter and what follows it. -/
def escapeText
    (c : Char)
    (rest : List Char) : String :=
  String.ofList ('\\' :: c :: rest)

/- The integers that a machine holds end before this one. -/
def machineLimit : Nat :=
  0x80000000

/-
  The code given by exactly `count` hexadecimal digits behind
  the letter `c`.  Codes beyond the characters are refused,
  but not those that no machine integer holds.
-/
def readHexCode
    (c : Char)
    (count : Nat) : Reading Nat := do
  let digits ← takeWhile count isHexDigit
  let size := digits.length + 2
  if digits.length = count then
    let code := valueIn 16 digits
    if code < 0x110000 then
      return code
    else if code < machineLimit then
      refuse size (.badEscape (escapeText c digits))
    else
      throw .codeTooLarge
  else
    refuse size (.incompleteEscape (escapeText c digits))

/- The code of a character given by its name. -/
def readNamedCode : Reading Nat := do
  if !(← accept '\x7b') then
    refuse 0 .missingBrace
  let name ← takeName '\x7d' "character name"
  match Text.codeNamed? name with
  | some code => return code
  | none =>
      refuse (name.length + 4)
        (.unknownCharacter (String.ofList name))

/- The code given by the escapes that sets share. -/
def readCode
    (c : Char) : Reading (Option Nat) := do
  match c with
  | 'x' => return some (← readHexCode c 2)
  | 'u' => return some (← readHexCode c 4)
  | 'U' => return some (← readHexCode c 8)
  | 'N' => return some (← readNamedCode)
  | _ => return none

/- An octal code may be at most 0o377. -/
def checkOctal
    (digits : List Char) : Reading Nat := do
  let code := valueIn 8 digits
  if code ≤ 0o377 then
    return code
  else
    refuse (digits.length + 1)
      (.octalTooLarge (String.ofList ('\\' :: digits)))

/-
  A character that has no meaning of its own behind a
  backslash stands for itself, unless it is a letter.
-/
def readPlainEscape
    (c : Char) : Reading Nat :=
  if c.isAlpha then
    refuse 2 (.badEscape (escapeText c []))
  else
    return c.toNat

/- The set member for a code. -/
def itemOfCode
    (code : Nat) : SetItem :=
  if Nat.isValidChar code then
    .char (Char.ofNat code)
  else
    .range code code

/- An escape inside a bracketed set. -/
def readSetEscape
    (modes : Modes)
    (c : Char) : Reading SetItem := do
  match controlChar c, kindOf modes c with
  | some d, _ => return .char d
  | none, some item => return item
  | none, none =>
      match ← readCode c with
      | some code => return itemOfCode code
      | none =>
          if isOctalDigit c then
            let more ← takeWhile 2 isOctalDigit
            return itemOfCode (← checkOctal (c :: more))
          else if c.isDigit then
            refuse 2 (.badEscape (escapeText c []))
          else
            return itemOfCode (← readPlainEscape c)

end Reading

end GradleMigration

------------------------------------------------------------
-- Groups
------------------------------------------------------------

namespace GradleMigration

namespace Reading

/- The group numbers beyond which no reference can go. -/
def maxGroups : Nat :=
  1073741823

/- Whether a group has been closed. -/
def isClosed
    (state : ReadState)
    (index : Nat) : Bool :=
  index < state.groups &&
    (state.widths.lookup index).isSome

/-
  Inside a look-behind only groups closed before it may be
  referred to.
-/
def checkLookbehind
    (index : Nat) : Reading Unit := do
  let state ← get
  match state.outsideLookbehind with
  | none => return ()
  | some bound =>
      if !isClosed state index then
        refuse 0 .openGroup
      if bound ≤ index then
        refuse 0 .groupInLookbehind

/- Open a group, with a name or without. -/
def openGroup
    (name : Option (List Char)) : Reading Nat := do
  let state ← get
  let index := state.groups
  match name with
  | none =>
      set { state with groups := index + 1 }
      return index
  | some chars =>
      let text := String.ofList chars
      match state.names.lookup text with
      | some previous =>
          refuse (chars.length + 1)
            (.redefinedGroup text index previous)
      | none =>
          set { state with
            groups := index + 1
            names := (text, index) :: state.names }
          return index

/- Close a group whose body is known. -/
def closeGroup
    (index : Nat)
    (body : Pattern) : Reading Unit :=
  modify fun state =>
    let width := body.width fun i =>
      (state.widths.lookup i).getD .zero
    { state with widths := (index, width) :: state.widths }

/- The width of a pattern that has just been read. -/
def widthOf
    (body : Pattern) : Reading Width := do
  let state ← get
  return body.width fun i =>
    (state.widths.lookup i).getD .zero

/- A group name must be an identifier. -/
def checkName
    (name : List Char) : Reading Unit :=
  if Text.isIdentifier name then
    return ()
  else
    refuse (name.length + 1)
      (.badGroupName (String.ofList name))

/- The number of the group with a name. -/
def groupNamed
    (name : List Char) : Reading Nat := do
  let state ← get
  match state.names.lookup (String.ofList name) with
  | some index => return index
  | none =>
      refuse (name.length + 1)
        (.unknownGroupName (String.ofList name))

/- The number of a group given as a numeral. -/
def groupNumbered
    (name : List Char) : Reading Nat := do
  match Text.looseInteger name with
  | some (.ofNat index) =>
      if maxGroups ≤ index then
        refuse (name.length + 1) (.unknownGroup index)
      else
        return index
  | _ =>
      refuse (name.length + 1)
        (.badGroupName (String.ofList name))

/- The group that a conditional part asks about. -/
def readCondition : Reading Nat := do
  let name ← takeName ')' "group name"
  if Text.isIdentifier name then
    groupNamed name
  else
    match Text.looseInteger name with
    | some 0 => refuse (name.length + 1) .badGroupNumber
    | _ =>
        let index ← groupNumbered name
        let here ← position
        modify fun state =>
          if (state.references.lookup index).isSome then
            state
          else
            { state with
              references := state.references ++
                [(index, here - name.length - 1)] }
        return index

/-
  A decimal escape: three octal digits give a character, and
  anything else is the number of a closed group.
-/
def readDecimalEscape
    (modes : Modes)
    (c : Char) : Reading Pattern := do
  let more ← takeWhile 1 Char.isDigit
  let digits := c :: more
  let third ←
    if digits.length = 2 && digits.all isOctalDigit then
      takeWhile 1 isOctalDigit
    else
      pure []
  if third.isEmpty then
    let index := valueIn 10 digits
    let state ← get
    if index < state.groups then
      if !isClosed state index then
        refuse (digits.length + 1) .openGroup
      checkLookbehind index
      return .backref index modes.folding
    else
      refuse digits.length (.unknownGroup index)
  else
    let code ← checkOctal (digits ++ third)
    return modes.set false [itemOfCode code]

/-
  What a part is for repetition: an anchor and a repetition
  cannot be repeated.
-/
inductive ItemKind where
| anchor
| repetition
| plain
deriving DecidableEq, Repr

/- A part of a sequence and what it is for repetition. -/
structure Item where
  pattern : Pattern
  kind : ItemKind

/- An escape outside of sets. -/
def readEscape
    (modes : Modes)
    (c : Char) : Reading Item := do
  match anchorOf modes c, kindOf modes c, controlChar c with
  | some anchor, _, _ => return ⟨.anchor anchor, .anchor⟩
  | none, some item, _ =>
      return ⟨modes.set false [item], .plain⟩
  | none, none, some d => return ⟨modes.literal d, .plain⟩
  | none, none, none =>
      match ← readCode c with
      | some code =>
          return ⟨modes.set false [itemOfCode code], .plain⟩
      | none =>
          if c = '0' then
            let more ← takeWhile 2 isOctalDigit
            let code := valueIn 8 more
            return ⟨modes.set false [itemOfCode code], .plain⟩
          else if c.isDigit then
            return ⟨← readDecimalEscape modes c, .plain⟩
          else
            let code ← readPlainEscape c
            return ⟨modes.set false [itemOfCode code], .plain⟩

end Reading

end GradleMigration

------------------------------------------------------------
-- Bracketed Sets
------------------------------------------------------------

namespace GradleMigration

namespace Reading

/- A member that may start a range: the code it stands for. -/
def codeOfItem : SetItem → Option Nat
| .char c => some c.toNat
| .range first last =>
    if first = last then some first else none
| .kind _ _ _ => none

/- One member of a set, given its first token. -/
def readMember
    (modes : Modes) : Token → Reading SetItem
| .plain c => return .char c
| .escaped c => readSetEscape modes c

/-
  The members of a set that starts at offset `start`, up to
  the closing bracket.
-/
def readMembers
    (modes : Modes)
    (start : Nat) :
    (fuel : Nat) → List SetItem → Reading (List SetItem)
| 0, _ => refuseAt start .unterminatedSet
| fuel + 1, items => do
    match ← take with
    | none => refuseAt start .unterminatedSet
    | some token =>
        if token = .plain ']' && !items.isEmpty then
          return items.reverse
        let item ← readMember modes token
        if ← accept '-' then
          match ← take with
          | none => refuseAt start .unterminatedSet
          | some (.plain ']') =>
              return (.char '-' :: item :: items).reverse
          | some last =>
              let final ← readMember modes last
              let size := token.size + 1 + last.size
              let bad := PatternCause.badRange
                token.text last.text
              match codeOfItem item, codeOfItem final with
              | some lo, some hi =>
                  if hi < lo then
                    refuse size bad
                  readMembers modes start fuel
                    (.range lo hi :: items)
              | _, _ => refuse size bad
        else
          readMembers modes start fuel (item :: items)

/- A bracketed set whose opening bracket has been read. -/
def readSet
    (modes : Modes) : Reading Pattern := do
  let start := (← position) - 1
  let negated ← accept '^'
  let state ← get
  let items ←
    readMembers modes start (state.tokens.length + 1) []
  return modes.set negated items

end Reading

end GradleMigration

------------------------------------------------------------
-- Repetition
------------------------------------------------------------

namespace GradleMigration

namespace Reading

/- The repetition numbers beyond which none is allowed. -/
def maxRepeat : Nat :=
  4294967295

/- A repetition number given by digits. -/
def readBound
    (digits : List Char) : Reading Nat :=
  let n := valueIn 10 digits
  if Text.maxDigits < digits.length then
    throw (.tooManyDigits digits.length)
  else if n < maxRepeat then
    return n
  else
    throw .repetitionTooLarge

/-
  Bounds in braces whose opening brace has been read.  When
  they are not well formed the brace is an ordinary character
  and nothing else is consumed.
-/
def readBraces : Reading (Option Bounds) := do
  let start ← get
  if start.tokens.head? = some (.plain '\x7d') then
    return none
  let lo ← takeWhile start.tokens.length Char.isDigit
  let comma ← accept ','
  let state ← get
  let hi ←
    if comma then
      takeWhile state.tokens.length Char.isDigit
    else
      pure lo
  if ← accept '\x7d' then
    let least ← if lo.isEmpty then pure 0 else readBound lo
    if hi.isEmpty then
      return some ⟨least, none⟩
    let most ← readBound hi
    if most < least then
      refuseAt start.position .reversedBounds
    return some ⟨least, some most⟩
  else
    set start
    return none

/- The bounds that a repetition sign stands for. -/
def readBounds
    (sign : Char) : Reading (Option Bounds) :=
  match sign with
  | '?' => return some ⟨0, some 1⟩
  | '*' => return some ⟨0, none⟩
  | '+' => return some ⟨1, none⟩
  | _ => readBraces

/- The sign behind the bounds says how greedy they are. -/
def readGreed : Reading Greed := do
  if ← accept '?' then
    return .lazy
  else if ← accept '+' then
    return .possessive
  else
    return .greedy

/-
  Repeat the last of the items read so far.  The items are in
  reverse order, and `start` is where the sign stands.
-/
def repeatLast
    (start : Nat)
    (bounds : Bounds) :
    List Item → Reading (List Item)
| [] => refuseAt start .nothingToRepeat
| item :: items =>
    match item.kind with
    | .anchor => refuseAt start .nothingToRepeat
    | .repetition => refuseAt start .multipleRepeat
    | .plain => do
        let greed ← readGreed
        return ⟨.loop bounds greed item.pattern,
          .repetition⟩ :: items

end Reading

end GradleMigration

------------------------------------------------------------
-- Mode Switches
------------------------------------------------------------

namespace GradleMigration

namespace Reading

/- What a mode switch turns on and off, and where. -/
inductive Switch where
| global (on : Modes)
| scoped (on off : Modes)
deriving Repr

/- A token that ought to be a mode letter is none. -/
def refuseLetter
    {α : Type}
    (token : Token)
    (cause : PatternCause) : Reading α :=
  refuse token.size
    (if token.isPlainAnd Text.isLetter then
      .unknownFlag
    else
      cause)

/- The mode of a token, if it is a mode letter. -/
def modeOf : Token → Option Mode
| .plain c => Mode.ofLetter c
| .escaped _ => none

/-
  The modes switched on, from the mode `mode` just read up to
  the sign that ends them.
-/
def readOn :
    (fuel : Nat) → Mode → Modes → Reading (Modes × Char)
| 0, _, _ => refuse 0 .missingFlagEnd
| fuel + 1, mode, on => do
    if mode = .locale then
      refuse 0 .localeFlag
    let on := if on.contains mode then on else on ++ [mode]
    if mode.isAlphabet &&
        on.any (fun m => m.isAlphabet && m != mode) then
      refuse 0 .incompatibleFlags
    match ← take with
    | none => refuse 0 .missingFlagEnd
    | some (.plain ')') => return (on, ')')
    | some (.plain '-') => return (on, '-')
    | some (.plain ':') => return (on, ':')
    | some token =>
        match modeOf token with
        | some mode => readOn fuel mode on
        | none => refuseLetter token .missingFlagEnd

/-
  The modes switched off, from the mode `mode` just read up to
  the colon that ends them.
-/
def readOff :
    (fuel : Nat) → Mode → Modes → Reading Modes
| 0, _, _ => refuse 0 .missingColon
| fuel + 1, mode, off => do
    if mode.isAlphabet then
      refuse 0 .typeFlagOff
    let off := off ++ [mode]
    match ← take with
    | none => refuse 0 .missingColon
    | some (.plain ':') => return off
    | some token =>
        match modeOf token with
        | some mode => readOff fuel mode off
        | none => refuseLetter token .missingColon

/- The part of a switch that turns modes off. -/
def readOffPart
    (on : Modes) : Reading Switch := do
  let state ← get
  match ← take with
  | none => refuse 0 .missingFlag
  | some token =>
      match modeOf token with
      | none => refuseLetter token .missingFlag
      | some mode =>
          let off ←
            readOff (state.tokens.length + 1) mode []
          if off.contains .bare then
            refuse 1 .globalFlagOff
          if on.any off.contains then
            refuse 1 .flagOnAndOff
          return .scoped on off

/- A mode switch, from its first mode letter or its minus. -/
def readSwitch
    (first : Option Mode) : Reading Switch := do
  let state ← get
  match first with
  | none => readOffPart []
  | some mode =>
      let (on, sign) ←
        readOn (state.tokens.length + 1) mode []
      if sign = ')' then
        return .global on
      if on.contains .bare then
        refuse 1 .globalFlagOn
      if sign = '-' then
        readOffPart on
      else
        return .scoped on []

end Reading

end GradleMigration

------------------------------------------------------------
-- Parts, Sequences and Alternatives
------------------------------------------------------------

namespace GradleMigration

namespace Reading

/- The kinds of parentheses. -/
inductive Opening where
| capture (name : Option (List Char))
| plain
| atomic
| scope (on off : Modes)
| look (behind negated : Bool)
| condition
| reference (index : Nat)
| comment
| switch (on : Modes)

/- Step over a comment that started at offset `start`. -/
def skipComment
    (start : Nat) : Reading Unit := do
  let state ← get
  let taken := state.tokens.takeWhile (· != .plain ')')
  if taken.length < state.tokens.length then
    advanceBy (taken.length + 1)
  else
    advanceBy taken.length
    refuseAt start .unterminatedComment

/- The rest of an opening whose sign is the letter P. -/
def readNamedOpening : Reading Opening := do
  if ← accept '<' then
    let name ← takeName '>' "group name"
    checkName name
    return .capture (some name)
  else if ← accept '=' then
    let name ← takeName ')' "group name"
    checkName name
    let index ← groupNamed name
    if !isClosed (← get) index then
      refuse (name.length + 1) .openGroup
    checkLookbehind index
    return .reference index
  else
    match ← take with
    | none => refuse 0 .unexpectedEnd
    | some token =>
        refuse (token.size + 2)
          (.unknownExtension ("P" ++ token.text))

/- The rest of an opening whose sign is a less-than sign. -/
def readBehindOpening : Reading Opening := do
  match ← take with
  | none => refuse 0 .unexpectedEnd
  | some (.plain '=') => return .look true false
  | some (.plain '!') => return .look true true
  | some token =>
      refuse (token.size + 2)
        (.unknownExtension ("<" ++ token.text))

/-
  What kind of parenthesis has been opened at offset `start`;
  a comment has been read to its end.
-/
def readOpening
    (start : Nat) : Reading Opening := do
  if !(← accept '?') then
    return .capture none
  match ← take with
  | none => refuse 0 .unexpectedEnd
  | some (.plain 'P') => readNamedOpening
  | some (.plain ':') => return .plain
  | some (.plain '#') =>
      skipComment start
      return .comment
  | some (.plain '=') => return .look false false
  | some (.plain '!') => return .look false true
  | some (.plain '<') => readBehindOpening
  | some (.plain '(') => return .condition
  | some (.plain '>') => return .atomic
  | some token =>
      if token = .plain '-' || (modeOf token).isSome then
        match ← readSwitch (modeOf token) with
        | .global on => return .switch on
        | .scoped on off => return .scope on off
      else
        refuse (token.size + 1)
          (.unknownExtension token.text)

/- The parenthesis opened at offset `start` is closed here. -/
def readClosing
    (start : Nat) : Reading Unit := do
  if !(← accept ')') then
    refuseAt start .unterminatedGroup

/- Step over the rest of a line comment. -/
def skipLine : Reading Unit := do
  let state ← get
  let taken := state.tokens.takeWhile (· != .plain '\n')
  advanceBy (taken.length + 1)

/- The characters that repeat the part before them. -/
def isRepeatSign
    (c : Char) : Bool :=
  c = '*' || c = '+' || c = '?' || c = '\x7b'

/-
  Run a reading inside a look-behind: from here on only the
  groups known now may be referred to.
-/
def insideLookbehind
    {α : Type}
    (behind : Bool)
    (reading : Reading α) : Reading α := do
  let before := (← get).outsideLookbehind
  if behind && before.isNone then
    modify fun state =>
      { state with outsideLookbehind := some state.groups }
    let result ← reading
    modify fun state =>
      { state with outsideLookbehind := none }
    return result
  else
    reading

mutual

/-
  Alternatives separated by bars, up to a closing parenthesis
  or the end.  At the top of a pattern the modes switched by
  its start hold for all alternatives.
-/
def readAlternatives
    (top : Bool)
    (modes : Modes) :
    (fuel : Nat) →
    (done : List Pattern) →
    Reading (Pattern × Modes)
| 0, _ => refuse 0 .tooDeep
| fuel + 1, done => do
    let (pattern, modes') ←
      readItems (top && done.isEmpty) modes fuel []
    let modes := if top then modes' else modes
    if ← accept '|' then
      readAlternatives top modes fuel (pattern :: done)
    else
      return (.choice (pattern :: done).reverse, modes)

/-
  Parts one after another, up to a bar, a closing parenthesis
  or the end.  The parts read so far are in reverse order.
  The result has the modes in force at the end.
-/
def readItems
    (first : Bool)
    (modes : Modes) :
    (fuel : Nat) →
    (items : List Item) →
    Reading (Pattern × Modes)
| 0, _ => refuse 0 .tooDeep
| fuel + 1, items => do
    let finished := Pattern.sequence
      (items.reverse.map (·.pattern))
    match ← next with
    | none => return (finished, modes)
    | some (.plain '|') => return (finished, modes)
    | some (.plain ')') => return (finished, modes)
    | some (.escaped c) =>
        advance
        let item ← readEscape modes c
        readItems first modes fuel (item :: items)
    | some (.plain c) =>
        let start ← position
        advance
        if modes.contains .verbose && Text.isAsciiBlank c then
          readItems first modes fuel items
        else if modes.contains .verbose && c = '#' then
          skipLine
          readItems first modes fuel items
        else if c = '[' then
          let set ← readSet modes
          readItems first modes fuel (⟨set, .plain⟩ :: items)
        else if isRepeatSign c then
          match ← readBounds c with
          | some bounds =>
              let items ← repeatLast start bounds items
              readItems first modes fuel items
          | none =>
              readItems first modes fuel
                (⟨modes.literal c, .plain⟩ :: items)
        else if c = '.' then
          readItems first modes fuel
            (⟨modes.anyChar, .plain⟩ :: items)
        else if c = '^' then
          readItems first modes fuel
            (⟨.anchor modes.lineStart, .anchor⟩ :: items)
        else if c = '$' then
          readItems first modes fuel
            (⟨.anchor modes.lineEnd, .anchor⟩ :: items)
        else if c = '(' then
          match ← readOpening start with
          | .comment => readItems first modes fuel items
          | .switch on =>
              if !first || !items.isEmpty then
                refuseAt start .lateFlags
              readItems first (modes ++ on) fuel items
          | .reference index =>
              let reference :=
                Pattern.backref index modes.folding
              readItems first modes fuel
                (⟨reference, .plain⟩ :: items)
          | opening =>
              let pattern ←
                readGroup modes start opening fuel
              readItems first modes fuel
                (⟨pattern, .plain⟩ :: items)
        else
          readItems first modes fuel
            (⟨modes.literal c, .plain⟩ :: items)

/- The inside of a parenthesis, and its end. -/
def readGroup
    (modes : Modes)
    (start : Nat)
    (opening : Opening) :
    (fuel : Nat) → Reading Pattern
| 0 => refuse 0 .tooDeep
| fuel + 1 => do
    match opening with
    | .capture name =>
        let index ← openGroup name
        let (body, _) ← readAlternatives false modes fuel []
        readClosing start
        closeGroup index body
        return .group index body
    | .atomic =>
        let (body, _) ← readAlternatives false modes fuel []
        readClosing start
        return .atomic body
    | .scope on off =>
        let inner := modes.combine on off
        let (body, _) ← readAlternatives false inner fuel []
        readClosing start
        return body
    | .look behind negated =>
        let (body, _) ← insideLookbehind behind
          (readAlternatives false modes fuel [])
        readClosing start
        if behind then
          return .behind negated (← widthOf body) body
        else
          return .ahead negated body
    | .condition =>
        let index ← readCondition
        checkLookbehind index
        let (present, _) ← readItems false modes fuel []
        let absent ←
          if ← accept '|' then
            let (absent, _) ← readItems false modes fuel []
            if (← next) = some (.plain '|') then
              refuse 0 .tooManyBranches
            pure absent
          else
            pure .empty
        readClosing start
        return .ifGroup index present absent
    | _ =>
        let (body, _) ← readAlternatives false modes fuel []
        readClosing start
        return body

end

end Reading

end GradleMigration

------------------------------------------------------------
-- Whole Patterns
------------------------------------------------------------

namespace GradleMigration

/- The name of a repetition operator. -/
def Greed.operatorName : Greed → String
| .greedy => "MAX_REPEAT"
| .lazy => "MIN_REPEAT"
| .possessive => "POSSESSIVE_REPEAT"

/-
  The first fault of a pattern that reads well: a look-behind
  of variable or excessive width, or a repetition in a bare
  pattern.
-/
def Pattern.fault
    (bare : Bool) : Pattern → Option PatternCause
| .seq p q => (p.fault bare).or (q.fault bare)
| .alt p q => (p.fault bare).or (q.fault bare)
| .group _ p => p.fault bare
| .loop _ greed p =>
    if bare then
      some (.bareRepeat greed.operatorName)
    else
      p.fault bare
| .atomic p => p.fault bare
| .ahead _ p => p.fault bare
| .behind _ width p =>
    if Reading.maxRepeat < width.least then
      some .distantLookbehind
    else if !width.isFixed then
      some .variableLookbehind
    else
      p.fault bare
| .ifGroup _ p q => (p.fault bare).or (q.fault bare)
| _ => none

/- A pattern together with its text and its groups. -/
structure Regex where
  source : String
  pattern : Pattern
  groupCount : Nat
  groupNames : List (String × Nat)
deriving Repr

namespace Regex

/-
  Read a whole pattern: a parenthesis left over, a reference
  to a group that never comes and the faults of the finished
  pattern are refused in this order.
-/
def readWhole
    (size : Nat) : Reading (Pattern × Modes) := do
  let (pattern, modes) ←
    Reading.readAlternatives true [] (4 * size + 4) []
  if modes.contains .ascii && modes.contains .unicode then
    throw .twoAlphabets
  if (← Reading.next).isSome then
    Reading.refuse 0 .unbalancedParenthesis
  let state ← get
  match state.references.find? (state.groups ≤ ·.1) with
  | some (index, position) =>
      Reading.refuseAt position (.unknownGroup index)
  | none => return (pattern, modes)

/- The pattern that a text spells. -/
def compile
    (source : String) : Except PatternFault Regex :=
  let text := source.toList
  match Reading.run text (readWhole text.length) with
  | .error fault => .error fault
  | .ok ((pattern, modes), state) =>
      match pattern.fault (modes.contains .bare) with
      | some cause => .error (.refused cause none text)
      | none =>
          .ok
            { source := source
              pattern := pattern
              groupCount := state.groups - 1
              groupNames := state.names }

end Regex

end GradleMigration
