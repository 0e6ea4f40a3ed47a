/-
  UTF-8: texts as bytes and back.

  Key definitions include:
    * `Utf8.encode`
    * `Utf8.decode`
    * `Utf8.Fault`
    * `Utf8.Fault.message`

  A byte sequence that is not UTF-8 is refused at its first
  faulty byte, with the span of bytes at fault and the reason.
-/

------------------------------------------------------------
-- Encoding
------------------------------------------------------------

namespace GradleMigration

namespace Utf8

/- The bytes of one character. -/
def encodeChar
    (c : Char) : List UInt8 :=
  let n := c.toNat
  if n < 0x80 then
    [UInt8.ofNat n]
  else if n < 0x800 then
    [ UInt8.ofNat (0xC0 + n / 0x40),
      UInt8.ofNat (0x80 + n % 0x40) ]
  else if n < 0x10000 then
    [ UInt8.ofNat (0xE0 + n / 0x1000),
      UInt8.ofNat (0x80 + n / 0x40 % 0x40),
      UInt8.ofNat (0x80 + n % 0x40) ]
  else
    [ UInt8.ofNat (0xF0 + n / 0x40000),
      UInt8.ofNat (0x80 + n / 0x1000 % 0x40),
      UInt8.ofNat (0x80 + n / 0x40 % 0x40),
      UInt8.ofNat (0x80 + n % 0x40) ]

/- The bytes of a text. -/
def encode
    (text : List Char) : List UInt8 :=
  text.flatMap encodeChar

end Utf8

end GradleMigration

------------------------------------------------------------
-- Faults
------------------------------------------------------------

namespace GradleMigration

namespace Utf8

/- Why a byte cannot be read. -/
inductive Reason where
| invalidStart
| invalidContinuation
| unexpectedEnd
deriving DecidableEq, Repr

/- The wording of a reason. -/
def Reason.message : Reason → String
| .invalidStart => "invalid start byte"
| .invalidContinuation => "invalid continuation byte"
| .unexpectedEnd => "unexpected end of data"

/-
  The bytes at fault: their first value, their offset, how
  many they are, and the reason.
-/
structure Fault where
  byte : UInt8
  position : Nat
  count : Nat
  reason : Reason
deriving DecidableEq, Repr

/- A byte as two lower-case hexadecimal digits. -/
def hexByte
    (b : UInt8) : String :=
  String.ofList
    [ Nat.digitChar (b.toNat / 16),
      Nat.digitChar (b.toNat % 16) ]

/- The wording of a fault. -/
def Fault.message
    (fault : Fault) : String :=
  let subject :=
    if fault.count = 1 then
      s!"byte 0x{hexByte fault.byte} in position " ++
        s!"{fault.position}"
    else
      s!"bytes in position {fault.position}-" ++
        s!"{fault.position + fault.count - 1}"
  s!"'utf-8' codec can't decode {subject}: " ++
    s!"{fault.reason.message}"

end Utf8

end GradleMigration

------------------------------------------------------------
-- Decoding
------------------------------------------------------------

namespace GradleMigration

namespace Utf8

/- Whether a byte continues a character. -/
def isContinuation
    (b : UInt8) : Bool :=
  0x80 ≤ b.toNat && b.toNat < 0xC0

/-
  Whether `b` may follow the first byte `first`: the shortest
  form is required, and neither surrogates nor codes above
  U+10FFFF are characters.
-/
def isSecond
    (first b : UInt8) : Bool :=
  isContinuation b &&
    (first.toNat != 0xE0 || 0xA0 ≤ b.toNat) &&
    (first.toNat != 0xED || b.toNat < 0xA0) &&
    (first.toNat != 0xF0 || 0x90 ≤ b.toNat) &&
    (first.toNat != 0xF4 || b.toNat < 0x90)

/- The number of bytes that the first byte announces. -/
def announced
    (first : UInt8) : Option Nat :=
  let n := first.toNat
  if n < 0x80 then some 1
  else if n < 0xC2 then none
  else if n < 0xE0 then some 2
  else if n < 0xF0 then some 3
  else if n < 0xF5 then some 4
  else none

/- The payload of a continuation byte. -/
def payload
    (b : UInt8) : Nat :=
  b.toNat - 0x80

/-
  The character at the front of a byte sequence and the number
  of its bytes, or the number of bytes at fault and why.
-/
def decodeChar
    (first : UInt8)
    (rest : List UInt8) :
    Except (Nat × Reason) (Char × Nat) :=
  match announced first with
  | none => .error (1, .invalidStart)
  | some 1 => .ok (Char.ofNat first.toNat, 1)
  | some size =>
      match rest with
      | [] => .error (1, .unexpectedEnd)
      | b :: rest =>
          if !isSecond first b then
            .error (1, .invalidContinuation)
          else if size = 2 then
            .ok (Char.ofNat
              ((first.toNat - 0xC0) * 0x40 + payload b), 2)
          else
            match rest with
            | [] => .error (2, .unexpectedEnd)
            | c :: rest =>
                if !isContinuation c then
                  .error (2, .invalidContinuation)
                else if size = 3 then
                  .ok (Char.ofNat
                    ((first.toNat - 0xE0) * 0x1000 +
                      payload b * 0x40 + payload c), 3)
                else
                  match rest with
                  | [] => .error (3, .unexpectedEnd)
                  | d :: _ =>
                      if !isContinuation d then
                        .error (3, .invalidContinuation)
                      else
                        .ok (Char.ofNat
                          ((first.toNat - 0xF0) * 0x40000 +
                            payload b * 0x1000 +
                            payload c * 0x40 +
                            payload d), 4)

/-
  Decode from the byte at offset `position`; the first `skip`
  bytes belong to a character already read.
-/
def decodeFrom
    (position : Nat) :
    (skip : Nat) → List UInt8 → Except Fault (List Char)
| _, [] => .ok []
| skip + 1, _ :: rest => decodeFrom (position + 1) skip rest
| 0, b :: rest =>
    match decodeChar b rest with
    | .error (count, reason) =>
        .error ⟨b, position, count, reason⟩
    | .ok (c, size) =>
        match decodeFrom (position + 1) (size - 1) rest with
        | .error fault => .error fault
        | .ok text => .ok (c :: text)

/- The text that a byte sequence encodes. -/
def decode
    (bytes : List UInt8) : Except Fault (List Char) :=
  decodeFrom 0 0 bytes

end Utf8

end GradleMigration
