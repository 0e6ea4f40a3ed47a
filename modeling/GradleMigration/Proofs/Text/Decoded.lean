import GradleMigration.Proofs.Text.Utf8

/-
  The characters of a string, decoded from its bytes.

  A string is an array of bytes.  Where a check is evaluated,
  `String.toList` looks up each character from the first byte
  on, so a text costs the square of its length; decoding walks
  over the bytes once.

  Main declarations:
    * `Text.decoded`
    * `Text.toList_eq_decoded`
-/

------------------------------------------------------------
-- Bytes of Strings
------------------------------------------------------------

namespace GradleMigration

/- The library encodes a character like `Utf8`. -/
theorem Utf8.utf8EncodeChar_eq
    (c : Char) :
    String.utf8EncodeChar c = encodeChar c := by
  have hRange := code_cases c
  unfold String.utf8EncodeChar encodeChar
  unfold Char.toNat at hRange ⊢
  simp only [Nat.le_iff_lt_add_one]
  split
  · rfl
  · split
    · rw [List.cons.injEq, List.cons.injEq]
      exact ⟨congrArg _ (by omega), congrArg _ (by omega), rfl⟩
    · split
      · rw [List.cons.injEq, List.cons.injEq, List.cons.injEq]
        exact ⟨congrArg _ (by omega), congrArg _ (by omega),
          congrArg _ (by omega), rfl⟩
      · rw [List.cons.injEq, List.cons.injEq, List.cons.injEq,
          List.cons.injEq]
        exact ⟨congrArg _ (by omega), congrArg _ (by omega),
          congrArg _ (by omega), congrArg _ (by omega), rfl⟩

namespace Text

/- The bytes of a string are those of its characters. -/
theorem bytes_eq_encode
    (text : String) :
    text.toByteArray.data.toList =
      Utf8.encode text.toList := by
  rw [← String.utf8Encode_toList, List.utf8Encode,
    List.toList_data_toByteArray, Utf8.encode,
    funext Utf8.utf8EncodeChar_eq]

/- The characters of a string, decoded from its bytes. -/
def decoded
    (text : String) : List Char :=
  match Utf8.decode text.toByteArray.data.toList with
  | .ok characters => characters
  | .error _ => []

/- Decoding gives the characters of a string. -/
theorem toList_eq_decoded
    (text : String) :
    text.toList = decoded text := by
  unfold decoded
  rw [bytes_eq_encode, Utf8.decode_encode]

end Text

end GradleMigration
