import GradleMigration.Text.Utf8

/-
  Texts survive their way through bytes, and only the bytes of
  a text are read as one.

  Main declarations:
    * `Utf8.decodeChar_encodeChar`
    * `Utf8.encodeChar_of_decodeChar`
    * `Utf8.decode_encode`
    * `Utf8.decode_eq_ok_iff`
-/

------------------------------------------------------------
-- Single Characters
------------------------------------------------------------

namespace GradleMigration

namespace Utf8

/- The value of a byte that is made from a small number. -/
theorem toNat_ofNat
    {n : Nat}
    (h : n < 256) :
    (UInt8.ofNat n).toNat = n := by
  rw [UInt8.toNat_ofNat']
  exact Nat.mod_eq_of_lt h

/- The codes that characters have leave out the surrogates. -/
theorem code_cases
    (c : Char) :
    c.toNat < 0xD800 ∨
      (0xDFFF < c.toNat ∧ c.toNat < 0x110000) := by
  exact c.valid

/- What the first byte of a longer character announces. -/
theorem announced_of_range
    {b : UInt8}
    {size : Nat}
    (h :
      (size = 2 ∧ 0xC2 ≤ b.toNat ∧ b.toNat < 0xE0) ∨
        (size = 3 ∧ 0xE0 ≤ b.toNat ∧ b.toNat < 0xF0) ∨
        (size = 4 ∧ 0xF0 ≤ b.toNat ∧ b.toNat < 0xF5)) :
    announced b = some size := by
  unfold announced
  simp only
  rcases h with ⟨rfl, _, _⟩ | ⟨rfl, _, _⟩ | ⟨rfl, _, _⟩
  · rw [if_neg (by omega), if_neg (by omega),
      if_pos (by omega)]
  · rw [if_neg (by omega), if_neg (by omega),
      if_neg (by omega), if_pos (by omega)]
  · rw [if_neg (by omega), if_neg (by omega),
      if_neg (by omega), if_neg (by omega),
      if_pos (by omega)]

/- The bytes that continue a character. -/
theorem isContinuation_of_range
    {b : UInt8}
    (h : 0x80 ≤ b.toNat ∧ b.toNat < 0xC0) :
    isContinuation b = true := by
  unfold isContinuation
  simp only [Bool.and_eq_true, decide_eq_true_eq]
  exact h

/- The second bytes that go with a first one. -/
theorem isSecond_of_range
    {first b : UInt8}
    (h : 0x80 ≤ b.toNat ∧ b.toNat < 0xC0)
    (hE0 : first.toNat = 0xE0 → 0xA0 ≤ b.toNat)
    (hED : first.toNat = 0xED → b.toNat < 0xA0)
    (hF0 : first.toNat = 0xF0 → 0x90 ≤ b.toNat)
    (hF4 : first.toNat = 0xF4 → b.toNat < 0x90) :
    isSecond first b = true := by
  unfold isSecond
  simp only [isContinuation_of_range h, Bool.true_and,
    Bool.and_eq_true, Bool.or_eq_true, bne_iff_ne,
    decide_eq_true_eq]
  omega

variable {first b c d : UInt8}

/- Two bytes that are read as a character. -/
theorem decodeChar_two
    (hFirst : 0xC2 ≤ first.toNat ∧ first.toNat < 0xE0)
    (hB : 0x80 ≤ b.toNat ∧ b.toNat < 0xC0)
    (tail : List UInt8) :
    decodeChar first (b :: tail) =
      .ok (Char.ofNat
        ((first.toNat - 0xC0) * 0x40 + payload b), 2) := by
  have hSize : announced first = some 2 :=
    announced_of_range (by omega)
  have hSecond : isSecond first b = true :=
    isSecond_of_range hB (by omega) (by omega) (by omega)
      (by omega)
  simp [decodeChar, hSize, hSecond]

/- Three bytes that are read as a character. -/
theorem decodeChar_three
    (hFirst : 0xE0 ≤ first.toNat ∧ first.toNat < 0xF0)
    (hB : 0x80 ≤ b.toNat ∧ b.toNat < 0xC0)
    (hE0 : first.toNat = 0xE0 → 0xA0 ≤ b.toNat)
    (hED : first.toNat = 0xED → b.toNat < 0xA0)
    (hC : 0x80 ≤ c.toNat ∧ c.toNat < 0xC0)
    (tail : List UInt8) :
    decodeChar first (b :: c :: tail) =
      .ok (Char.ofNat
        ((first.toNat - 0xE0) * 0x1000 +
          payload b * 0x40 + payload c), 3) := by
  have hSize : announced first = some 3 :=
    announced_of_range (by omega)
  have hSecond : isSecond first b = true :=
    isSecond_of_range hB hE0 hED (by omega) (by omega)
  simp [decodeChar, hSize, hSecond, isContinuation_of_range hC]

/- Four bytes that are read as a character. -/
theorem decodeChar_four
    (hFirst : 0xF0 ≤ first.toNat ∧ first.toNat < 0xF5)
    (hB : 0x80 ≤ b.toNat ∧ b.toNat < 0xC0)
    (hF0 : first.toNat = 0xF0 → 0x90 ≤ b.toNat)
    (hF4 : first.toNat = 0xF4 → b.toNat < 0x90)
    (hC : 0x80 ≤ c.toNat ∧ c.toNat < 0xC0)
    (hD : 0x80 ≤ d.toNat ∧ d.toNat < 0xC0)
    (tail : List UInt8) :
    decodeChar first (b :: c :: d :: tail) =
      .ok (Char.ofNat
        ((first.toNat - 0xF0) * 0x40000 +
          payload b * 0x1000 + payload c * 0x40 +
          payload d), 4) := by
  have hSize : announced first = some 4 :=
    announced_of_range (by omega)
  have hSecond : isSecond first b = true :=
    isSecond_of_range hB (by omega) (by omega) hF0 hF4
  simp [decodeChar, hSize, hSecond, isContinuation_of_range hC,
    isContinuation_of_range hD]

/-
  The bytes of a character are read back as the character,
  whatever bytes follow them.  The cases are the four lengths.
-/
theorem decodeChar_encodeChar
    (c : Char)
    (tail : List UInt8) :
    ∃ first rest, encodeChar c = first :: rest ∧
      decodeChar first (rest ++ tail) =
        .ok (c, rest.length + 1) := by
  have hCode := code_cases c
  have hBack : Char.ofNat c.toNat = c := Char.ofNat_toNat c
  unfold encodeChar
  simp only
  generalize c.toNat = n at *
  have hLast : (UInt8.ofNat (0x80 + n % 0x40)).toNat =
      0x80 + n % 0x40 := toNat_ofNat (by omega)
  have hThird : (UInt8.ofNat (0x80 + n / 0x40 % 0x40)).toNat =
      0x80 + n / 0x40 % 0x40 := toNat_ofNat (by omega)
  have hSecond :
      (UInt8.ofNat (0x80 + n / 0x1000 % 0x40)).toNat =
        0x80 + n / 0x1000 % 0x40 := toNat_ofNat (by omega)
  have hOk : ∀ m, m = n → Char.ofNat m = c := by
    intro m hM
    rw [hM, hBack]
  split
  · next hOne =>
      have hFirst : (UInt8.ofNat n).toNat = n :=
        toNat_ofNat (by omega)
      refine ⟨UInt8.ofNat n, [], rfl, ?_⟩
      simp [decodeChar, announced, hFirst, hOne, hBack]
  · split
    · next hTwo =>
        have hFirst : (UInt8.ofNat (0xC0 + n / 0x40)).toNat =
            0xC0 + n / 0x40 := toNat_ofNat (by omega)
        refine ⟨_, [_], rfl,
          (decodeChar_two (by omega) (by omega) tail).trans ?_⟩
        rw [hOk _ (by unfold payload; omega)]
        rfl
    · split
      · next hThree =>
          have hFirst :
              (UInt8.ofNat (0xE0 + n / 0x1000)).toNat =
                0xE0 + n / 0x1000 := toNat_ofNat (by omega)
          refine ⟨_, [_, _], rfl,
            (decodeChar_three (by omega) (by omega) (by omega)
              (by omega) (by omega) tail).trans ?_⟩
          rw [hOk _ (by unfold payload; omega)]
          rfl
      · next hFour =>
          have hFirst :
              (UInt8.ofNat (0xF0 + n / 0x40000)).toNat =
                0xF0 + n / 0x40000 := toNat_ofNat (by omega)
          refine ⟨_, [_, _, _], rfl,
            (decodeChar_four (by omega) (by omega) (by omega)
              (by omega) (by omega) (by omega) tail).trans ?_⟩
          rw [hOk _ (by unfold payload; omega)]
          rfl

/- A code that a character can have is the code of one. -/
theorem toNat_charOfNat
    {n : Nat}
    (h : n < 0xD800 ∨ (0xDFFF < n ∧ n < 0x110000)) :
    (Char.ofNat n).toNat = n := by
  have hValid : n.isValidChar := h
  unfold Char.ofNat
  rw [dif_pos hValid]
  rfl

/- A byte is made from its value. -/
theorem ofNat_eq
    {n : Nat}
    (b : UInt8)
    (h : n = b.toNat) :
    UInt8.ofNat n = b := by
  rw [h]
  exact UInt8.ofNat_toNat

/- The second bytes that are accepted after a first one. -/
theorem range_of_isSecond
    {first b : UInt8}
    (h : isSecond first b = true) :
    (0x80 ≤ b.toNat ∧ b.toNat < 0xC0) ∧
      (first.toNat = 0xE0 → 0xA0 ≤ b.toNat) ∧
      (first.toNat = 0xED → b.toNat < 0xA0) ∧
      (first.toNat = 0xF0 → 0x90 ≤ b.toNat) ∧
      (first.toNat = 0xF4 → b.toNat < 0x90) := by
  unfold isSecond isContinuation at h
  simp only [Bool.and_eq_true, Bool.or_eq_true, bne_iff_ne,
    decide_eq_true_eq] at h
  omega

/- The first bytes of characters of each length. -/
theorem range_of_announced
    {b : UInt8}
    {size : Nat}
    (h : announced b = some size) :
    (size = 1 ∧ b.toNat < 0x80) ∨
      (size = 2 ∧ 0xC2 ≤ b.toNat ∧ b.toNat < 0xE0) ∨
      (size = 3 ∧ 0xE0 ≤ b.toNat ∧ b.toNat < 0xF0) ∨
      (size = 4 ∧ 0xF0 ≤ b.toNat ∧ b.toNat < 0xF5) := by
  unfold announced at h
  simp only at h
  repeat' split at h
  all_goals
    first
    | cases h; omega
    | cases h

section

variable {first b d e : UInt8}

theorem encodeChar_two
    (hFirst : 0xC2 ≤ first.toNat ∧ first.toNat < 0xE0)
    (hB : 0x80 ≤ b.toNat ∧ b.toNat < 0xC0) :
    encodeChar (Char.ofNat
      ((first.toNat - 0xC0) * 0x40 + payload b)) =
        [first, b] := by
  unfold encodeChar payload
  simp only
  rw [toNat_charOfNat (by omega), if_neg (by omega),
    if_pos (by omega), ofNat_eq first (by omega),
    ofNat_eq b (by omega)]

theorem encodeChar_three
    (hFirst : 0xE0 ≤ first.toNat ∧ first.toNat < 0xF0)
    (hB : 0x80 ≤ b.toNat ∧ b.toNat < 0xC0)
    (hE0 : first.toNat = 0xE0 → 0xA0 ≤ b.toNat)
    (hED : first.toNat = 0xED → b.toNat < 0xA0)
    (hD : 0x80 ≤ d.toNat ∧ d.toNat < 0xC0) :
    encodeChar (Char.ofNat
      ((first.toNat - 0xE0) * 0x1000 + payload b * 0x40 +
        payload d)) =
        [first, b, d] := by
  unfold encodeChar payload
  simp only
  rw [toNat_charOfNat (by omega), if_neg (by omega),
    if_neg (by omega), if_pos (by omega),
    ofNat_eq first (by omega), ofNat_eq b (by omega),
    ofNat_eq d (by omega)]

theorem encodeChar_four
    (hFirst : 0xF0 ≤ first.toNat ∧ first.toNat < 0xF5)
    (hB : 0x80 ≤ b.toNat ∧ b.toNat < 0xC0)
    (hF0 : first.toNat = 0xF0 → 0x90 ≤ b.toNat)
    (hF4 : first.toNat = 0xF4 → b.toNat < 0x90)
    (hD : 0x80 ≤ d.toNat ∧ d.toNat < 0xC0)
    (hE : 0x80 ≤ e.toNat ∧ e.toNat < 0xC0) :
    encodeChar (Char.ofNat
      ((first.toNat - 0xF0) * 0x40000 + payload b * 0x1000 +
        payload d * 0x40 + payload e)) =
        [first, b, d, e] := by
  unfold encodeChar payload
  simp only
  rw [toNat_charOfNat (by omega), if_neg (by omega),
    if_neg (by omega), if_neg (by omega),
    ofNat_eq first (by omega), ofNat_eq b (by omega),
    ofNat_eq d (by omega), ofNat_eq e (by omega)]

end

/-
  What is read as a character are the bytes of the character.
  The cases are the four lengths.
-/
theorem encodeChar_of_decodeChar
    {first : UInt8}
    {rest : List UInt8}
    {c : Char}
    {size : Nat}
    (h : decodeChar first rest = .ok (c, size)) :
    ∃ passed tail, rest = passed ++ tail ∧
      size = passed.length + 1 ∧
      encodeChar c = first :: passed := by
  unfold decodeChar at h
  split at h
  · cases h
  · next hOne =>
      have hFirst := range_of_announced hOne
      rw [Except.ok.injEq, Prod.mk.injEq] at h
      refine ⟨[], rest, rfl, h.2.symm, ?_⟩
      rw [← h.1]
      unfold encodeChar
      simp only
      rw [toNat_charOfNat (by omega), if_pos (by omega),
        ofNat_eq first rfl]
  · next length hLonger hSize =>
      have hFirst := range_of_announced hSize
      have hNotOne : length ≠ 1 := hLonger
      split at h
      · cases h
      · next b more =>
          split at h
          · cases h
          · next hSecond =>
              rcases range_of_isSecond (by simpa using hSecond)
                with ⟨hB, hE0, hED, hF0, hF4⟩
              split at h
              · rw [Except.ok.injEq, Prod.mk.injEq] at h
                refine ⟨[b], more, rfl, h.2.symm, ?_⟩
                rw [← h.1, encodeChar_two (by omega) hB]
              · split at h
                · cases h
                · next d more =>
                    split at h
                    · cases h
                    · next hThird =>
                        have hD :
                            0x80 ≤ d.toNat ∧ d.toNat < 0xC0 := by
                          simpa [isContinuation] using hThird
                        split at h
                        · rw [Except.ok.injEq,
                            Prod.mk.injEq] at h
                          refine ⟨[b, d], more, rfl,
                            h.2.symm, ?_⟩
                          rw [← h.1, encodeChar_three (by omega)
                            hB hE0 hED hD]
                        · split at h
                          · cases h
                          · next e more =>
                              split at h
                              · cases h
                              · next hFourth =>
                                  have hE : 0x80 ≤ e.toNat ∧
                                      e.toNat < 0xC0 := by
                                    simpa [isContinuation]
                                      using hFourth
                                  rw [Except.ok.injEq,
                                    Prod.mk.injEq] at h
                                  refine ⟨[b, d, e], more, rfl,
                                    h.2.symm, ?_⟩
                                  rw [← h.1, encodeChar_four
                                    (by omega) hB hF0 hF4 hD hE]

end Utf8

end GradleMigration

------------------------------------------------------------
-- Texts
------------------------------------------------------------

namespace GradleMigration

namespace Utf8

/- Bytes that belong to a character are passed over. -/
theorem decodeFrom_skip
    (position : Nat)
    (passed tail : List UInt8) :
    decodeFrom position passed.length (passed ++ tail) =
      decodeFrom (position + passed.length) 0 tail := by
  induction passed generalizing position with
  | nil => rfl
  | cons b rest ih =>
      rw [List.cons_append, List.length_cons, decodeFrom, ih]
      congr 1
      omega

/- Every character takes a byte. -/
theorem encodeChar_ne_nil
    (c : Char) :
    encodeChar c ≠ [] := by
  unfold encodeChar
  simp only
  split
  · exact List.cons_ne_nil _ _
  · split
    · exact List.cons_ne_nil _ _
    · split
      · exact List.cons_ne_nil _ _
      · exact List.cons_ne_nil _ _

theorem length_le_encode
    (text : List Char) :
    text.length ≤ (encode text).length := by
  induction text with
  | nil => exact Nat.zero_le _
  | cons c rest ih =>
      have hByte :=
        List.length_pos_iff.mpr (encodeChar_ne_nil c)
      unfold encode at ih ⊢
      rw [List.flatMap_cons, List.length_append,
        List.length_cons]
      omega

/- A text is read back from any offset. -/
theorem decodeFrom_encode
    (position : Nat)
    (text : List Char) :
    decodeFrom position 0 (encode text) = .ok text := by
  induction text generalizing position with
  | nil => rfl
  | cons c rest ih =>
      rcases decodeChar_encodeChar c (encode rest) with
        ⟨first, more, hBytes, hChar⟩
      have hEncode :
          encode (c :: rest) =
            first :: (more ++ encode rest) := by
        unfold encode
        rw [List.flatMap_cons, hBytes]
        rfl
      rw [hEncode, decodeFrom, hChar]
      simp only [Nat.add_sub_cancel, decodeFrom_skip, ih]

/- The bytes of a text are read back as the text. -/
theorem decode_encode
    (text : List Char) :
    decode (encode text) = .ok text :=
  decodeFrom_encode 0 text

/- What is read as a text are the bytes of the text. -/
theorem eq_encode_of_decodeFrom
    {position : Nat}
    {bytes : List UInt8}
    {text : List Char}
    (h : decodeFrom position 0 bytes = .ok text) :
    bytes = encode text := by
  induction text generalizing position bytes with
  | nil =>
      cases bytes with
      | nil => rfl
      | cons b rest =>
          unfold decodeFrom at h
          split at h
          · cases h
          · split at h
            · cases h
            · cases h
  | cons c text ih =>
      cases bytes with
      | nil => cases h
      | cons b rest =>
          unfold decodeFrom at h
          split at h
          · cases h
          · next d size hChar =>
              split at h
              · cases h
              · next later hLater =>
                  cases h
                  rcases encodeChar_of_decodeChar hChar with
                    ⟨passed, tail, hRest, hSize, hBytes⟩
                  rw [hRest, hSize, Nat.add_sub_cancel,
                    decodeFrom_skip] at hLater
                  rw [hRest, encode, List.flatMap_cons, hBytes,
                    ih hLater]
                  rfl

/- Exactly the bytes of a text are read as the text. -/
theorem decode_eq_ok_iff
    {bytes : List UInt8}
    {text : List Char} :
    decode bytes = .ok text ↔ bytes = encode text := by
  constructor
  · exact eq_encode_of_decodeFrom
  · intro h
    rw [h, decode_encode]

end Utf8

end GradleMigration
