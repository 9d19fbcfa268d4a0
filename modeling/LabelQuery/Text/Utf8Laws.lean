import LabelQuery.Text.Utf8
/-!
# Decoding what was encoded

Lossy UTF-8 decoding reads the encoding of every text back unchanged: the bytes of each
character are a lead byte that announces the number of continuation bytes, and continuation
bytes in the range the lead byte allows, so no replacement character is ever produced.

The proof reads one character at a time, whatever bytes follow it
(`decodeLossy_utf8EncodeChar_append`). The lead byte is first put in arithmetic form
(`leadByte_eq`); a lead byte followed by the continuation bytes it announces is read as the code
point they spell, one lemma per length; and the code point spelled by the encoding of a
character is the character's own. Only the bytes of three- and four-byte characters need a case
split, since their lead byte narrows the range of the byte after it (`leadByte_of_three`,
`leadByte_of_four`); there the character being a Unicode scalar value (no surrogate, nothing
above U+10FFFF) is what keeps the bytes in range.

## Main statements

* `decodeLossy_utf8EncodeChar_append`: the bytes of a character read back as the character.
* `stringOfUtf8Lossy_encodeUtf8`: lossy decoding of the UTF-8 bytes of a text gives the text.
-/

namespace LabelQuery.Text

/-! ### The decoder, step by step -/

/-- The lead bytes of two-, three- and four-byte characters, in arithmetic form. -/
theorem leadByte_eq (b : UInt8) : leadByte b =
    if 0xC2 ≤ b.toNat ∧ b.toNat ≤ 0xDF then some (1, 0x80, 0xBF)
    else if b.toNat = 0xE0 then some (2, 0xA0, 0xBF)
    else if b.toNat = 0xED then some (2, 0x80, 0x9F)
    else if 0xE1 ≤ b.toNat ∧ b.toNat ≤ 0xEF then some (2, 0x80, 0xBF)
    else if b.toNat = 0xF0 then some (3, 0x90, 0xBF)
    else if b.toNat = 0xF4 then some (3, 0x80, 0x8F)
    else if 0xF1 ≤ b.toNat ∧ b.toNat ≤ 0xF3 then some (3, 0x80, 0xBF)
    else none := by
  simp [leadByte, UInt8.le_iff_toNat_le, ← UInt8.toNat_inj]

theorem decodeLossy_ascii {b : UInt8} (h : b.toNat < 0x80) (rest : List UInt8) :
    decodeLossy (b :: rest) = Char.ofNat b.toNat :: decodeLossy rest := by
  rw [decodeLossy, if_pos (UInt8.lt_iff_toNat_lt.mpr h)]

/-- A lead byte followed by the continuation bytes it announces is read as the code point they
spell. -/
theorem decodeLossy_lead {b : UInt8} {n : Nat} {lo hi : UInt8} {conts rest : List UInt8}
    (hb : 0x80 ≤ b.toNat) (hlead : leadByte b = some (n, lo, hi)) (hlen : conts.length = n)
    (hcount : continuationCount n lo hi (conts ++ rest) = n) :
    decodeLossy (b :: (conts ++ rest)) = Char.ofNat (codePoint b conts) :: decodeLossy rest := by
  have hhigh : ¬ b < 0x80 := fun h ↦ by
    have := UInt8.lt_iff_toNat_lt.mp h
    simp at this
    omega
  rw [decodeLossy, if_neg hhigh, hlead]
  simp only [hcount, if_true]
  rw [← hlen, List.take_left, List.drop_left]

theorem continuationCount_zero (lo hi : UInt8) (bs : List UInt8) :
    continuationCount 0 lo hi bs = 0 := by
  cases bs <;> rfl

/-- A byte in the allowed range is counted, and the count goes on with the next byte. -/
theorem continuationCount_cons {lo hi b : UInt8} {n : Nat} (bs : List UInt8)
    (hb : lo.toNat ≤ b.toNat ∧ b.toNat ≤ hi.toNat) :
    continuationCount (n + 1) lo hi (b :: bs) = continuationCount n 0x80 0xBF bs + 1 := by
  simp [continuationCount, UInt8.le_iff_toNat_le, hb]

/-! ### Characters of two, three and four bytes -/

section Reading

variable {b₀ b₁ b₂ b₃ lo hi : UInt8} (rest : List UInt8)

theorem decodeLossy_two (h₀ : 0x80 ≤ b₀.toNat) (hlead : leadByte b₀ = some (1, lo, hi))
    (h₁ : lo.toNat ≤ b₁.toNat ∧ b₁.toNat ≤ hi.toNat) :
    decodeLossy (b₀ :: b₁ :: rest) =
      Char.ofNat (b₀.toNat % 32 * 64 + b₁.toNat % 64) :: decodeLossy rest := by
  have h : decodeLossy (b₀ :: ([b₁] ++ rest)) = _ := decodeLossy_lead h₀ hlead rfl
    (by rw [List.singleton_append, continuationCount_cons _ h₁, continuationCount_zero])
  simpa [codePoint] using h

theorem decodeLossy_three (h₀ : 0x80 ≤ b₀.toNat) (hlead : leadByte b₀ = some (2, lo, hi))
    (h₁ : lo.toNat ≤ b₁.toNat ∧ b₁.toNat ≤ hi.toNat) (h₂ : 0x80 ≤ b₂.toNat ∧ b₂.toNat ≤ 0xBF) :
    decodeLossy (b₀ :: b₁ :: b₂ :: rest) =
      Char.ofNat ((b₀.toNat % 16 * 64 + b₁.toNat % 64) * 64 + b₂.toNat % 64) ::
        decodeLossy rest := by
  have h : decodeLossy (b₀ :: ([b₁, b₂] ++ rest)) = _ := decodeLossy_lead h₀ hlead rfl
    (by rw [List.cons_append, List.singleton_append, continuationCount_cons _ h₁,
      continuationCount_cons _ (by simpa using h₂), continuationCount_zero])
  simpa [codePoint] using h

theorem decodeLossy_four (h₀ : 0x80 ≤ b₀.toNat) (hlead : leadByte b₀ = some (3, lo, hi))
    (h₁ : lo.toNat ≤ b₁.toNat ∧ b₁.toNat ≤ hi.toNat) (h₂ : 0x80 ≤ b₂.toNat ∧ b₂.toNat ≤ 0xBF)
    (h₃ : 0x80 ≤ b₃.toNat ∧ b₃.toNat ≤ 0xBF) :
    decodeLossy (b₀ :: b₁ :: b₂ :: b₃ :: rest) =
      Char.ofNat (((b₀.toNat % 8 * 64 + b₁.toNat % 64) * 64 + b₂.toNat % 64) * 64 +
        b₃.toNat % 64) :: decodeLossy rest := by
  have h : decodeLossy (b₀ :: ([b₁, b₂, b₃] ++ rest)) = _ := decodeLossy_lead h₀ hlead rfl
    (by rw [List.cons_append, List.cons_append, List.singleton_append,
      continuationCount_cons _ h₁, continuationCount_cons _ (by simpa using h₂), continuationCount_cons _ (by simpa using h₃),
      continuationCount_zero])
  simpa [codePoint] using h

end Reading

section Encoding

variable (v : Nat)

/-- The lead byte of a three-byte character, and the range it gives the next byte. -/
theorem leadByte_of_three (h : 0x7FF < v ∧ v ≤ 0xFFFF) (hs : v < 0xD800 ∨ 0xDFFF < v) :
    ∃ lo hi, leadByte (UInt8.ofNat (v / 4096 % 16 + 0xE0)) = some (2, lo, hi) ∧
      lo.toNat ≤ (UInt8.ofNat (v / 64 % 64 + 0x80)).toNat ∧
      (UInt8.ofNat (v / 64 % 64 + 0x80)).toNat ≤ hi.toNat := by
  simp only [leadByte_eq, UInt8.toNat_ofNat', Nat.reducePow]
  by_cases hE0 : v < 0x1000
  · exact ⟨0xA0, 0xBF, by rw [if_neg (by omega), if_pos (by omega)], by simp; omega,
      by simp; omega⟩
  by_cases hED : 0xD000 ≤ v ∧ v < 0xE000
  · exact ⟨0x80, 0x9F, by rw [if_neg (by omega), if_neg (by omega), if_pos (by omega)],
      by simp; omega, by simp; omega⟩
  · exact ⟨0x80, 0xBF, by rw [if_neg (by omega), if_neg (by omega), if_neg (by omega),
      if_pos (by omega)], by simp; omega, by simp; omega⟩

/-- The lead byte of a four-byte character, and the range it gives the next byte. -/
theorem leadByte_of_four (h : 0xFFFF < v ∧ v < 0x110000) :
    ∃ lo hi, leadByte (UInt8.ofNat (v / 262144 % 8 + 0xF0)) = some (3, lo, hi) ∧
      lo.toNat ≤ (UInt8.ofNat (v / 4096 % 64 + 0x80)).toNat ∧
      (UInt8.ofNat (v / 4096 % 64 + 0x80)).toNat ≤ hi.toNat := by
  simp only [leadByte_eq, UInt8.toNat_ofNat', Nat.reducePow]
  by_cases hF0 : v < 0x40000
  · exact ⟨0x90, 0xBF, by rw [if_neg (by omega), if_neg (by omega), if_neg (by omega),
      if_neg (by omega), if_pos (by omega)], by simp; omega, by simp; omega⟩
  by_cases hF4 : 0x100000 ≤ v
  · exact ⟨0x80, 0x8F, by rw [if_neg (by omega), if_neg (by omega), if_neg (by omega),
      if_neg (by omega), if_neg (by omega), if_pos (by omega)], by simp; omega, by simp; omega⟩
  · exact ⟨0x80, 0xBF, by rw [if_neg (by omega), if_neg (by omega), if_neg (by omega),
      if_neg (by omega), if_neg (by omega), if_neg (by omega), if_pos (by omega)],
      by simp; omega, by simp; omega⟩

end Encoding

/-- **A character's UTF-8 bytes read back as the character**, whatever follows them. -/
theorem decodeLossy_utf8EncodeChar_append (c : Char) (rest : List UInt8) :
    decodeLossy (String.utf8EncodeChar c ++ rest) = c :: decodeLossy rest := by
  have hvalid : c.toNat < 0xD800 ∨ (0xDFFF < c.toNat ∧ c.toNat < 0x110000) := by
    simpa [UInt32.isValidChar, Nat.isValidChar] using c.valid
  -- it is enough to read back the code point
  suffices h : decodeLossy (String.utf8EncodeChar c ++ rest) =
      Char.ofNat c.toNat :: decodeLossy rest by
    rw [h, Char.ofNat_toNat]
  simp only [String.utf8EncodeChar, Char.toNat_val]
  -- one case per length of the encoding
  by_cases h₁ : c.toNat ≤ 0x7F
  · rw [if_pos h₁, List.singleton_append, decodeLossy_ascii (by simp; omega)]
    simp only [UInt8.toNat_ofNat', Nat.reducePow]
    rw [Nat.mod_eq_of_lt (by omega)]
  rw [if_neg h₁]
  by_cases h₂ : c.toNat ≤ 0x7FF
  · rw [if_pos h₂, List.cons_append, List.singleton_append,
      decodeLossy_two rest (by simp; omega)
        (by rw [leadByte_eq, if_pos (by simp only [UInt8.toNat_ofNat', Nat.reducePow]; omega)])
        (by simp; omega)]
    simp only [UInt8.toNat_ofNat', Nat.reducePow]
    congr 2
    omega
  rw [if_neg h₂]
  by_cases h₃ : c.toNat ≤ 0xFFFF
  · rw [if_pos h₃, List.cons_append, List.cons_append, List.singleton_append]
    obtain ⟨lo, hi, hlead, hrange⟩ := leadByte_of_three c.toNat ⟨by omega, h₃⟩ (by omega)
    rw [decodeLossy_three rest (by simp; omega) hlead hrange (by simp; omega)]
    simp only [UInt8.toNat_ofNat', Nat.reducePow]
    congr 2
    omega
  rw [if_neg h₃, List.cons_append, List.cons_append, List.cons_append, List.singleton_append]
  obtain ⟨lo, hi, hlead, hrange⟩ := leadByte_of_four c.toNat ⟨by omega, by omega⟩
  rw [decodeLossy_four rest (by simp; omega) hlead hrange (by simp; omega) (by simp; omega)]
  simp only [UInt8.toNat_ofNat', Nat.reducePow]
  congr 2
  omega

/-- The bytes of a list of characters read back as the characters. -/
theorem decodeLossy_flatMap_utf8EncodeChar (cs : List Char) :
    decodeLossy (cs.flatMap String.utf8EncodeChar) = cs := by
  induction cs with
  | nil => simp [decodeLossy]
  | cons c cs ih => rw [List.flatMap_cons, decodeLossy_utf8EncodeChar_append, ih]

/-- **Lossy decoding of a text's UTF-8 bytes gives the text.** -/
theorem stringOfUtf8Lossy_encodeUtf8 (s : String) : stringOfUtf8Lossy (encodeUtf8 s) = s := by
  rw [stringOfUtf8Lossy, encodeUtf8, decodeLossy_flatMap_utf8EncodeChar, String.ofList_toList]

end LabelQuery.Text
