import LabelQuery.Text.Percent
import LabelQuery.Text.Utf8Laws
/-!
# Percent-decoding undoes percent-encoding

Encoding writes a byte either as itself, when it is unreserved, or as `%` and its two
upper-case hexadecimal digits. Decoding passes every byte but `%` through, and reads `%` with two
hexadecimal digits after it as the byte they spell; since an unreserved byte is never `%`, the
two undo each other byte by byte (`decodeBytes_encodeBytes`).

Encoded text is ASCII (`toNat_lt_of_mem_encodeBytes`), and an ASCII byte read as a character
has that byte as its UTF-8 encoding, so the bytes of the encoded text are the encoded bytes.
Decoding them and reading the result as UTF-8 gives the text back, because lossy UTF-8 decoding
of valid bytes is exact.

## Main statements

* `decodeBytes_encodeBytes`: decoding encoded bytes gives the bytes.
* `mem_encodeBytes`: encoding writes only unreserved bytes, `%` and hexadecimal digits.
* `percentDecode_percentEncode`: decoding an encoded text gives the text.
-/

namespace LabelQuery.Text

/-! ### Escapes -/

theorem hexValue?_hexByte : ∀ n, n < 16 → hexValue? (hexByte n) = some n := by
  decide

theorem isUnreserved_percent : isUnreserved 0x25 = false := by
  decide

theorem encodeBytes_cons (b : UInt8) (bs : List UInt8) :
    encodeBytes (b :: bs) =
      (if isUnreserved b then [b] else [0x25, hexByte (b.toNat / 16), hexByte (b.toNat % 16)]) ++
        encodeBytes bs :=
  List.flatMap_cons

/-- A byte other than `%` is passed through. -/
theorem decodeBytes_cons_of_ne {b : UInt8} (h : b ≠ 0x25) (bs : List UInt8) :
    decodeBytes (b :: bs) = b :: decodeBytes bs := by
  match bs with
  | [] => simp [decodeBytes]
  | [x] => simp [decodeBytes]
  | x :: y :: more => rw [decodeBytes]; simp [h]

/-- `%` and the two digits of a byte are read as the byte. -/
theorem decodeBytes_escape (b : UInt8) (bs : List UInt8) :
    decodeBytes (0x25 :: hexByte (b.toNat / 16) :: hexByte (b.toNat % 16) :: bs) =
      b :: decodeBytes bs := by
  have hb := b.toNat_lt
  rw [decodeBytes, hexValue?_hexByte _ (by omega), hexValue?_hexByte _ (by omega)]
  simp only [beq_self_eq_true]
  rw [Nat.div_add_mod]
  simp

/-- **Decoding encoded bytes gives the bytes.** -/
theorem decodeBytes_encodeBytes (bs : List UInt8) : decodeBytes (encodeBytes bs) = bs := by
  induction bs with
  | nil => simp [encodeBytes, decodeBytes]
  | cons b bs ih =>
    rw [encodeBytes_cons]
    by_cases hu : isUnreserved b = true
    · have hne : b ≠ 0x25 := fun h ↦ by
        rw [h, isUnreserved_percent] at hu
        exact Bool.false_ne_true hu
      rw [if_pos hu, List.singleton_append, decodeBytes_cons_of_ne hne, ih]
    · rw [if_neg hu, List.cons_append, List.cons_append, List.singleton_append,
        decodeBytes_escape, ih]

/-! ### What encoding writes -/

/-- **Encoding writes only unreserved bytes, `%` and hexadecimal digits.** -/
theorem mem_encodeBytes {b : UInt8} {bs : List UInt8} (h : b ∈ encodeBytes bs) :
    isUnreserved b = true ∨ b = 0x25 ∨ ∃ n, n < 16 ∧ b = hexByte n := by
  obtain ⟨a, -, hb⟩ := List.mem_flatMap.mp h
  by_cases hu : isUnreserved a = true
  · rw [if_pos hu, List.mem_singleton] at hb
    rw [hb]
    exact Or.inl hu
  · rw [if_neg hu] at hb
    have ha := a.toNat_lt
    simp only [List.mem_cons, List.not_mem_nil, or_false] at hb
    rcases hb with hb | hb | hb
    · exact Or.inr (Or.inl hb)
    · exact Or.inr (Or.inr ⟨_, by omega, hb⟩)
    · exact Or.inr (Or.inr ⟨_, by omega, hb⟩)

theorem toNat_lt_of_isUnreserved {b : UInt8} (h : isUnreserved b = true) : b.toNat < 0x80 := by
  simp [isUnreserved, UInt8.le_iff_toNat_le, ← UInt8.toNat_inj] at h
  omega

theorem toNat_hexByte_lt : ∀ n, n < 16 → (hexByte n).toNat < 0x80 := by
  decide

/-- Encoded bytes are ASCII. -/
theorem toNat_lt_of_mem_encodeBytes {b : UInt8} {bs : List UInt8} (h : b ∈ encodeBytes bs) :
    b.toNat < 0x80 := by
  rcases mem_encodeBytes h with hu | rfl | ⟨n, hn, rfl⟩
  · exact toNat_lt_of_isUnreserved hu
  · decide
  · exact toNat_hexByte_lt n hn

/-! ### Encoded text -/

theorem toNat_ofNat_of_lt {n : Nat} (h : n < 0x80) : (Char.ofNat n).toNat = n := by
  have hv : n.isValidChar := Or.inl (by omega)
  show (dite n.isValidChar (fun h ↦ Char.ofNatAux n h) _).toNat = n
  rw [dif_pos hv]
  rfl

/-- An ASCII byte, read as a character, is its own UTF-8 encoding. -/
theorem utf8EncodeChar_ofNat {b : UInt8} (h : b.toNat < 0x80) :
    String.utf8EncodeChar (Char.ofNat b.toNat) = [b] := by
  simp only [String.utf8EncodeChar, Char.toNat_val, toNat_ofNat_of_lt h]
  rw [if_pos (by omega)]
  simp

/-- ASCII bytes, read as characters, are their own UTF-8 encoding. -/
theorem flatMap_utf8EncodeChar_ofNat :
    ∀ {bs : List UInt8}, (∀ b ∈ bs, b.toNat < 0x80) →
      bs.flatMap (fun b ↦ String.utf8EncodeChar (Char.ofNat b.toNat)) = bs
  | [], _ => rfl
  | b :: bs, h => by
    rw [List.flatMap_cons, utf8EncodeChar_ofNat (h b List.mem_cons_self),
      flatMap_utf8EncodeChar_ofNat fun b' hb' ↦ h b' (List.mem_cons_of_mem _ hb'),
      List.singleton_append]

/-- The bytes of an encoded text are the encoded bytes of the text. -/
theorem encodeUtf8_percentEncode (s : String) :
    encodeUtf8 (percentEncode s) = encodeBytes (encodeUtf8 s) := by
  rw [percentEncode, encodeUtf8, String.toList_ofList, List.flatMap_map]
  exact flatMap_utf8EncodeChar_ofNat fun b hb ↦ toNat_lt_of_mem_encodeBytes hb

/-- **Decoding an encoded text gives the text.** -/
theorem percentDecode_percentEncode (s : String) : percentDecode (percentEncode s) = s := by
  rw [percentDecode, encodeUtf8_percentEncode, decodeBytes_encodeBytes,
    stringOfUtf8Lossy_encodeUtf8]

end LabelQuery.Text
