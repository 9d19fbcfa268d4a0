/-!
# UTF-8

Positions in selector text are counted in bytes of the UTF-8 encoding, so that they are offsets
into the text as it is stored and sent. A character takes one to four bytes.

Bytes that arrive percent-encoded need not be valid UTF-8. They are decoded *lossily*: each
maximal part of an ill-formed sequence — a byte that cannot start a character, or a start
followed by fewer continuation bytes than it announces — becomes one replacement character
U+FFFD, and decoding goes on after it. This is the substitution the Unicode standard recommends
(Table 3-7 of its chapter 3), so valid text is decoded unchanged.

## Main statements

* `byteLength_append`: the byte length of a concatenation is the sum of the byte lengths.
-/

namespace LabelQuery.Text

/-- The number of bytes of the UTF-8 encoding of a list of characters. -/
def byteLength : List Char → Nat
  | [] => 0
  | c :: cs => c.utf8Size + byteLength cs

@[simp] theorem byteLength_nil : byteLength [] = 0 := rfl

@[simp] theorem byteLength_cons (c : Char) (cs : List Char) :
    byteLength (c :: cs) = c.utf8Size + byteLength cs := rfl

@[simp] theorem byteLength_append (as bs : List Char) :
    byteLength (as ++ bs) = byteLength as + byteLength bs := by
  induction as with
  | nil => simp
  | cons c as ih => simp [ih, Nat.add_assoc]

/-- The UTF-8 bytes of a string. -/
def encodeUtf8 (s : String) : List UInt8 :=
  s.toList.flatMap String.utf8EncodeChar

/-- For a byte that starts a character of two to four bytes: the number of continuation bytes
and the range the first of them must lie in. The ranges exclude overlong forms, surrogates and
code points above U+10FFFF. -/
def leadByte (b : UInt8) : Option (Nat × UInt8 × UInt8) :=
  if 0xC2 ≤ b && b ≤ 0xDF then some (1, 0x80, 0xBF)
  else if b = 0xE0 then some (2, 0xA0, 0xBF)
  else if b = 0xED then some (2, 0x80, 0x9F)
  else if 0xE1 ≤ b && b ≤ 0xEF then some (2, 0x80, 0xBF)
  else if b = 0xF0 then some (3, 0x90, 0xBF)
  else if b = 0xF4 then some (3, 0x80, 0x8F)
  else if 0xF1 ≤ b && b ≤ 0xF3 then some (3, 0x80, 0xBF)
  else none

/-- How many of the `n` bytes after a lead byte are valid continuation bytes, the first in
`lo..hi` and the others in `0x80..0xBF`, counting until the first that is not. -/
def continuationCount (n : Nat) (lo hi : UInt8) : List UInt8 → Nat
  | [] => 0
  | b :: rest =>
    if n = 0 then 0
    else if lo ≤ b && b ≤ hi then continuationCount (n - 1) 0x80 0xBF rest + 1
    else 0

/-- The code point of a lead byte followed by continuation bytes. -/
def codePoint (lead : UInt8) (conts : List UInt8) : Nat :=
  let mask := if conts.length = 1 then 0x1F else if conts.length = 2 then 0x0F else 0x07
  conts.foldl (fun acc b ↦ acc * 64 + (b.toNat % 64)) (lead.toNat % (mask + 1))

/-- Decodes bytes as UTF-8, replacing each maximal ill-formed part by U+FFFD. -/
def decodeLossy : List UInt8 → List Char
  | [] => []
  | b :: rest =>
    if b < 0x80 then Char.ofNat b.toNat :: decodeLossy rest
    else
      match leadByte b with
      | none => '�' :: decodeLossy rest
      | some (n, lo, hi) =>
        let k := continuationCount n lo hi rest
        if k = n then Char.ofNat (codePoint b (rest.take n)) :: decodeLossy (rest.drop n)
        else '�' :: decodeLossy (rest.drop k)
termination_by bs => bs.length
decreasing_by
  all_goals first
    | exact Nat.lt_succ_self _
    | exact Nat.lt_succ_of_le (List.drop_sublist _ _).length_le

/-- Decodes bytes that are well-formed UTF-8, or `none`. -/
def decodeStrict? : List UInt8 → Option (List Char)
  | [] => some []
  | b :: rest =>
    if b < 0x80 then (decodeStrict? rest).map (Char.ofNat b.toNat :: ·)
    else
      match leadByte b with
      | none => none
      | some (n, lo, hi) =>
        if continuationCount n lo hi rest = n then
          (decodeStrict? (rest.drop n)).map (Char.ofNat (codePoint b (rest.take n)) :: ·)
        else none
termination_by bs => bs.length
decreasing_by
  all_goals first
    | exact Nat.lt_succ_self _
    | exact Nat.lt_succ_of_le (List.drop_sublist _ _).length_le

/-- Decodes bytes that are well-formed UTF-8 as text, or `none`. -/
def decodeUtf8? (bs : List UInt8) : Option String :=
  (decodeStrict? bs).map String.ofList

/-- Decodes bytes as UTF-8 text, lossily. -/
def stringOfUtf8Lossy (bs : List UInt8) : String :=
  String.ofList (decodeLossy bs)

end LabelQuery.Text
