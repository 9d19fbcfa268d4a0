import LabelQuery.Text.Utf8
/-!
# Percent encoding

Query strings carry arbitrary text as bytes. Encoding keeps the unreserved bytes — ASCII letters,
digits and `- . _ ~` — and writes every other byte as `%` followed by two upper-case hexadecimal
digits. Decoding turns `%` followed by two hexadecimal digits of either case back into the byte;
a `%` without two such digits after it stands for itself.
-/

namespace LabelQuery.Text

/-- Bytes written as themselves: ASCII letters, digits and `- . _ ~`. -/
def isUnreserved (b : UInt8) : Bool :=
  (0x30 ≤ b && b ≤ 0x39) || (0x41 ≤ b && b ≤ 0x5A) || (0x61 ≤ b && b ≤ 0x7A) ||
    b == 0x2D || b == 0x2E || b == 0x5F || b == 0x7E

/-- An upper-case hexadecimal digit of a number below sixteen, as a byte. -/
def hexByte (n : Nat) : UInt8 :=
  if n < 10 then (0x30 + n).toUInt8 else (0x41 + n - 10).toUInt8

/-- The value of a hexadecimal digit of either case. -/
def hexValue? (b : UInt8) : Option Nat :=
  if 0x30 ≤ b && b ≤ 0x39 then some (b.toNat - 0x30)
  else if 0x41 ≤ b && b ≤ 0x46 then some (b.toNat - 0x41 + 10)
  else if 0x61 ≤ b && b ≤ 0x66 then some (b.toNat - 0x61 + 10)
  else none

/-- Percent-encodes bytes. -/
def encodeBytes (bs : List UInt8) : List UInt8 :=
  bs.flatMap fun b ↦
    if isUnreserved b then [b] else [0x25, hexByte (b.toNat / 16), hexByte (b.toNat % 16)]

/-- Percent-decodes bytes. -/
def decodeBytes : List UInt8 → List UInt8
  | b :: h :: l :: more =>
    match b == 0x25, hexValue? h, hexValue? l with
    | true, some x, some y => (16 * x + y).toUInt8 :: decodeBytes more
    | _, _, _ => b :: decodeBytes (h :: l :: more)
  | b :: rest => b :: decodeBytes rest
  | [] => []
termination_by bs => bs.length

/-- Percent-encodes the UTF-8 bytes of a string. -/
def percentEncode (s : String) : String :=
  String.ofList ((encodeBytes (encodeUtf8 s)).map fun b ↦ Char.ofNat b.toNat)

/-- Percent-decodes the UTF-8 bytes of a string, then reads them back as text, lossily. -/
def percentDecode (s : String) : String :=
  stringOfUtf8Lossy (decodeBytes (encodeUtf8 s))

end LabelQuery.Text
