/-!
# Decimal numerals

The text of a number in decimal floating-point notation, read into an exact value before any
rounding. The grammar, on ASCII characters only:

    numeral  ::= sign? (digits ('.' digits?)? | '.' digits) exponent?
               | sign? ("inf" | "infinity" | "nan")      -- letters in any case
    exponent ::= ('e' | 'E') sign? digits
    sign     ::= '+' | '-'

There must be at least one digit before or after the point. Nothing may stand before or after
the numeral: no blanks, no digit separators, no hexadecimal prefix.

A finite numeral is kept as its sign, the integer formed by all its digits, and a power of ten,
so that `-12.5e3` is `-125 × 10^2`.

Page numbers and page sizes are read by a stricter grammar: unsigned 32-bit integers written as
an optional `+`, then one or more ASCII digits, with a value below `2^32`. A `-` is refused even
before zero.
-/

namespace LabelQuery

/-- A number as written, before rounding. -/
inductive Numeral where
  /-- `(-1)^neg × digits × 10^exp`. -/
  | finite (neg : Bool) (digits : Nat) (exp : Int)
  /-- An infinity of the given sign. -/
  | infinity (neg : Bool)
  /-- Not a number; its sign is not kept. -/
  | nan
  deriving DecidableEq, Repr

namespace Numeral

/-- An optional sign at the front: whether it is `-`, and the characters after it. -/
def readSign : List Char → Bool × List Char
  | '+' :: rest => (false, rest)
  | '-' :: rest => (true, rest)
  | rest => (false, rest)

/-- The leading ASCII digits and the characters after them. -/
def readDigits (cs : List Char) : List Char × List Char :=
  (cs.takeWhile Char.isDigit, cs.dropWhile Char.isDigit)

/-- The value of a list of ASCII digits, most significant first. -/
def digitsValue (ds : List Char) : Nat :=
  ds.foldl (fun n d ↦ 10 * n + (d.toNat - '0'.toNat)) 0

/-- Reads an exponent part after its `e`: a sign and digits, with nothing after them. -/
def readExponent (cs : List Char) : Option Int :=
  let (neg, rest) := readSign cs
  let (ds, after) := readDigits rest
  if ds.isEmpty || !after.isEmpty then none
  else
    let v : Int := digitsValue ds
    some (if neg then -v else v)

/-- Reads a numeral without its sign. -/
def readUnsigned (neg : Bool) (cs : List Char) : Option Numeral :=
  let word := cs.map Char.toLower
  if word = "inf".toList || word = "infinity".toList then some (.infinity neg)
  else if word = "nan".toList then some .nan
  else
    let (whole, rest) := readDigits cs
    let (frac, rest) :=
      match rest with
      | '.' :: more => readDigits more
      | _ => ([], rest)
    if whole.isEmpty && frac.isEmpty then none
    else
      let digits := digitsValue (whole ++ frac)
      let shift : Int := frac.length
      match rest with
      | [] => some (.finite neg digits (-shift))
      | c :: more =>
        if c = 'e' || c = 'E' then
          (readExponent more).map fun x ↦ .finite neg digits (x - shift)
        else none

/-- Reads a whole text as a numeral, or `none` when it is not one. -/
def read? (s : String) : Option Numeral :=
  let (neg, rest) := readSign s.toList
  readUnsigned neg rest

end Numeral

/-! ### Unsigned 32-bit numerals -/

/-- The largest value plus one. -/
def word32Bound : Nat := Nat.pow 2 32

/-- Reads an unsigned 32-bit decimal numeral, or `none`. -/
def readWord32? (s : String) : Option Nat :=
  let cs := match s.toList with
    | '+' :: rest => rest
    | cs => cs
  if cs.isEmpty || !cs.all Char.isDigit then none
  else
    let v := cs.foldl (fun n d ↦ 10 * n + (d.toNat - '0'.toNat)) 0
    if v < word32Bound then some v else none

end LabelQuery
