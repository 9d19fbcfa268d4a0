import LabelQuery.Number.Decimal
/-!
# Binary64 values and their order

A numeral is rounded to the nearest binary64 floating-point value: a sign, a significand below
`2^53` and a power of two no smaller than `2^-1074`, or an infinity when the numeral is too large.
Of two nearest values, the one with an even significand is taken. The rounding is computed
exactly on natural numbers, so it holds for numerals of any length.

Values are ordered as real numbers, with the infinities below and above all finite values. The
two zeros are equal, and not-a-number is unordered with everything, itself included.
-/

namespace LabelQuery

/-- A binary64 floating-point value. -/
inductive Binary64 where
  /-- `(-1)^neg × significand × 2^exp`. -/
  | finite (neg : Bool) (significand : Nat) (exp : Int)
  /-- An infinity of the given sign. -/
  | infinite (neg : Bool)
  /-- Not a number. -/
  | nan
  deriving DecidableEq, Repr

namespace Binary64

/-- `p / q < 2^k`, decided on natural numbers. -/
def ratioLtPow (p q : Nat) (k : Int) : Bool :=
  if 0 ≤ k then p < q * Nat.pow 2 k.toNat else p * Nat.pow 2 ((-k).toNat) < q

/-- `num / den` rounded to the nearest natural number; a tie goes to the even one. -/
def roundHalfEven (num den : Nat) : Nat :=
  let s := num / den
  let r := num % den
  if den < 2 * r || (2 * r = den && s % 2 = 1) then s + 1 else s

/-- The nearest binary64 significand and exponent of the positive ratio `p / q`, or `none` when
it is at least `2^1024` after rounding. -/
def roundRatio (p q : Nat) : Option (Nat × Int) :=
  let k₀ : Int := (Nat.log2 p : Int) - Nat.log2 q
  -- the exponent of the leading binary digit of `p / q`
  let k := if ratioLtPow p q k₀ then k₀ - 1 else k₀
  let e := max (k - 52) (-1074)
  let s :=
    if 0 ≤ e then roundHalfEven p (q * Nat.pow 2 e.toNat)
    else roundHalfEven (p * Nat.pow 2 (-e).toNat) q
  let (s, e) := if s = Nat.pow 2 53 then (Nat.pow 2 52, e + 1) else (s, e)
  if 971 < e then none else some (s, e)

/-- The number of decimal digits of a natural number; zero has one. -/
def decimalLength (n : Nat) : Nat :=
  (Nat.toDigits 10 n).length

/-- The binary64 value nearest to a numeral. A numeral of at least `10^309` is an infinity and
one below `10^-325` is a zero, which spares computing huge powers of ten. -/
def ofNumeral : Numeral → Binary64
  | .nan => .nan
  | .infinity neg => .infinite neg
  | .finite neg m x =>
    if m = 0 then .finite neg 0 0
    else if 309 ≤ x then .infinite neg
    else if (decimalLength m : Int) + x ≤ -325 then .finite neg 0 0
    else
      let (p, q) := if 0 ≤ x then (m * Nat.pow 10 x.toNat, 1) else (m, Nat.pow 10 ((-x).toNat))
      match roundRatio p q with
      | some (s, e) => .finite neg s e
      | none => .infinite neg

/-- Reads text as a binary64 value, or `none` when it is not a numeral. -/
def read? (s : String) : Option Binary64 :=
  (Numeral.read? s).map ofNumeral

/-- The binary64 value nearest to `(-1)^neg × num / den`, an infinity when it is too large. -/
def ofRatio (neg : Bool) (num den : Nat) : Binary64 :=
  if num = 0 || den = 0 then .finite neg 0 0
  else
    match roundRatio num den with
    | some (s, e) => .finite neg s e
    | none => .infinite neg

/-- The binary64 value nearest to a natural number. -/
def ofNat (n : Nat) : Binary64 := ofRatio false n 1

/-- A finite value as a sign and an exact ratio of natural numbers. -/
def finiteRatio (m : Nat) (e : Int) : Nat × Nat :=
  if 0 ≤ e then (m * Nat.pow 2 e.toNat, 1) else (m, Nat.pow 2 ((-e).toNat))

/-- The product of two values, rounded to nearest; finite operands only. -/
def mul : Binary64 → Binary64 → Binary64
  | .finite n₁ m₁ e₁, .finite n₂ m₂ e₂ =>
    let (p₁, q₁) := finiteRatio m₁ e₁
    let (p₂, q₂) := finiteRatio m₂ e₂
    ofRatio (n₁ != n₂) (p₁ * p₂) (q₁ * q₂)
  | _, _ => .nan

/-- The quotient of two values, rounded to nearest; finite operands and a non-zero divisor
only. -/
def div : Binary64 → Binary64 → Binary64
  | .finite n₁ m₁ e₁, .finite n₂ m₂ e₂ =>
    let (p₁, q₁) := finiteRatio m₁ e₁
    let (p₂, q₂) := finiteRatio m₂ e₂
    if p₂ = 0 then .nan else ofRatio (n₁ != n₂) (p₁ * q₂) (q₁ * p₂)
  | _, _ => .nan

/-- The value is zero, of either sign. -/
def isZero : Binary64 → Bool
  | .finite _ m _ => m == 0
  | _ => false

/-- The value is an infinity. -/
def isInfinite : Binary64 → Bool
  | .infinite _ => true
  | _ => false

/-- The value with its sign changed. -/
def neg : Binary64 → Binary64
  | .finite n m e => .finite (!n) m e
  | .infinite n => .infinite (!n)
  | .nan => .nan

/-- The exact value of a finite number. -/
def finiteValue (neg : Bool) (m : Nat) (e : Int) : Rat :=
  let v : Rat :=
    if 0 ≤ e then ((m * Nat.pow 2 e.toNat : Nat) : Rat)
    else (m : Rat) / ((Nat.pow 2 (-e).toNat : Nat) : Rat)
  if neg then -v else v

/-- Compares two rationals. -/
def compareRat (a b : Rat) : Ordering :=
  if a < b then .lt else if a = b then .eq else .gt

/-- The order of two values as real numbers, infinities at the ends; `none` when one of them is
not a number. -/
def compare? : Binary64 → Binary64 → Option Ordering
  | .nan, _ => none
  | _, .nan => none
  | .infinite a, .infinite b => some (if a = b then .eq else if a then .lt else .gt)
  | .infinite a, .finite .. => some (if a then .lt else .gt)
  | .finite .., .infinite b => some (if b then .gt else .lt)
  | .finite n₁ m₁ e₁, .finite n₂ m₂ e₂ =>
    some (compareRat (finiteValue n₁ m₁ e₁) (finiteValue n₂ m₂ e₂))

end Binary64

end LabelQuery
