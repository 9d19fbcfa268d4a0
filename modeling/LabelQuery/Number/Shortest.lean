import LabelQuery.Number.Binary64
/-!
# Shortest decimal text of binary64 values

A finite binary64 value is written with the fewest significant decimal digits that read back
as the same value, and of those the one nearest to it (of two equally near, the one whose last
digit is even). A decimal reads back as
the value when it lies in the value's *rounding interval*: between the points halfway to its two
neighbours, the ends included when the significand is even, since ties round to even. Just above
a power of two the lower neighbour is only half as far away as the upper one.

A `FloatFormat` holds a format's own decisions: the range of values written positionally (`0.`
and leading zeros below one, a point inside the digits, or trailing zeros for large values), the
others being written as one digit, a point, the other digits and an exponent; whether an integer
keeps `.0`; and the spellings of the exponent mark, NaN and infinity.
-/

namespace LabelQuery

namespace Binary64

/-- `10^k` as a rational, for any integer `k`. -/
def pow10Rat (k : Int) : Rat :=
  if 0 ≤ k then ((Nat.pow 10 k.toNat : Nat) : Rat)
  else 1 / ((Nat.pow 10 (-k).toNat : Nat) : Rat)

/-- The largest integer not above a rational. -/
def floorRat (x : Rat) : Int :=
  x.num / (x.den : Int)

/-- Moves an estimate `t` of `⌊log₁₀ x⌋` to the exact value, `fuel` steps at most. -/
def fixLog10 (x : Rat) : Nat → Int → Int
  | 0, t => t
  | fuel + 1, t =>
    if x < pow10Rat t then fixLog10 x fuel (t - 1)
    else if pow10Rat (t + 1) ≤ x then fixLog10 x fuel (t + 1)
    else t

/-- `⌊log₁₀ x⌋` of a positive rational. -/
def floorLog10 (x : Rat) : Int :=
  let bits : Int := (Nat.log2 x.num.natAbs : Int) - Nat.log2 x.den
  fixLog10 x 8 (bits * 30103 / 100000)

/-- Drops trailing zero digits of `c × 10^k`. -/
def stripZeros : Nat → Nat → Int → Nat × Int
  | 0, c, k => (c, k)
  | fuel + 1, c, k => if c ≠ 0 ∧ c % 10 = 0 then stripZeros fuel (c / 10) (k + 1) else (c, k)

/-- Of `c` and `c + 1` (times a step), the nearer to `x`; of two equally near, the even one. -/
def nearer (x below above : Rat) (c : Nat) : Nat :=
  if x - below < above - x then c
  else if above - x < x - below then c + 1
  else if c % 2 = 0 then c else c + 1

/-- The digits `c` and exponent `k` of the shortest decimal `c × 10^k` in the interval from
`lo` to `hi` (ends included when `closed`), nearest to `x`; tried with `n` digits and more, up to
seventeen. -/
def shortestFrom (x lo hi : Rat) (closed : Bool) (t : Int) : Nat → Nat → Nat × Int
  | 0, _ => (0, 0)
  | fuel + 1, n =>
    let k := t - n + 1
    let step := pow10Rat k
    let c₀ := (floorRat (x / step)).toNat
    let inside (c : Nat) : Bool :=
      let v := (c : Rat) * step
      (lo < v || (closed && lo == v)) && (v < hi || (closed && v == hi))
    let below := (c₀ : Rat) * step
    let above := ((c₀ + 1 : Nat) : Rat) * step
    match inside c₀, inside (c₀ + 1) with
    | true, true => (nearer x below above c₀, k)
    | true, false => (c₀, k)
    | false, true => (c₀ + 1, k)
    | false, false =>
      if 17 ≤ n then (nearer x below above c₀, k)
      else shortestFrom x lo hi closed t fuel (n + 1)

/-- The shortest digits and exponent of a positive finite value `m × 2^e` in its rounding
interval. -/
def shortestDigits (m : Nat) (e : Int) : Nat × Int :=
  let (p, q) := finiteRatio m e
  let x : Rat := (p : Rat) / (q : Rat)
  let half : Rat := let (a, b) := finiteRatio 1 (e - 1); (a : Rat) / (b : Rat)
  let hi := x + half
  let lo := if m = Nat.pow 2 52 && -1074 < e then x - half / 2 else x - half
  let (c, k) := shortestFrom x lo hi (m % 2 == 0) (floorLog10 x) 20 1
  stripZeros 20 c k

/-- `n` zeros. -/
def zeros (n : Nat) : String :=
  String.ofList (List.replicate n '0')

/-- Writes `c × 10^k` positionally, with `.0` after an integer when `pointZero`. -/
def positional (pointZero : Bool) (c : Nat) (k : Int) : String :=
  let ds := Nat.toDigits 10 c
  let n := ds.length
  let point : Int := k + n
  if point ≤ 0 then "0." ++ zeros (-point).toNat ++ String.ofList ds
  else if point < n then
    String.ofList (ds.take point.toNat) ++ "." ++ String.ofList (ds.drop point.toNat)
  else String.ofList ds ++ zeros (point - n).toNat ++ (if pointZero then ".0" else "")

/-- Writes the digits `ds` of a value in `[10^x, 10^(x+1))` with an exponent: the first digit,
the others after a point, the mark and `x`, with `+` before a positive `x` when `plus`. -/
def scientific (mark : String) (plus : Bool) (ds : List Char) (x : Int) : String :=
  let mantissa := match ds with
    | [d] => String.singleton d
    | d :: more => String.singleton d ++ "." ++ String.ofList more
    | [] => "0"
  mantissa ++ mark ++ (if plus && 0 < x then "+" else "") ++ toString x

end Binary64

/-- How a format writes binary64 values: which values are written positionally and which with
an exponent, and the spellings it chooses. The digits are always the shortest that read back. -/
structure FloatFormat where
  /-- Values from `10^lowest` up to below `10^highest` are written positionally. -/
  lowest : Int
  /-- See `lowest`. -/
  highest : Int
  /-- An integer written positionally, zero included, keeps `.0` after it. -/
  pointZero : Bool
  /-- The mark before an exponent. -/
  expMark : String
  /-- A positive exponent is written with `+`. -/
  plusExponent : Bool
  /-- The text of a NaN. -/
  nan : String
  /-- The text of an infinity, after its sign. -/
  infinity : String

namespace Binary64

/-- The text of a value in a format: the sign of a negative value, including a negative zero,
then the shortest digits that read back, laid out as the format says. -/
def format (f : FloatFormat) : Binary64 → String
  | .nan => f.nan
  | .infinite neg => (if neg then "-" else "") ++ f.infinity
  | .finite neg m e =>
    let sign := if neg then "-" else ""
    if m = 0 then sign ++ "0" ++ (if f.pointZero then ".0" else "")
    else
      let (c, k) := shortestDigits m e
      let ds := Nat.toDigits 10 c
      let x : Int := k + ds.length - 1
      if f.lowest ≤ x && x < f.highest then sign ++ positional f.pointZero c k
      else sign ++ scientific f.expMark f.plusExponent ds x

end Binary64

end LabelQuery
