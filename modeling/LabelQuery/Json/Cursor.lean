import LabelQuery.Json.Error
import LabelQuery.Text.Utf8
/-!
# Scanning JSON text

A cursor into the UTF-8 bytes of a JSON document, and the scanners for its tokens: blanks, the
literals `null`, `true` and `false`, strings with their escapes, and numbers. Each scanner
recurses on the bytes still to read.

An error found *at* the cursor is reported at the cursor's position; an error found in the byte
*under* the cursor is reported one byte further on, as if that byte had been read. Scanners move
the cursor past what they have read before they report a problem inside it, so the position says
how far reading got.

Numbers are read as the JSON reader of this format has always read them: an integer that fits
64 bits stays an integer. Otherwise the leading digits that fit form a 64-bit significand, the
other digits only shift the decimal exponent, and the value is that significand rounded to
binary64, then multiplied or divided once by the binary64 power of ten of the exponent (by
`10^308` first while the exponent is beyond it). A value that overflows is an error, not an
infinity.
-/

namespace LabelQuery

open Text

/-- A position in a JSON document: the bytes read so far, most recent first, and the bytes still
to read. -/
structure Cursor where
  /-- The bytes read, most recent first. -/
  consumed : List UInt8
  /-- The bytes still to read. -/
  rest : List UInt8

namespace Cursor

/-- A cursor at the start of some bytes. -/
def ofBytes (bs : List UInt8) : Cursor := ⟨[], bs⟩

/-- The byte under the cursor. -/
def peek? (c : Cursor) : Option UInt8 := c.rest.head?

/-- The cursor one byte further on; at the end it stays. -/
def bump (c : Cursor) : Cursor :=
  match c.rest with
  | b :: r => ⟨b :: c.consumed, r⟩
  | [] => c

/-- The cursor `n` bytes further on, or at the end. -/
def advance (c : Cursor) : Nat → Cursor
  | 0 => c
  | n + 1 => c.bump.advance n

/-- The line (from one) and byte column of the cursor. -/
def position (c : Cursor) : Nat × Nat :=
  (1 + c.consumed.count 0x0A, (c.consumed.takeWhile (· != 0x0A)).length)

/-- An error found at the cursor. -/
def error (c : Cursor) (p : JsonProblem) : JsonError := ⟨p, some c.position⟩

/-- An error found in the byte under the cursor. -/
def peekError (c : Cursor) (p : JsonProblem) : JsonError := ⟨p, some c.bump.position⟩

/-- A blank between JSON tokens: space, tab, line feed, carriage return. -/
def isBlankByte (b : UInt8) : Bool :=
  b == 0x20 || b == 0x09 || b == 0x0A || b == 0x0D

/-- Drops leading blanks, moving them to the bytes read. -/
def skipBlanksFrom (done : List UInt8) : List UInt8 → Cursor
  | b :: r => if isBlankByte b then skipBlanksFrom (b :: done) r else ⟨done, b :: r⟩
  | [] => ⟨done, []⟩

/-- Skips blanks. -/
def skipBlanks (c : Cursor) : Cursor := skipBlanksFrom c.consumed c.rest

/-- Reads the rest of a literal: at the end of the text the value is missing, and at the first
different byte (read) the literal is misspelt. -/
def expectWord (c : Cursor) : List UInt8 → Except JsonError Cursor
  | [] => .ok c
  | w :: ws =>
    match c.rest with
    | [] => .error (c.error .eofValue)
    | b :: _ => if b == w then expectWord c.bump ws else .error (c.bump.error .expectedIdent)

/-! ### Strings -/

/-- The value of a hexadecimal digit of either case. -/
def hexDigitValue? (b : UInt8) : Option Nat :=
  if 0x30 ≤ b && b ≤ 0x39 then some (b.toNat - 0x30)
  else if 0x41 ≤ b && b ≤ 0x46 then some (b.toNat - 0x41 + 10)
  else if 0x61 ≤ b && b ≤ 0x66 then some (b.toNat - 0x61 + 10)
  else none

/-- The value of four hexadecimal digits. -/
def hex4Value? (a b c d : UInt8) : Option Nat := do
  let w ← hexDigitValue? a
  let x ← hexDigitValue? b
  let y ← hexDigitValue? c
  let z ← hexDigitValue? d
  pure (((w * 16 + x) * 16 + y) * 16 + z)

/-- The UTF-8 bytes of a code point, most significant first. -/
def utf8Bytes (n : Nat) : List UInt8 :=
  String.utf8EncodeChar (Char.ofNat n)

/-- The byte a one-character escape stands for. -/
def simpleEscape? (e : UInt8) : Option UInt8 :=
  if e == 0x22 then some 0x22
  else if e == 0x5C then some 0x5C
  else if e == 0x2F then some 0x2F
  else if e == 0x62 then some 0x08
  else if e == 0x66 then some 0x0C
  else if e == 0x6E then some 0x0A
  else if e == 0x72 then some 0x0D
  else if e == 0x74 then some 0x09
  else none

/-- A code point escape is a trailing surrogate. -/
def isTrailingSurrogate (n : Nat) : Bool := 0xDC00 ≤ n && n ≤ 0xDFFF

/-- A code point escape is a leading surrogate. -/
def isLeadingSurrogate (n : Nat) : Bool := 0xD800 ≤ n && n ≤ 0xDBFF

/-- Reads the rest of a string after its opening quote. `done` holds the bytes read (most recent
first) and `acc` the string's bytes so far (last first). Returns the string's bytes. A control
character is reported after it is read; four bytes after `\u` are read before their digits are
checked. -/
def stringBody (done acc : List UInt8) : List UInt8 → Except JsonError (List UInt8 × Cursor)
  | [] => .error (Cursor.error ⟨done, []⟩ .eofString)
  | 0x22 :: r => .ok (acc.reverse, ⟨0x22 :: done, r⟩)
  | 0x5C :: 0x75 :: a :: b :: c :: d :: r =>
    let done₁ := d :: c :: b :: a :: 0x75 :: 0x5C :: done
    match hex4Value? a b c d with
    | none => .error (Cursor.error ⟨done₁, r⟩ .invalidEscape)
    | some n =>
      if isTrailingSurrogate n then .error (Cursor.error ⟨done₁, r⟩ .loneSurrogate)
      else if !isLeadingSurrogate n then stringBody done₁ ((utf8Bytes n).reverse ++ acc) r
      else
        match r with
        | 0x5C :: 0x75 :: a₂ :: b₂ :: c₂ :: d₂ :: r₂ =>
          let done₂ := d₂ :: c₂ :: b₂ :: a₂ :: 0x75 :: 0x5C :: done₁
          match hex4Value? a₂ b₂ c₂ d₂ with
          | none => .error (Cursor.error ⟨done₂, r₂⟩ .invalidEscape)
          | some n₂ =>
            if !isTrailingSurrogate n₂ then
              .error (Cursor.error ⟨done₂, r₂⟩ .loneSurrogate)
            else
              let cp := (n - 0xD800) * 0x400 + (n₂ - 0xDC00) + 0x10000
              stringBody done₂ ((utf8Bytes cp).reverse ++ acc) r₂
        | 0x5C :: 0x75 :: short =>
          .error (Cursor.error ⟨short.reverse ++ 0x75 :: 0x5C :: done₁, []⟩ .eofString)
        | [0x5C] => .error (Cursor.error ⟨0x5C :: done₁, []⟩ .eofString)
        | 0x5C :: x :: r₂ =>
          .error (Cursor.error ⟨x :: 0x5C :: done₁, r₂⟩ .unexpectedEndOfHexEscape)
        | x :: r₂ => .error (Cursor.error ⟨x :: done₁, r₂⟩ .unexpectedEndOfHexEscape)
        | [] => .error (Cursor.error ⟨done₁, []⟩ .eofString)
  | 0x5C :: 0x75 :: short =>
    .error (Cursor.error ⟨short.reverse ++ 0x75 :: 0x5C :: done, []⟩ .eofString)
  | 0x5C :: e :: r =>
    match simpleEscape? e with
    | some v => stringBody (e :: 0x5C :: done) (v :: acc) r
    | none => .error (Cursor.error ⟨e :: 0x5C :: done, r⟩ .invalidEscape)
  | [0x5C] => .error (Cursor.error ⟨[0x5C] ++ done, []⟩ .eofString)
  | b :: r =>
    if b < 0x20 then .error (Cursor.error ⟨b :: done, r⟩ .controlCharacter)
    else stringBody (b :: done) (b :: acc) r

/-- Reads a string after its opening quote, as text. -/
def readStringBody (c : Cursor) : Except JsonError (String × Cursor) :=
  (stringBody c.consumed [] c.rest).map fun (bs, c') ↦ (stringOfUtf8Lossy bs, c')

/-- Skips the rest of a string after its opening quote, checking its escapes but not whether
surrogates pair up. A control character is reported before it is read. -/
def skipStringBody (done : List UInt8) : List UInt8 → Except JsonError Cursor
  | [] => .error (Cursor.error ⟨done, []⟩ .eofString)
  | 0x22 :: r => .ok ⟨0x22 :: done, r⟩
  | 0x5C :: 0x75 :: a :: b :: c :: d :: r =>
    let done₁ := d :: c :: b :: a :: 0x75 :: 0x5C :: done
    match hex4Value? a b c d with
    | none => .error (Cursor.error ⟨done₁, r⟩ .invalidEscape)
    | some _ => skipStringBody done₁ r
  | 0x5C :: 0x75 :: short =>
    .error (Cursor.error ⟨short.reverse ++ 0x75 :: 0x5C :: done, []⟩ .eofString)
  | 0x5C :: e :: r =>
    match simpleEscape? e with
    | some _ => skipStringBody (e :: 0x5C :: done) r
    | none => .error (Cursor.error ⟨e :: 0x5C :: done, r⟩ .invalidEscape)
  | [0x5C] => .error (Cursor.error ⟨[0x5C] ++ done, []⟩ .eofString)
  | b :: r =>
    if b < 0x20 then .error (Cursor.error ⟨done, b :: r⟩ .controlCharacter)
    else skipStringBody (b :: done) r

/-! ### Numbers -/

/-- An ASCII digit. -/
def isDigitByte (b : UInt8) : Bool := 0x30 ≤ b && b ≤ 0x39

/-- The value of an ASCII digit. -/
def digitValue (b : UInt8) : Nat := b.toNat - 0x30

/-- The leading ASCII digits of some bytes. -/
def digitRun (bs : List UInt8) : List UInt8 := bs.takeWhile isDigitByte

/-- The largest 64-bit unsigned value. -/
def maxWord64 : Nat := Nat.pow 2 64 - 1

/-- Appends digits to a value while it stays at most `bound`; returns the value and how many
digits were taken. -/
def accumulate (bound sig : Nat) : List UInt8 → Nat × Nat
  | [] => (sig, 0)
  | d :: ds =>
    let next := sig * 10 + digitValue d
    if bound < next then (sig, 0)
    else let (s, k) := accumulate bound next ds; (s, k + 1)

/-- Clamps an integer to the 32-bit signed range. -/
def clamp32 (x : Int) : Int := max (-(Int.pow 2 31)) (min x (Int.pow 2 31 - 1))

/-- The binary64 value of a power of ten up to `10^308`. -/
def pow10Binary (k : Nat) : Binary64 := Binary64.ofNat (Nat.pow 10 k)

/-- Scales a rounded significand by a power of ten, as described above; `fuel` bounds the steps
by `10^308`. -/
def scale (c : Cursor) : Nat → Binary64 → Int → Except JsonError Binary64
  | 0, f, _ => .ok f
  | fuel + 1, f, exp =>
    if exp.natAbs ≤ 308 then
      if 0 ≤ exp then
        let g := f.mul (pow10Binary exp.natAbs)
        if g.isInfinite then .error (c.error .numberOutOfRange) else .ok g
      else .ok (f.div (pow10Binary exp.natAbs))
    else if f.isZero then .ok f
    else if 0 ≤ exp then .error (c.error .numberOutOfRange)
    else scale c fuel (f.div (pow10Binary 308)) (exp + 308)

/-- The binary64 value of `± significand × 10^exp`, read up to the cursor. -/
def fromParts (c : Cursor) (positive : Bool) (sig : Nat) (exp : Int) : Except JsonError Binary64 :=
  (scale c 16 (Binary64.ofNat sig) exp).map fun f ↦ if positive then f else f.neg

/-- Reads an exponent after its `e`; `start` is the decimal exponent so far. -/
def exponentPart (c : Cursor) (positive : Bool) (sig : Nat) (start : Int) :
    Except JsonError (Binary64 × Cursor) :=
  let c₁ := c.bump
  let (positiveExp, c₂) :=
    match c₁.peek? with
    | some 0x2B => (true, c₁.bump)
    | some 0x2D => (false, c₁.bump)
    | _ => (true, c₁)
  match c₂.rest with
  | [] => .error (c₂.error .eofValue)
  | d :: r =>
    if !isDigitByte d then .error (c₂.bump.error .invalidNumber)
    else
      let ds := digitRun r
      -- the exponent is a 32-bit value; the first digit that would overflow it is read, and
      -- ends reading
      let (e, k) := accumulate (Nat.pow 2 31 - 1) (digitValue d) ds
      if k < ds.length then
        if sig ≠ 0 && positiveExp then .error ((c₂.advance (2 + k)).error .numberOutOfRange)
        else
          .ok (if positive then .finite false 0 0 else .finite true 0 0, c₂.advance (1 + ds.length))
      else
        let c₃ := c₂.advance (1 + ds.length)
        let final := clamp32 (if positiveExp then start + e else start - e)
        (fromParts c₃ positive sig final).map fun f ↦ (f, c₃)

/-- Reads the digits after a decimal point; `before` is the decimal exponent so far. -/
def decimalPart (c : Cursor) (positive : Bool) (sig : Nat) (before : Int) :
    Except JsonError (Binary64 × Cursor) :=
  let c₁ := c.bump
  let ds := digitRun c₁.rest
  let (sig', k) := accumulate maxWord64 sig ds
  let exp := before - k
  if k < ds.length then
    let c₂ := c₁.advance ds.length
    match c₂.peek? with
    | some 0x65 | some 0x45 => exponentPart c₂ positive sig' exp
    | _ => (fromParts c₂ positive sig' exp).map fun f ↦ (f, c₂)
  else if k = 0 then
    match c₁.peek? with
    | some _ => .error (c₁.peekError .invalidNumber)
    | none => .error (c₁.peekError .eofValue)
  else
    let c₂ := c₁.advance k
    match c₂.peek? with
    | some 0x65 | some 0x45 => exponentPart c₂ positive sig' exp
    | _ => (fromParts c₂ positive sig' exp).map fun f ↦ (f, c₂)

/-- What follows the integer digits of a number that fit 64 bits. -/
def afterInteger (c : Cursor) (positive : Bool) (sig : Nat) :
    Except JsonError (JsonNumber × Cursor) :=
  match c.peek? with
  | some 0x2E => (decimalPart c positive sig 0).map fun (f, c') ↦ (.float f, c')
  | some 0x65 | some 0x45 => (exponentPart c positive sig 0).map fun (f, c') ↦ (.float f, c')
  | _ =>
    if positive then .ok (.unsigned sig, c)
    else if sig = 0 then .ok (.float (.finite true 0 0), c)
    else if sig ≤ Nat.pow 2 63 then .ok (.signed (-(sig : Int)), c)
    else .ok (.float (Binary64.ofNat sig).neg, c)

/-- Reads a number after its optional minus sign. -/
def number (c : Cursor) (positive : Bool) : Except JsonError (JsonNumber × Cursor) :=
  match c.rest with
  | [] => .error (c.error .eofValue)
  | b :: r =>
    if b == 0x30 then
      match r with
      | d :: _ => if isDigitByte d then .error (c.bump.peekError .invalidNumber)
                  else afterInteger c.bump positive 0
      | [] => afterInteger c.bump positive 0
    else if isDigitByte b then
      let ds := digitRun r
      let (sig, k) := accumulate maxWord64 (digitValue b) ds
      if k < ds.length then
        let c₂ := c.advance (1 + ds.length)
        let extra : Int := ds.length - k
        match c₂.peek? with
        | some 0x2E => (decimalPart c₂ positive sig extra).map fun (f, c') ↦ (.float f, c')
        | some 0x65 | some 0x45 =>
          (exponentPart c₂ positive sig extra).map fun (f, c') ↦ (.float f, c')
        | _ => (fromParts c₂ positive sig extra).map fun f ↦ (.float f, c₂)
      else afterInteger (c.advance (1 + k)) positive sig
    else .error (c.bump.error .invalidNumber)

/-- Skips an exponent after its `e`, checking only its form. -/
def skipExponent (c : Cursor) : Except JsonError Cursor :=
  let c₁ := c.bump
  let c₂ := match c₁.peek? with
    | some 0x2B | some 0x2D => c₁.bump
    | _ => c₁
  match c₂.rest with
  | d :: r =>
    if isDigitByte d then .ok (c₂.advance (1 + (digitRun r).length))
    else .error (c₂.bump.error .invalidNumber)
  | [] => .error (c₂.error .invalidNumber)

/-- Skips a number after its optional minus sign, checking only its form. -/
def skipNumber (c : Cursor) : Except JsonError Cursor := do
  let c ←
    match c.rest with
    | 0x30 :: d :: _ =>
      if isDigitByte d then throw (c.bump.peekError .invalidNumber) else pure c.bump
    | [0x30] => pure c.bump
    | b :: r =>
      if isDigitByte b then pure (c.advance (1 + (digitRun r).length))
      else throw (c.bump.error .invalidNumber)
    | [] => throw (c.error .invalidNumber)
  match c.peek? with
  | some 0x2E =>
    let c₁ := c.bump
    let n := (digitRun c₁.rest).length
    if n = 0 then throw (c₁.peekError .invalidNumber)
    let c₂ := c₁.advance n
    match c₂.peek? with
    | some 0x65 | some 0x45 => skipExponent c₂
    | _ => pure c₂
  | some 0x65 | some 0x45 => skipExponent c
  | _ => pure c

end Cursor

end LabelQuery
