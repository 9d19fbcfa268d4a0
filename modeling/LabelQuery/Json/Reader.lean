import LabelQuery.Json.Cursor
/-!
# Reading JSON documents into types

A reader walks a JSON document once, front to back, and builds a value of the type it reads as
it goes; it does not build a tree first. This fixes which of two faults is reported: the first
one met while reading.

Each structured reader follows the same steps. It skips blanks and looks at the next byte:
the end of the text is an error, a byte that starts a value of the wrong kind is read past and
reported as an invalid type, and the right bracket is read. The reader of the contents runs;
then the closing bracket is checked, *also when the contents failed*, and the first of the two
errors is kept. An error without a position (a data error) gets the position the cursor has
when its structured value is left.

A structure can be given as an object (fields by name, in any order, unknown names skipped, a
repeated name refused) or as an array (fields in order). Skipped values are checked for form but
not read.

The loops of the readers take as fuel the number of bytes left when they start (twice that for
skipping): every round reads at least one byte, so the fuel never runs out.
-/

namespace LabelQuery

/-- A reader of JSON text: it moves a cursor, and keeps the cursor where it stopped when it
fails. -/
abbrev JsonReader := ExceptT JsonError (StateM Cursor)

namespace JsonReader

/-- Runs a scanner at the cursor. -/
def scan {α : Type} (f : Cursor → Except JsonError (α × Cursor)) : JsonReader α := do
  match f (← get) with
  | .ok (a, c) => set c; pure a
  | .error e => throw e

/-- Skips blanks and returns the byte after them. -/
def peekBlank : JsonReader (Option UInt8) := do
  modify Cursor.skipBlanks
  return (← get).peek?

/-- Reads one byte. -/
def eat : JsonReader Unit := modify Cursor.bump

/-- Fails at the cursor. -/
def failHere {α : Type} (p : JsonProblem) : JsonReader α := do throw ((← get).error p)

/-- Fails in the byte under the cursor. -/
def failAhead {α : Type} (p : JsonProblem) : JsonReader α := do throw ((← get).peekError p)

/-- Gives an error without a position the cursor's position. -/
def placed (e : JsonError) : JsonReader JsonError := do
  match e.position with
  | some _ => pure e
  | none => pure { e with position := some (← get).position }

/-- Runs a reader; an error without a position gets the position where the reader stopped. -/
def placing {α : Type} (r : JsonReader α) : JsonReader α :=
  tryCatch r fun e ↦ do throw (← placed e)

/-- Runs a reader and returns its outcome, keeping the cursor where it stopped. -/
def attempt {α : Type} (r : JsonReader α) : JsonReader (Except JsonError α) :=
  tryCatch (Except.ok <$> r) fun e ↦ pure (.error e)

/-- The first error of a contents reader and its closing check. -/
def firstOf {α : Type} : Except JsonError α → Except JsonError Unit → JsonReader α
  | .ok a, .ok () => pure a
  | .error e, _ => throw e
  | .ok _, .error e => throw e

/-- A data error, to be placed later. -/
def refuse {α : Type} (p : JsonProblem) : JsonReader α := throw ⟨p, none⟩

/-- The fuel of a loop: the bytes left, plus one. -/
def fuel : JsonReader Nat := do return (← get).rest.length + 1

/-- The ASCII bytes of a text. -/
def asciiBytes (s : String) : List UInt8 := s.toList.map fun ch ↦ ch.toNat.toUInt8

/-! ### Values of the wrong kind -/

/-- Reads past the value under the cursor and names its kind in an invalid-type error; a byte
that starts no value is reported as such. -/
def invalidType (expected : String) : JsonReader JsonError := do
  let wrong (u : Unexpected) : JsonReader JsonError := placed ⟨.invalidType u expected, none⟩
  match (← get).peek? with
  | some 0x6E =>
    eat
    match Cursor.expectWord (← get) (asciiBytes "ull") with
    | .ok c => set c; wrong .null
    | .error e => pure e
  | some 0x74 =>
    eat
    match Cursor.expectWord (← get) (asciiBytes "rue") with
    | .ok c => set c; wrong (.bool true)
    | .error e => pure e
  | some 0x66 =>
    eat
    match Cursor.expectWord (← get) (asciiBytes "alse") with
    | .ok c => set c; wrong (.bool false)
    | .error e => pure e
  | some 0x2D =>
    eat
    match Cursor.number (← get) false with
    | .ok (n, c) => set c; wrong (.number n)
    | .error e => pure e
  | some 0x22 =>
    eat
    match Cursor.readStringBody (← get) with
    | .ok (s, c) => set c; wrong (.string s)
    | .error e => pure e
  | some 0x5B => wrong .sequence
  | some 0x7B => wrong .map
  | some b =>
    if Cursor.isDigitByte b then
      match Cursor.number (← get) true with
      | .ok (n, c) => set c; wrong (.number n)
      | .error e => pure e
    else return (← get).peekError .expectedValue
  | none => return (← get).peekError .expectedValue

/-! ### Strings -/

/-- Reads a string. -/
def string : JsonReader String := placing do
  match ← peekBlank with
  | none => failAhead .eofValue
  | some 0x22 => eat; scan Cursor.readStringBody
  | some _ => throw (← invalidType "a string")

/-- Reads `null`. -/
def unit : JsonReader Unit := placing do
  match ← peekBlank with
  | none => failAhead .eofValue
  | some 0x6E =>
    eat
    match Cursor.expectWord (← get) (asciiBytes "ull") with
    | .ok c => set c
    | .error e => throw e
  | some _ => throw (← invalidType "unit")

/-! ### Objects -/

/-- The next key of an object, or `none` at its closing brace (which is left unread). -/
def nextKey (first : Bool) : JsonReader (Option String) := do
  let peek ←
    match ← peekBlank with
    | some 0x7D => return none
    | some 0x2C => if first then pure (some 0x2C) else do eat; peekBlank
    | some b => if first then pure (some b) else failAhead .expectedObjectCommaOrEnd
    | none => failAhead .eofObject
  match peek with
  | some 0x22 => eat; some <$> scan Cursor.readStringBody
  | some 0x7D => failAhead .trailingComma
  | some _ => failAhead .keyMustBeString
  | none => failAhead .eofValue

/-- Reads the colon after a key. -/
def colon : JsonReader Unit := do
  match ← peekBlank with
  | some 0x3A => eat
  | some _ => failAhead .expectedColon
  | none => failAhead .eofObject

/-- Reads the colon after a key, then the value. -/
def value {α : Type} (r : JsonReader α) : JsonReader α := do
  colon
  r

/-- Reads the members of an object: each key is handed to `onKey` with the state so far, and
`onKey` reads the colon and the value (or refuses the key). -/
def members {σ : Type} (onKey : String → σ → JsonReader σ) : Nat → Bool → σ → JsonReader σ
  | 0, _, _ => refuse .exhausted
  | fuel + 1, first, st => do
    match ← nextKey first with
    | none => pure st
    | some k => members onKey fuel false (← onKey k st)

/-- Reads the closing brace of an object. -/
def closeObject : JsonReader Unit := do
  match ← peekBlank with
  | some 0x7D => eat
  | some 0x2C => failAhead .trailingComma
  | some _ => failAhead .trailingCharacters
  | none => failAhead .eofObject

/-! ### Arrays -/

/-- The next item of an array read by `r`, or `none` at its closing bracket (left unread). -/
def nextItem {α : Type} (first : Bool) (r : JsonReader α) : JsonReader (Option α) := do
  let peek ←
    match ← peekBlank with
    | some 0x5D => return none
    | some 0x2C => if first then pure (some 0x2C) else do eat; peekBlank
    | some b => if first then pure (some b) else failAhead .expectedListCommaOrEnd
    | none => failAhead .eofList
  match peek with
  | some 0x5D => failAhead .trailingComma
  | some _ => some <$> r
  | none => failAhead .eofValue

/-- Reads the items of an array, each by `r`. -/
def items {α : Type} (r : JsonReader α) : Nat → Bool → List α → JsonReader (List α)
  | 0, _, _ => refuse .exhausted
  | fuel + 1, first, acc => do
    match ← nextItem first r with
    | none => pure acc.reverse
    | some a => items r fuel false (a :: acc)

/-- Reads the closing bracket of an array; a comma before it is a trailing comma, anything
else is trailing text. -/
def closeArray : JsonReader Unit := do
  match ← peekBlank with
  | some 0x5D => eat
  | some 0x2C =>
    eat
    match ← peekBlank with
    | some 0x5D => failAhead .trailingComma
    | _ => failAhead .trailingCharacters
  | some _ => failAhead .trailingCharacters
  | none => failAhead .eofList

/-! ### Structured values -/

/-- Reads an array whose items are read by `r`. -/
def array {α : Type} (r : JsonReader α) : JsonReader (List α) := placing do
  match ← peekBlank with
  | none => failAhead .eofValue
  | some 0x5B =>
    eat
    let got ← attempt (do items r (← fuel) true [])
    firstOf got (← attempt closeArray)
  | some _ => throw (← invalidType "a sequence")

/-- Reads an object of string values into a list of pairs, in the order given. -/
def stringMap : JsonReader (List (String × String)) := placing do
  match ← peekBlank with
  | none => failAhead .eofValue
  | some 0x7B =>
    eat
    let onKey (k : String) (acc : List (String × String)) := do
      let v ← value string
      pure ((k, v) :: acc)
    let got ← attempt (do members onKey (← fuel) true [])
    (fun acc ↦ acc.reverse) <$> firstOf got (← attempt closeObject)
  | some _ => throw (← invalidType "a map")

/-- Reads a structure named `name`: `inOrder` reads its fields from an array, `byName` from an
object. -/
def struct {α : Type} (name : String) (inOrder byName : JsonReader α) : JsonReader α :=
  placing do
    match ← peekBlank with
    | none => failAhead .eofValue
    | some 0x5B =>
      eat
      let got ← attempt inOrder
      firstOf got (← attempt closeArray)
    | some 0x7B =>
      eat
      let got ← attempt byName
      firstOf got (← attempt closeObject)
    | some _ => throw (← invalidType ("struct " ++ name))

/-- Reads the name of a variant without data: a string that must be one of `names`. -/
def variantName (names : List String) : JsonReader String := placing do
  match ← peekBlank with
  | none => failAhead .eofValue
  | some 0x22 =>
    eat
    let s ← scan Cursor.readStringBody
    if names.contains s then pure s else refuse (.unknownVariant s names)
  | some _ => throw (← invalidType "variant identifier")

/-- Reads the key of a variant given as an object: a string that must be one of `names`. Any
other value in its place is refused as a key that is not a string; an object closed at once has
no variant. -/
def variantKey (names : List String) : JsonReader String := placing do
  match ← peekBlank with
  | some 0x22 =>
    eat
    let s ← scan Cursor.readStringBody
    if names.contains s then pure s else refuse (.unknownVariant s names)
  | some 0x7D => failAhead .expectedValue
  | some _ => failAhead .keyMustBeString
  | none => failAhead .eofObject

/-- Reads a variant without data, given as its name or as an object `{"name": null}`. -/
def unitVariant (names : List String) : JsonReader String := do
  match ← peekBlank with
  | some 0x7B =>
    eat
    let n ← variantKey names
    colon
    unit
    match ← peekBlank with
    | some 0x7D => eat; pure n
    | some _ => failHere .expectedValue
    | none => failHere .eofObject
  | some 0x22 => variantName names
  | some _ => failAhead .expectedValue
  | none => failAhead .eofValue

/-! ### Skipped values -/

/-- Skips a literal after its first byte. -/
def skipWord (rest : String) : JsonReader Unit := do
  match Cursor.expectWord (← get) (asciiBytes rest) with
  | .ok c => set c
  | .error e => throw e

/-- The bracket that closes a container opened by `frame`. -/
def closer (frame : UInt8) : UInt8 := if frame == 0x5B then 0x5D else 0x7D

/-- Skips values with an explicit stack of open containers (innermost first). In the
`afterValue` state a value or an opening bracket has just been read and the cursor looks for a
comma or a closing bracket of `frame`; `acceptComma` is false right after an opening bracket. -/
def skipLoop : Nat → List UInt8 → Option (UInt8 × Bool) → JsonReader Unit
  | 0, _, _ => refuse .exhausted
  | fuel + 1, stack, none => do
    -- a value starts here
    let opened ←
      match ← peekBlank with
      | none => failAhead .eofValue
      | some 0x6E => eat; skipWord "ull"; pure none
      | some 0x74 => eat; skipWord "rue"; pure none
      | some 0x66 => eat; skipWord "alse"; pure none
      | some 0x2D => eat; set (← scan fun c ↦ (Cursor.skipNumber c).map fun c' ↦ (c', c')); pure none
      | some 0x22 => eat; set (← scan fun c ↦ (Cursor.skipStringBody c.consumed c.rest).map fun c' ↦ (c', c')); pure none
      | some 0x5B => eat; pure (some 0x5B)
      | some 0x7B => eat; pure (some 0x7B)
      | some b =>
        if Cursor.isDigitByte b then
          set (← scan fun c ↦ (Cursor.skipNumber c).map fun c' ↦ (c', c')); pure none
        else failAhead .expectedValue
    match opened with
    | some frame => skipLoop fuel stack (some (frame, false))
    | none =>
      match stack with
      | [] => pure ()
      | frame :: outer => skipLoop fuel outer (some (frame, true))
  | fuel + 1, stack, some (frame, acceptComma) => do
    match ← peekBlank with
    | some 0x2C =>
      if acceptComma then
        eat
        skipMember fuel stack frame
      else skipMember fuel stack frame
    | some b =>
      if b == closer frame then
        eat
        match stack with
        | [] => pure ()
        | outer :: rest => skipLoop fuel rest (some (outer, true))
      else if acceptComma then
        failAhead (if frame == 0x5B then .expectedListCommaOrEnd else .expectedObjectCommaOrEnd)
      else skipMember fuel stack frame
    | none => failAhead (if frame == 0x5B then .eofList else .eofObject)
where
  /-- Before the next member of `frame`: in an object, its key and colon; then its value. -/
  skipMember (fuel : Nat) (stack : List UInt8) (frame : UInt8) : JsonReader Unit := do
    if frame == 0x7B then
      match ← peekBlank with
      | some 0x22 => eat
      | some _ => failAhead .keyMustBeString
      | none => failAhead .eofObject
      set (← scan fun c ↦ (Cursor.skipStringBody c.consumed c.rest).map fun c' ↦ (c', c'))
      match ← peekBlank with
      | some 0x3A => eat
      | some _ => failAhead .expectedColon
      | none => failAhead .eofObject
    skipLoop fuel (frame :: stack) none

/-- Skips one value, checking its form. A round of the loop reads a byte or hands over to one
that does, so twice the bytes left is fuel enough. -/
def skip : JsonReader Unit := do
  skipLoop (2 * (← fuel)) [] none

/-! ### Documents -/

/-- Checks that only blanks follow the value. -/
def finish : JsonReader Unit := do
  match ← peekBlank with
  | some _ => failAhead .trailingCharacters
  | none => pure ()

/-- Reads a whole document: the value, then nothing but blanks. -/
def document {α : Type} (r : JsonReader α) (text : String) : Except JsonError α :=
  let whole : JsonReader α := do
    let a ← r
    finish
    pure a
  (ExceptT.run whole |>.run (Cursor.ofBytes (Text.encodeUtf8 text))).1

end JsonReader

end LabelQuery
