import LabelQuery.Number.Shortest
import LabelQuery.Text.Quoted
/-!
# Errors of JSON reading

A JSON document is read against the shape a type expects, and the first thing that does not fit
is reported with its line and column: lines count from one, columns are bytes since the start
of the line.

*Syntax* errors are found by the scanner and always carry a position. *Data* errors — a value of
the wrong type, a missing or repeated field, an unknown operator name, a wrong number of array
items, or a value the type refuses — are found by the type's reader and get the position of the
innermost structured value (string, array, object) whose reading they end; a value refused at the
top level has no position.

A value of the wrong type is named by its kind: `null`, ``boolean `true` ``, ``integer `5` ``,
``floating point `1.5` `` (see `diagnosticFloat`), the string quoted as in other diagnostics,
`sequence` or `map`.
-/

namespace LabelQuery

open Text

/-- A number as JSON text gives it: a natural number, a negative integer, or a float. -/
inductive JsonNumber where
  /-- A non-negative integer that fits 64 bits. -/
  | unsigned (n : Nat)
  /-- A negative integer that fits 64 bits. -/
  | signed (n : Int)
  /-- Any other number, rounded to binary64. -/
  | float (x : Binary64)
  deriving Repr

/-- Floats in diagnostics: written positionally from `10^-5` up to below `10^16`, an integer
with `.0` after it; otherwise one digit, the other digits after a point, `e` and the exponent,
signed `+` when positive. -/
def diagnosticFloat : FloatFormat where
  lowest := -5
  highest := 16
  pointZero := true
  expMark := "e"
  plusExponent := true
  nan := "NaN"
  infinity := "inf"

/-- The kind of value found where another was expected. -/
inductive Unexpected where
  /-- `null` -/
  | null
  /-- `true` or `false` -/
  | bool (b : Bool)
  /-- A number. -/
  | number (n : JsonNumber)
  /-- A string. -/
  | string (s : String)
  /-- An array. -/
  | sequence
  /-- An object. -/
  | map
  deriving Repr

/-- How a value of the wrong kind is named. -/
def Unexpected.text : Unexpected → String
  | .null => "null"
  | .bool b => "boolean `" ++ (if b then "true" else "false") ++ "`"
  | .number (.unsigned n) => "integer `" ++ toString n ++ "`"
  | .number (.signed n) => "integer `" ++ toString n ++ "`"
  | .number (.float x) => "floating point `" ++ x.format diagnosticFloat ++ "`"
  | .string s => "string " ++ quote s
  | .sequence => "sequence"
  | .map => "map"

/-- What went wrong while reading JSON. -/
inductive JsonProblem where
  /-- The text ended where a value should start. -/
  | eofValue
  /-- The text ended inside an array. -/
  | eofList
  /-- The text ended inside an object. -/
  | eofObject
  /-- The text ended inside a string. -/
  | eofString
  /-- An object key is not followed by `:`. -/
  | expectedColon
  /-- An array item is followed by neither `,` nor `]`. -/
  | expectedListCommaOrEnd
  /-- An object member is followed by neither `,` nor `}`. -/
  | expectedObjectCommaOrEnd
  /-- A misspelt `null`, `true` or `false`. -/
  | expectedIdent
  /-- No value starts here. -/
  | expectedValue
  /-- A backslash escape that JSON does not have. -/
  | invalidEscape
  /-- A malformed number. -/
  | invalidNumber
  /-- A number too large for binary64. -/
  | numberOutOfRange
  /-- A control character inside a string. -/
  | controlCharacter
  /-- An object key that is not a string. -/
  | keyMustBeString
  /-- A surrogate escape without its partner. -/
  | loneSurrogate
  /-- A leading surrogate escape not followed by another escape. -/
  | unexpectedEndOfHexEscape
  /-- A comma before a closing bracket. -/
  | trailingComma
  /-- Text after the value. -/
  | trailingCharacters
  /-- A value of another kind than the type expects. -/
  | invalidType (found : Unexpected) (expected : String)
  /-- A required field is absent. -/
  | missingField (name : String)
  /-- A field is given twice. -/
  | duplicateField (name : String)
  /-- A name that is not one of the listed variants. -/
  | unknownVariant (name : String) (variants : List String)
  /-- An array with too few items for a structure. -/
  | invalidLength (count : Nat) (expected : String)
  /-- The type refused the value; its own message. -/
  | refused (message : String)
  /-- The reader gave up: nesting deeper than the text is long. -/
  | exhausted
  deriving Repr

/-- A list of names in backquotes, as `` `a`, `b` ``. -/
def backquoted (names : List String) : String :=
  ", ".intercalate (names.map fun n ↦ "`" ++ n ++ "`")

/-- What went wrong, in words. -/
def JsonProblem.text : JsonProblem → String
  | .eofValue => "EOF while parsing a value"
  | .eofList => "EOF while parsing a list"
  | .eofObject => "EOF while parsing an object"
  | .eofString => "EOF while parsing a string"
  | .expectedColon => "expected `:`"
  | .expectedListCommaOrEnd => "expected `,` or `]`"
  | .expectedObjectCommaOrEnd => "expected `,` or `\x7d`"
  | .expectedIdent => "expected ident"
  | .expectedValue => "expected value"
  | .invalidEscape => "invalid escape"
  | .invalidNumber => "invalid number"
  | .numberOutOfRange => "number out of range"
  | .controlCharacter => "control character (\\u0000-\\u001F) found while parsing a string"
  | .keyMustBeString => "key must be a string"
  | .loneSurrogate => "lone leading surrogate in hex escape"
  | .unexpectedEndOfHexEscape => "unexpected end of hex escape"
  | .trailingComma => "trailing comma"
  | .trailingCharacters => "trailing characters"
  | .invalidType found expected => "invalid type: " ++ found.text ++ ", expected " ++ expected
  | .missingField n => "missing field `" ++ n ++ "`"
  | .duplicateField n => "duplicate field `" ++ n ++ "`"
  | .unknownVariant n vs =>
    "unknown variant `" ++ n ++ "`, expected " ++
      match vs with
      | [] => "nothing"
      | [v] => "`" ++ v ++ "`"
      | [v, w] => "`" ++ v ++ "` or `" ++ w ++ "`"
      | _ => "one of " ++ backquoted vs
  | .invalidLength n expected => "invalid length " ++ toString n ++ ", expected " ++ expected
  | .refused m => m
  | .exhausted => "recursion limit exceeded"

/-- A problem and where it was found: a line and a byte column, when known. -/
structure JsonError where
  /-- What went wrong. -/
  problem : JsonProblem
  /-- The line (from one) and column (bytes from the line start). -/
  position : Option (Nat × Nat)
  deriving Repr

/-- The message of a JSON error: the problem, then its position when known. -/
def JsonError.message (e : JsonError) : String :=
  match e.position with
  | some (line, column) =>
    e.problem.text ++ " at line " ++ toString line ++ " column " ++ toString column
  | none => e.problem.text

end LabelQuery
