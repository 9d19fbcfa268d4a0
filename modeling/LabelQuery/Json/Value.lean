/-!
# JSON documents and their compact text

The JSON documents this library writes: strings, arrays and objects whose fields keep the order
they are given in. They are written compactly, without any blank between tokens.

A string is written between double quotes. Inside, `"` and `\` are preceded by a backslash;
backspace, form feed, line feed, carriage return and tab are written `\b`, `\f`, `\n`, `\r`,
`\t`; every other character below U+0020 is written `\u00` and two lower-case hexadecimal
digits; all other characters, DEL and non-ASCII included, stand for themselves.
-/

namespace LabelQuery

/-- A JSON document built for writing. -/
inductive JsonValue where
  /-- A string. -/
  | string (s : String)
  /-- An array, in order. -/
  | array (items : List JsonValue)
  /-- An object, its fields in the order given. -/
  | object (fields : List (String × JsonValue))
  deriving Repr, Inhabited

namespace JsonValue

/-- A lower-case hexadecimal digit. -/
def hexDigit (n : Nat) : Char :=
  if n < 10 then Char.ofNat ('0'.toNat + n) else Char.ofNat ('a'.toNat + n - 10)

/-- How one character is written inside a JSON string. -/
def escapeChar (c : Char) : List Char :=
  if c = '"' then ['\\', '"']
  else if c = '\\' then ['\\', '\\']
  else if c = '\x08' then ['\\', 'b']
  else if c = '\x0c' then ['\\', 'f']
  else if c = '\n' then ['\\', 'n']
  else if c = '\r' then ['\\', 'r']
  else if c = '\t' then ['\\', 't']
  else if c.toNat < 0x20 then ['\\', 'u', '0', '0', hexDigit (c.toNat / 16), hexDigit (c.toNat % 16)]
  else [c]

/-- A string as a JSON string literal. -/
def quoteString (s : String) : String :=
  String.ofList ('"' :: s.toList.flatMap escapeChar ++ ['"'])

mutual

/-- The compact text of a document. -/
def write : JsonValue → String
  | .string s => quoteString s
  | .array items => "[" ++ writeItems items ++ "]"
  | .object fields => "\x7b" ++ writeFields fields ++ "\x7d"

/-- The compact text of array items, separated by commas. -/
def writeItems : List JsonValue → String
  | [] => ""
  | [v] => write v
  | v :: rest => write v ++ "," ++ writeItems rest

/-- The compact text of object fields, separated by commas. -/
def writeFields : List (String × JsonValue) → String
  | [] => ""
  | [(k, v)] => quoteString k ++ ":" ++ write v
  | (k, v) :: rest => quoteString k ++ ":" ++ write v ++ "," ++ writeFields rest

end

/-- An array of strings. -/
def strings (xs : List String) : JsonValue :=
  .array (xs.map .string)

end JsonValue

end LabelQuery
