import LabelQuery.Text.Unprintable
/-!
# Quoted text in diagnostics

Error messages show keys, values and whole expressions in double quotes, so that blanks at the
ends and invisible characters can be seen. Inside the quotes:

* a double quote and a backslash are preceded by a backslash;
* tab, carriage return and line feed are written `\t`, `\r`, `\n`, and the null character `\0`;
* a character of the `isUnprintable` table is written as a backslash, `u`, and its code point in
  lower-case hexadecimal without leading zeros, in braces;
* every other character stands for itself, the single quote included.

## Main statements

* `quote_toList`: the quoted form is the quote mark, the written forms of the characters in
  order, and the quote mark.
-/

namespace LabelQuery.Text

/-- Lower-case hexadecimal digits of a number, most significant first, without leading zeros. -/
def hexDigits (n : Nat) : List Char :=
  Nat.toDigits 16 n

/-- How one character is written between double quotes. -/
def escapeChar (c : Char) : List Char :=
  if c = '\x00' then ['\\', '0']
  else if c = '\t' then ['\\', 't']
  else if c = '\r' then ['\\', 'r']
  else if c = '\n' then ['\\', 'n']
  else if c = '\\' then ['\\', '\\']
  else if c = '"' then ['\\', '"']
  else if isUnprintable c then ['\\', 'u', '\x7b'] ++ hexDigits c.toNat ++ ['\x7d']
  else [c]

/-- A string between double quotes, each character written by `escapeChar`. -/
def quote (s : String) : String :=
  String.ofList ('"' :: s.toList.flatMap escapeChar ++ ['"'])

@[simp] theorem quote_toList (s : String) :
    (quote s).toList = '"' :: s.toList.flatMap escapeChar ++ ['"'] := by
  simp [quote]

example : quote "a\"b\\c\td\x00" = "\"a\\\"b\\\\c\\td\\0\"" := by decide +kernel

end LabelQuery.Text
