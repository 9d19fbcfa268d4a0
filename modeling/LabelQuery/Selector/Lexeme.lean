import LabelQuery.Text.Utf8
import LabelQuery.Selector.Rule
/-!
# Lexemes of selector text

One fragment of selector text, such as `env in (prod, dev)`, is read as a list of lexemes: words,
comparison symbols, `!`, parentheses and commas. Blanks between lexemes are skipped. A word is a
longest run of characters that are not reserved. `=` followed by `=` is the one symbol `==`, and
`!` followed by `=` is `!=`; a lone `!` is the negation mark.

Every lexeme carries the UTF-8 byte offset at which its text starts, which error messages report.

## Main statements

* `scan_nil`: the empty text has no lexemes.
-/

namespace LabelQuery

open Text

/-- The comparison symbols of selector text. -/
inductive Symbol where
  /-- `=` -/
  | eq
  /-- `==` -/
  | eqEq
  /-- `!=` -/
  | ne
  /-- `>` -/
  | gt
  /-- `<` -/
  | lt
  deriving DecidableEq, Repr

/-- The text of a comparison symbol. -/
def Symbol.text : Symbol → String
  | .eq => "="
  | .eqEq => "=="
  | .ne => "!="
  | .gt => ">"
  | .lt => "<"

/-- One lexeme of selector text. -/
inductive Lexeme where
  /-- A longest run of characters that are not reserved. -/
  | word (text : String)
  /-- A comparison symbol. -/
  | symbol (s : Symbol)
  /-- `!` not followed by `=`. -/
  | bang
  /-- `(` -/
  | openParen
  /-- `)` -/
  | closeParen
  /-- `,` -/
  | comma
  deriving DecidableEq, Repr

namespace Lexeme

/-- The text the lexeme was read from. -/
def text : Lexeme → String
  | .word w => w
  | .symbol s => s.text
  | .bang => "!"
  | .openParen => "("
  | .closeParen => ")"
  | .comma => ","

/-- How a lexeme is named in an error message: a word in double quotes, anything else in
single quotes. -/
def describe : Lexeme → String
  | .word w => quote w
  | l => "'" ++ l.text ++ "'"

/-- The operator that the lexeme names when it follows a key. -/
def operator? : Lexeme → Option Operator
  | .word w => Operator.ofSymbol? w
  | .symbol s => Operator.ofSymbol? s.text
  | _ => none

end Lexeme

/-- A lexeme and the byte offset at which its text starts. -/
structure Token where
  /-- What was read. -/
  lexeme : Lexeme
  /-- The UTF-8 byte offset of its first character. -/
  offset : Nat
  deriving DecidableEq, Repr

/-- The run of characters that continue a word: the longest prefix without reserved
characters. -/
def wordRun (cs : List Char) : List Char :=
  cs.takeWhile fun d ↦ !isReserved d

/-- What follows the run of characters that continue a word. -/
def afterWordRun (cs : List Char) : List Char :=
  cs.dropWhile fun d ↦ !isReserved d

theorem wordRun_append_afterWordRun (cs : List Char) : wordRun cs ++ afterWordRun cs = cs :=
  List.takeWhile_append_dropWhile

theorem length_afterWordRun_le (cs : List Char) : (afterWordRun cs).length ≤ cs.length :=
  (List.dropWhile_suffix _).length_le

/-- Reads the lexeme that starts with the non-blank character `c`, followed by `cs`; returns it
with the characters after it. -/
def readLexeme (c : Char) (cs : List Char) : Lexeme × { r : List Char // r.length ≤ cs.length } :=
  if c = '(' then (.openParen, ⟨cs, Nat.le_refl _⟩)
  else if c = ')' then (.closeParen, ⟨cs, Nat.le_refl _⟩)
  else if c = ',' then (.comma, ⟨cs, Nat.le_refl _⟩)
  else if c = '>' then (.symbol .gt, ⟨cs, Nat.le_refl _⟩)
  else if c = '<' then (.symbol .lt, ⟨cs, Nat.le_refl _⟩)
  else if c = '=' then
    if cs.head? = some '=' then (.symbol .eqEq, ⟨cs.tail, by simp⟩)
    else (.symbol .eq, ⟨cs, Nat.le_refl _⟩)
  else if c = '!' then
    if cs.head? = some '=' then (.symbol .ne, ⟨cs.tail, by simp⟩)
    else (.bang, ⟨cs, Nat.le_refl _⟩)
  else (.word (String.ofList (c :: wordRun cs)), ⟨afterWordRun cs, length_afterWordRun_le cs⟩)

/-- The lexemes of a list of characters whose first character stands at byte `offset`. Blanks
are skipped; each lexeme's offset grows by the byte length of the text before it. -/
def scan (offset : Nat) : List Char → List Token
  | [] => []
  | c :: cs =>
    if isBlank c then scan (offset + c.utf8Size) cs
    else
      match readLexeme c cs with
      | (l, ⟨rest, _⟩) => ⟨l, offset⟩ :: scan (offset + byteLength l.text.toList) rest
termination_by cs => cs.length
decreasing_by all_goals simp_wf <;> omega

theorem scan_nil (offset : Nat) : scan offset [] = [] :=
  scan.eq_1 offset

/-- The lexemes of a fragment of selector text, with offsets from its start. -/
def tokenize (s : String) : List Token :=
  scan 0 s.toList

end LabelQuery
