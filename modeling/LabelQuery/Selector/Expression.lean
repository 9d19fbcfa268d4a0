import LabelQuery.Selector.Lexeme
/-!
# Reading one rule from its text

A fragment of selector text holds one rule, in one of three shapes:

* `key`, or `!key`: a presence test;
* `key op value`, where `op` is `=`, `==`, `!=`, `>` or `<`;
* `key op (v₁, …, vₙ)` with `n ≥ 1`, where `op` is the word `in` or `notin`.

The fragment is trimmed, cut into lexemes, and read left to right. Every reader returns what it
read together with the lexemes after it, so that a reader's result can be followed by another's.
A lexeme left over after the rule is an error of its own. The rule is built by `Rule.new`, so a
rule read from text satisfies the same checks as one built by hand.

Errors say what was expected and what was found there, with the byte offset of the lexeme in the
trimmed fragment.
-/

namespace LabelQuery

open Text

/-- What the reader looked for. -/
inductive Expected where
  /-- The key at the start of a rule. -/
  | key
  /-- The key after the negation mark. -/
  | keyAfterBang
  /-- A value after an operator or inside a value list. -/
  | value
  deriving DecidableEq, Repr

/-- How the expected thing is named in an error message. -/
def Expected.text : Expected → String
  | .key => "label key"
  | .keyAfterBang => "label key after '!'"
  | .value => "value"

/-- Why selector text could not be read. -/
inductive ParseReason where
  /-- The text is blank. -/
  | empty
  /-- A fragment between two top-level commas, starting at this byte, is blank. -/
  | emptyAt (offset : Nat)
  /-- A closing parenthesis at this byte has no opening one. -/
  | unopened (offset : Nat)
  /-- An opening parenthesis is never closed. -/
  | unclosed
  /-- A lexeme follows a complete rule. -/
  | leftover (t : Token)
  /-- The lexeme after the key names no operator. -/
  | unknownOperator (t : Token)
  /-- A word was expected; another lexeme was found, or the text ended. -/
  | expected (what : Expected) (found : Option Token)
  /-- A membership operator is not followed by `(`. -/
  | noValueList
  /-- A value list is `()`. -/
  | emptyValueList
  /-- A value in a list is followed by neither `,` nor `)`. -/
  | badValueListSeparator
  /-- The rule that was read is refused by `Rule.new`. -/
  | invalidRule (e : RuleError)
  deriving DecidableEq, Repr

/-- The reason of a parse error, in words. -/
def ParseReason.text : ParseReason → String
  | .empty => "empty expression"
  | .emptyAt n => "empty expression near byte " ++ toString n
  | .unopened n => "unexpected ')' near byte " ++ toString n
  | .unclosed => "missing closing ')'"
  | .leftover t => "unexpected " ++ t.lexeme.describe ++ " near byte " ++ toString t.offset
  | .unknownOperator t =>
    "unknown operator " ++ t.lexeme.describe ++ " near byte " ++ toString t.offset
  | .expected what (some t) =>
    "expected " ++ what.text ++ " but found " ++ t.lexeme.describe ++ " near byte " ++
      toString t.offset
  | .expected what none => "expected " ++ what.text ++ " but reached end of expression"
  | .noValueList => "expected '(' to open the value list"
  | .emptyValueList => "value list must not be empty"
  | .badValueListSeparator => "expected ',' or ')' in the value list"
  | .invalidRule e => e.message

/-- A parse error: the text it is about, and why it could not be read. -/
structure ParseError where
  /-- The selector, or the trimmed fragment, that could not be read. -/
  expression : String
  /-- What went wrong. -/
  reason : ParseReason
  deriving DecidableEq, Repr

namespace Rule

/-- Reads a word, or says what was found instead. -/
def expectWord (what : Expected) : List Token → Except ParseReason (String × List Token)
  | ⟨.word w, _⟩ :: rest => .ok (w, rest)
  | t :: _ => .error (.expected what (some t))
  | [] => .error (.expected what none)

/-- Reads the rest of a value list after its first value: `, value` repeated, then `)`. -/
def valuesAfterFirst : List Token → Except ParseReason (List String × List Token)
  | ⟨.closeParen, _⟩ :: rest => .ok ([], rest)
  | ⟨.comma, _⟩ :: ⟨.word v, _⟩ :: rest =>
    match valuesAfterFirst rest with
    | .ok (vs, rest') => .ok (v :: vs, rest')
    | .error e => .error e
  | ⟨.comma, _⟩ :: t :: _ => .error (.expected .value (some t))
  | [⟨.comma, _⟩] => .error (.expected .value none)
  | _ => .error .badValueListSeparator

/-- Reads a parenthesized, comma-separated, non-empty list of values. -/
def valueList : List Token → Except ParseReason (List String × List Token)
  | ⟨.openParen, _⟩ :: ⟨.closeParen, _⟩ :: _ => .error .emptyValueList
  | ⟨.openParen, _⟩ :: rest => do
    let (v, rest) ← expectWord .value rest
    let (vs, rest) ← valuesAfterFirst rest
    pure (v :: vs, rest)
  | _ => .error .noValueList

/-- Builds the rule that was read; a refusal by `Rule.new` becomes a parse reason. -/
def build (key : String) (op : Operator) (values : List String) : Except ParseReason Rule :=
  (Rule.new key op values).mapError .invalidRule

/-- Reads one rule from the front of a list of lexemes; returns it with the lexemes after it. -/
def read : List Token → Except ParseReason (Rule × List Token)
  | ⟨.bang, _⟩ :: rest => do
    let (key, rest) ← expectWord .keyAfterBang rest
    let r ← build key .absent []
    pure (r, rest)
  | ts => do
    let (key, rest) ← expectWord .key ts
    match rest with
    | [] =>
      let r ← build key .present []
      pure (r, [])
    | t :: rest =>
      match t.lexeme.operator? with
      | none => .error (.unknownOperator t)
      | some op =>
        match op.arity with
        | .set =>
          let (vs, rest) ← valueList rest
          let r ← build key op vs
          pure (r, rest)
        | _ =>
          let (v, rest) ← expectWord .value rest
          let r ← build key op [v]
          pure (r, rest)

/-- Reads a fragment of selector text that holds exactly one rule. -/
def parse (s : String) : Except ParseError Rule :=
  let t := trim s
  if t.toList.isEmpty then .error ⟨s, .empty⟩
  else
    match read (tokenize t) with
    | .error e => .error ⟨t, e⟩
    | .ok (r, []) => .ok r
    | .ok (_, tok :: _) => .error ⟨t, .leftover tok⟩

end Rule

end LabelQuery
