import LabelQuery.Selector.Expression
/-!
# Cutting selector text into fragments

A selector is a comma-separated list of rules, but a value list `(a,b)` holds commas of its own.
The text is therefore cut only at commas outside parentheses, counting the depth of nesting as it
goes. Each piece is trimmed and must not be blank.

The cut fails at the first of these, scanning left to right: a `)` with no `(` open (reported at
its byte), a blank piece (reported at the byte where the piece starts, when the comma that ends
it is reached), a `(` still open at the end, and a blank last piece.
-/

namespace LabelQuery

open Text

namespace Fragment

/-- The trimmed text of a piece that starts at byte `start`; a blank piece is an error. -/
def close (start : Nat) (piece : List Char) : Except ParseReason String :=
  let t := trimChars piece
  if t.isEmpty then .error (.emptyAt start) else .ok (String.ofList t)

/-- Cuts characters at commas outside parentheses. The current piece started at byte `start`
and holds `piece` so far, the next character stands at byte `offset`, and `depth` parentheses
are open. -/
def cutFrom (depth start offset : Nat) (piece : List Char) :
    List Char → Except ParseReason (List String)
  | [] =>
    if depth > 0 then .error .unclosed
    else do
      let f ← close start piece
      pure [f]
  | c :: cs =>
    if c = '(' then cutFrom (depth + 1) start (offset + 1) (piece ++ [c]) cs
    else if c = ')' then
      if depth = 0 then .error (.unopened offset)
      else cutFrom (depth - 1) start (offset + 1) (piece ++ [c]) cs
    else if c = ',' ∧ depth = 0 then do
      let f ← close start piece
      let fs ← cutFrom 0 (offset + 1) (offset + 1) [] cs
      pure (f :: fs)
    else cutFrom depth start (offset + c.utf8Size) (piece ++ [c]) cs

/-- The trimmed fragments of selector text, cut at commas outside parentheses. -/
def cut (s : String) : Except ParseReason (List String) :=
  cutFrom 0 0 0 [] s.toList

end Fragment

end LabelQuery
