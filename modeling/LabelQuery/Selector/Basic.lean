import LabelQuery.Selector.Fragment
/-!
# Selectors

A selector is an ordered list of rules, all of which must hold. Its text is the rules' canonical
texts joined by `,`; reading text cuts it into fragments at top-level commas and reads one rule
from each. Reading is all or nothing: the first fragment that cannot be read fails the whole
selector. Blank text is the selector with no rules.

Rules for one key are edited as a group: `replaceKey` puts a rule in place of all the rules for
its key, at the position of the first of them, and `eraseKey` drops them all.
-/

namespace LabelQuery

open Text

/-- An ordered, conjunctive list of rules. -/
structure Selector where
  /-- The rules, in order. -/
  rules : List Rule
  deriving DecidableEq

namespace Selector

/-- The selector without rules. -/
def empty : Selector := ⟨[]⟩

instance : Inhabited Selector := ⟨empty⟩

/-- The canonical text of a list of rules: their texts joined by `,`. -/
def renderRules (rs : List Rule) : String :=
  ",".intercalate (rs.map Rule.render)

/-- The canonical text of a selector. -/
def render (s : Selector) : String :=
  renderRules s.rules

/-- Reads the rules of selector text. -/
def parseRules (s : String) : Except ParseError (List Rule) :=
  if (trimChars s.toList).isEmpty then .ok []
  else
    match Fragment.cut s with
    | .error e => .error ⟨s, e⟩
    | .ok fs => fs.mapM Rule.parse

/-- Reads a selector from its text. -/
def parse (s : String) : Except ParseError Selector :=
  (parseRules s).map Selector.mk

/-- The number of rules. -/
def length (s : Selector) : Nat := s.rules.length

/-- The selector has no rules. -/
def isEmpty (s : Selector) : Bool := s.rules.isEmpty

/-- Appends a rule; rules for the same key are kept. -/
def push (s : Selector) (r : Rule) : Selector := ⟨s.rules ++ [r]⟩

/-- Puts `r` in place of every rule for its key: at the position of the first of them, or at
the end when there is none. -/
def replaceKey (s : Selector) (r : Rule) : Selector :=
  let kept := s.rules.filter fun q ↦ q.key != r.key
  match s.rules.findIdx? fun q ↦ q.key == r.key with
  | some i => ⟨kept.insertIdx i r⟩
  | none => ⟨kept ++ [r]⟩

/-- Drops every rule for `key`; returns how many were dropped, and the selector. -/
def eraseKey (s : Selector) (key : String) : Nat × Selector :=
  let kept := s.rules.filter fun q ↦ q.key != key
  (s.rules.length - kept.length, ⟨kept⟩)

end Selector

end LabelQuery
