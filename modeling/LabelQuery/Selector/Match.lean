import LabelQuery.Selector.Basic
import LabelQuery.Number.Binary64
/-!
# Matching rules against labels

A rule is checked against a *lookup*: a function from a key to the label's value, if the label is
present. A label set, an association list or a hash map all give one. A selector matches when
every one of its rules does; the selector without rules matches everything.

* `key` and `!key` test presence and absence.
* `=` and `in` need the label present with one of the rule's values.
* `!=` needs the label present with none of the values; `notin` also holds when it is absent.
* `>` and `<` need the label present. Its value and the rule's value are compared as numbers when
  both read as binary64 numerals, and as text otherwise. A comparison with not-a-number holds
  neither way.
-/

namespace LabelQuery

/-- Compares two texts character by character, by code point. -/
def compareText (a b : String) : Ordering :=
  if a < b then .lt else if a = b then .eq else .gt

/-- The order of a label's value and a rule's value under `>` and `<`: as numbers when both
read as numerals, as text otherwise; `none` when a number is not-a-number. -/
def compareValues (a b : String) : Option Ordering :=
  match Binary64.read? a, Binary64.read? b with
  | some x, some y => x.compare? y
  | _, _ => some (compareText a b)

namespace Rule

/-- The rule holds of the labels that `label?` looks up. -/
def selects (r : Rule) (label? : String → Option String) : Bool :=
  match r.op, label? r.key with
  | .present, found => found.isSome
  | .absent, found => found.isNone
  | .equals, some x => r.values.any (· == x)
  | .isIn, some x => r.values.any (· == x)
  | .notEquals, some x => r.values.all (· != x)
  | .notIn, some x => r.values.all (· != x)
  | .notIn, none => true
  | .greaterThan, some x => (r.value?.bind (compareValues x)) == some .gt
  | .lessThan, some x => (r.value?.bind (compareValues x)) == some .lt
  | _, none => false

end Rule

/-- Every rule holds of the labels that `label?` looks up. -/
def Selector.selects (s : Selector) (label? : String → Option String) : Bool :=
  s.rules.all fun r ↦ r.selects label?

end LabelQuery
