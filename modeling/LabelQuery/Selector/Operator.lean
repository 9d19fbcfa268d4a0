/-!
# Operators of selector rules

A rule compares the value of one label with a list of values. The operator says how, and how many
values it takes (its *arity*): the two presence tests take none, the four comparisons one, and
the two membership tests at least one.

Six operators are written in selector text as a symbol between key and values. `=` has a second
spelling `==`; `in` and `notin` are words. The two presence tests have no symbol: they are
written as the bare key and as the key after `!`.

## Main statements

* `ofSymbol?_symbol?`: reading back an operator's canonical symbol gives the operator.
* `symbol?_eq_none_iff`: exactly the two presence tests have no symbol.
-/

namespace LabelQuery

/-- How many values a rule with a given operator carries. -/
inductive Arity where
  /-- No values: `key`, `!key`. -/
  | unary
  /-- Exactly one value: `key = v`. -/
  | single
  /-- One value or more: `key in (a,b)`. -/
  | set
  deriving DecidableEq, Repr

namespace Arity

/-- The name of an arity, as it is reported. -/
def name : Arity → String
  | .unary => "Unary"
  | .single => "Single"
  | .set => "Set"

/-- A number of values fits the arity. -/
def Admits : Arity → Nat → Prop
  | .unary, n => n = 0
  | .single, n => n = 1
  | .set, n => 0 < n

instance : ∀ a n, Decidable (Admits a n)
  | .unary, _ => inferInstanceAs (Decidable (_ = _))
  | .single, _ => inferInstanceAs (Decidable (_ = _))
  | .set, _ => inferInstanceAs (Decidable (_ < _))

end Arity

/-- A selector operator. -/
inductive Operator where
  /-- The label is present. -/
  | present
  /-- The label is absent. -/
  | absent
  /-- The label is present with the given value. -/
  | equals
  /-- The label is present with another value. -/
  | notEquals
  /-- The label is present with one of the values. -/
  | isIn
  /-- The label is absent or has none of the values. -/
  | notIn
  /-- The label is present and above the value. -/
  | greaterThan
  /-- The label is present and below the value. -/
  | lessThan
  deriving DecidableEq, Repr

namespace Operator

/-- Every operator, in the order they are listed and looked up by name. -/
def all : List Operator :=
  [.present, .absent, .equals, .notEquals, .isIn, .notIn, .greaterThan, .lessThan]

theorem mem_all (op : Operator) : op ∈ all := by
  cases op <;> decide

/-- The operator's name, as it is displayed. -/
def name : Operator → String
  | .present => "Exists"
  | .absent => "DoesNotExist"
  | .equals => "Equals"
  | .notEquals => "NotEquals"
  | .isIn => "In"
  | .notIn => "NotIn"
  | .greaterThan => "GreaterThan"
  | .lessThan => "LessThan"

/-- How many values the operator takes. -/
def arity : Operator → Arity
  | .present | .absent => .unary
  | .equals | .notEquals | .greaterThan | .lessThan => .single
  | .isIn | .notIn => .set

/-- The canonical symbol written between key and values; the presence tests have none. -/
def symbol? : Operator → Option String
  | .equals => some "="
  | .notEquals => some "!="
  | .greaterThan => some ">"
  | .lessThan => some "<"
  | .isIn => some "in"
  | .notIn => some "notin"
  | .present | .absent => none

/-- Reads a written symbol. Case matters, and `==` is a second spelling of `=`. -/
def ofSymbol? (s : String) : Option Operator :=
  if s = "=" ∨ s = "==" then some .equals
  else if s = "!=" then some .notEquals
  else if s = ">" then some .greaterThan
  else if s = "<" then some .lessThan
  else if s = "in" then some .isIn
  else if s = "notin" then some .notIn
  else none

/-- Reads an operator's name or one of its symbols; case matters. -/
def ofText? (s : String) : Option Operator :=
  match all.find? (fun op ↦ op.name == s) with
  | some op => some op
  | none => ofSymbol? s

theorem ofSymbol?_symbol? {op : Operator} {s : String} (h : op.symbol? = some s) :
    ofSymbol? s = some op := by
  cases op <;> simp [symbol?] at h <;> subst h <;> decide

theorem symbol?_eq_none_iff {op : Operator} : op.symbol? = none ↔ op.arity = .unary := by
  cases op <;> simp [symbol?, arity]

theorem ofText?_name (op : Operator) : ofText? op.name = some op := by
  cases op <;> decide

end Operator

end LabelQuery
