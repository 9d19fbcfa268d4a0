import LabelQuery.Text.Blank
import LabelQuery.Text.Quoted
import LabelQuery.Selector.Operator
/-!
# Rules

A rule is one requirement on a label set: a key, an operator, and the operator's values. Keys
and values are *tokens*: non-empty, without blanks, and without any of the characters
`( ) , ! = < >` that delimit them in selector text. Because of that, every rule can be written
as selector text and read back.

The only way to build a rule is `Rule.new`, which trims the key and the values and then checks,
in this order: the key is not empty, the key has no reserved character, the number of values
fits the operator, and every value is a token. The first failed check is the error. The
structure carries the proof that all checks passed.
-/

namespace LabelQuery

open Text

/-- **Reserved** characters delimit keys and values: blanks and `( ) , ! = < >`. -/
def isReserved (c : Char) : Bool :=
  isBlank c || c == '(' || c == ')' || c == ',' || c == '!' || c == '=' || c == '<' || c == '>'

/-- A **token** is a non-empty text without reserved characters: a key or a value. -/
def isToken (s : String) : Bool :=
  !s.toList.isEmpty && s.toList.all fun c ↦ !isReserved c

/-- The conditions on a rule: the key is a token, the number of values fits the operator, and
every value is a token. -/
def Rule.WellFormed (key : String) (op : Operator) (values : List String) : Prop :=
  isToken key = true ∧ op.arity.Admits values.length ∧ ∀ v ∈ values, isToken v = true

/-- One requirement on a label set. -/
structure Rule where
  /-- The label the rule is about. -/
  key : String
  /-- How the label's value is compared. -/
  op : Operator
  /-- The values it is compared with, in the order given. -/
  values : List String
  /-- The key and values are tokens, as many as the operator takes. -/
  wellFormed : Rule.WellFormed key op values

/-- Why a rule, an operator or a label requirement was refused. -/
inductive RuleError where
  /-- The key is empty after trimming. -/
  | emptyKey
  /-- The trimmed key holds a reserved character. -/
  | reservedKey (key : String)
  /-- The operator takes another number of values. -/
  | arity (op : Operator) (count : Nat)
  /-- A trimmed value is empty or holds a reserved character. -/
  | badValue (key value : String)
  /-- The text names no operator. -/
  | unknownOperator (text : String)
  /-- A required label's key is not a token. -/
  | badLabelKey (key : String)
  /-- A required label's value is not a token. -/
  | badLabelValue (key value : String)
  deriving DecidableEq, Repr

namespace RuleError

/-- What went wrong, in words. -/
def reason : RuleError → String
  | .emptyKey => "key must not be empty"
  | .reservedKey k => "key " ++ quote k ++ " contains reserved characters"
  | .arity op n =>
    match op.arity with
    | .unary => op.name ++ " takes no values"
    | .single => op.name ++ " takes exactly one value, got " ++ toString n
    | .set => op.name ++ " takes at least one value"
  | .badValue k v =>
    "value " ++ quote v ++ " for key " ++ quote k ++ " is empty or contains reserved characters"
  | .unknownOperator s => "unknown operator: " ++ s
  | .badLabelKey k => "label key " ++ quote k ++ " is empty or contains reserved characters"
  | .badLabelValue k v =>
    "value " ++ quote v ++ " for label " ++ quote k ++ " is empty or contains reserved characters"

/-- The full message of a refused rule. -/
def message (e : RuleError) : String :=
  "Invalid rule: " ++ e.reason

end RuleError

/-- Reads an operator's name or symbol, as a rule specification gives it. -/
def Operator.read (s : String) : Except RuleError Operator :=
  match Operator.ofText? s with
  | some op => .ok op
  | none => .error (.unknownOperator s)

namespace Rule

@[ext] theorem ext {r s : Rule} (hk : r.key = s.key) (ho : r.op = s.op)
    (hv : r.values = s.values) : r = s := by
  cases r; cases s; simp_all

instance : DecidableEq Rule := fun r s ↦
  if h : r.key = s.key ∧ r.op = s.op ∧ r.values = s.values then
    isTrue (Rule.ext h.1 h.2.1 h.2.2)
  else
    isFalse fun e ↦ h (e ▸ ⟨rfl, rfl, rfl⟩)

/-- Builds a rule from a key, an operator and values, after trimming the key and the values. -/
def new (key : String) (op : Operator) (values : List String) : Except RuleError Rule :=
  let k := trim key
  let vs := values.map trim
  if k.toList.isEmpty then .error .emptyKey
  else if hk : isToken k = false then .error (.reservedKey k)
  else if ha : op.arity.Admits vs.length then
    match hv : vs.find? (fun v ↦ !isToken v) with
    | some v => .error (.badValue k v)
    | none =>
      .ok ⟨k, op, vs, by simpa using hk, ha, fun v hm ↦ by
        simpa using List.find?_eq_none.mp hv v hm⟩
  else .error (.arity op vs.length)

/-- The rule `key`: the label is present. -/
def present (key : String) : Except RuleError Rule := new key .present []

/-- The rule `!key`: the label is absent. -/
def absent (key : String) : Except RuleError Rule := new key .absent []

/-- The rule `key = value`. -/
def equals (key value : String) : Except RuleError Rule := new key .equals [value]

/-- The rule `key != value`. -/
def notEquals (key value : String) : Except RuleError Rule := new key .notEquals [value]

/-- The rule `key in (values)`. -/
def isIn (key : String) (values : List String) : Except RuleError Rule := new key .isIn values

/-- The rule `key notin (values)`. -/
def notIn (key : String) (values : List String) : Except RuleError Rule := new key .notIn values

/-- The single value of a comparison rule (`=`, `!=`, `>`, `<`). -/
def value? (r : Rule) : Option String :=
  match r.op.arity with
  | .single => r.values.head?
  | _ => none

/-- The canonical text of a rule: `k`, `!k`, `k = v`, `k != v`, `k > v`, `k < v`,
`k in (a,b)`, `k notin (a)`. -/
def render (r : Rule) : String :=
  match r.op.symbol? with
  | none => if r.op = .absent then "!" ++ r.key else r.key
  | some sym =>
    match r.op.arity with
    | .set => r.key ++ " " ++ sym ++ " (" ++ ",".intercalate r.values ++ ")"
    | _ => r.key ++ " " ++ sym ++ " " ++ String.join r.values

end Rule

end LabelQuery
