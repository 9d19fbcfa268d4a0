import LabelQuery.Selector.Rule
import LabelQuery.Json.Value
import LabelQuery.Json.Reader
/-!
# Rules as JSON

A rule is written as an object with the fields `key`, `operator` (the operator's name) and
`values`, in that order; `values` is left out when it is empty.

Reading accepts the fields by name in any order, or as an array `[key, operator, values]`;
`values` may be left out. The operator must be given by its name. The rule is then built by
`Rule.new`, so JSON cannot hold a rule that text could not; a refusal is reported as the rule
error's message.
-/

namespace LabelQuery

/-- The JSON form of a rule. -/
def Rule.toJson (r : Rule) : JsonValue :=
  .object ([("key", .string r.key), ("operator", .string r.op.name)] ++
    if r.values.isEmpty then [] else [("values", JsonValue.strings r.values)])

/-- The fields of a rule as read from JSON, before the rule is built. -/
structure RuleFields where
  /-- The key, once read. -/
  key : Option String := none
  /-- The operator, once read. -/
  op : Option Operator := none
  /-- The values, once read. -/
  values : Option (List String) := none

namespace RuleFields

/-- The names of the operators, in order. -/
def operatorNames : List String := Operator.all.map Operator.name

/-- Reads an operator by its name. -/
def readOperator : JsonReader Operator := do
  let n ← JsonReader.unitVariant operatorNames
  match Operator.all.find? (·.name == n) with
  | some op => pure op
  | none => JsonReader.refuse (.unknownVariant n operatorNames)

/-- Reads the value of one member of a rule object. -/
def member (name : String) (st : RuleFields) : JsonReader RuleFields :=
  match name with
  | "key" =>
    if st.key.isSome then JsonReader.refuse (.duplicateField "key")
    else do return { st with key := some (← JsonReader.value JsonReader.string) }
  | "operator" =>
    if st.op.isSome then JsonReader.refuse (.duplicateField "operator")
    else do return { st with op := some (← JsonReader.value readOperator) }
  | "values" =>
    if st.values.isSome then JsonReader.refuse (.duplicateField "values")
    else do return { st with values := some (← JsonReader.value (JsonReader.array JsonReader.string)) }
  | _ => do JsonReader.value JsonReader.skip; pure st

/-- The fields of a rule object; a missing key or operator is an error. -/
def byName : JsonReader (String × Operator × List String) := do
  let st ← JsonReader.members member (← JsonReader.fuel) true {}
  let some key := st.key | JsonReader.refuse (.missingField "key")
  let some op := st.op | JsonReader.refuse (.missingField "operator")
  pure (key, op, st.values.getD [])

/-- What an array of rule fields is expected to be. -/
def expectedArray : String := "struct RawRule with 3 elements"

/-- The fields of a rule array: key, operator, and optionally values. -/
def inOrder : JsonReader (String × Operator × List String) := do
  let some key ← JsonReader.nextItem true JsonReader.string
    | JsonReader.refuse (.invalidLength 0 expectedArray)
  let some op ← JsonReader.nextItem false readOperator
    | JsonReader.refuse (.invalidLength 1 expectedArray)
  let values ← JsonReader.nextItem false (JsonReader.array JsonReader.string)
  pure (key, op, values.getD [])

end RuleFields

/-- Reads a rule from JSON and builds it. -/
def Rule.readJson : JsonReader Rule := do
  let (key, op, values) ← JsonReader.struct "RawRule" RuleFields.inOrder RuleFields.byName
  match Rule.new key op values with
  | .ok r => pure r
  | .error e => JsonReader.refuse (.refused e.message)

/-- Reads a rule from a JSON document. -/
def Rule.ofJson (text : String) : Except JsonError Rule :=
  JsonReader.document Rule.readJson text

end LabelQuery
