import LabelQuery.LabelSelector.Basic
import LabelQuery.Selector.Json
/-!
# Label selectors as JSON

A label selector is read from an object with the optional fields `matchLabels` (an object of
string values) and `matchExpressions` (an array of rules), or from an array of the two. The
required labels are then checked to be tokens, as `validate` does, so a label selector read from
JSON always has text that reads back.
-/

namespace LabelQuery

namespace LabelSelector

/-- The fields of a label selector as read from JSON. -/
structure Fields where
  /-- The required labels, once read. -/
  labels : Option (List (String × String)) := none
  /-- The expressions, once read. -/
  expressions : Option (List Rule) := none

/-- Reads the value of one member of a label selector object. -/
def Fields.member (name : String) (st : Fields) : JsonReader Fields :=
  match name with
  | "matchLabels" =>
    if st.labels.isSome then JsonReader.refuse (.duplicateField "matchLabels")
    else do return { st with labels := some (← JsonReader.value JsonReader.stringMap) }
  | "matchExpressions" =>
    if st.expressions.isSome then JsonReader.refuse (.duplicateField "matchExpressions")
    else do return { st with expressions := some (← JsonReader.value (JsonReader.array Rule.readJson)) }
  | _ => do JsonReader.value JsonReader.skip; pure st

/-- The label selector of the fields read, absent fields empty. -/
def Fields.build (st : Fields) : LabelSelector :=
  ⟨Labels.ofList (st.labels.getD []), st.expressions.getD []⟩

/-- Reads a label selector from JSON and validates its required labels. -/
def readJson : JsonReader LabelSelector := do
  let byName : JsonReader Fields := do
    JsonReader.members Fields.member (← JsonReader.fuel) true {}
  let inOrder : JsonReader Fields := do
    let labels ← JsonReader.nextItem true JsonReader.stringMap
    let expressions ← JsonReader.nextItem false (JsonReader.array Rule.readJson)
    pure { labels, expressions }
  let st ← JsonReader.struct "RawLabelSelector" inOrder byName
  let s := st.build
  match s.validate with
  | .ok () => pure s
  | .error e => JsonReader.refuse (.refused e.message)

/-- Reads a label selector from a JSON document. -/
def ofJson (text : String) : Except JsonError LabelSelector :=
  JsonReader.document readJson text

end LabelSelector

end LabelQuery
