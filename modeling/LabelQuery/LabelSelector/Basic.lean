import LabelQuery.Labels
import LabelQuery.Selector.Match
import LabelQuery.Selector.Json
/-!
# Label selectors

The structured form of a selector: plain equality requirements are kept as a label set
(`matchLabels`), and every other rule in a list (`matchExpressions`). An equality rule moves
into the label set unless its key is there already, in which case it stays an expression, so
no requirement is lost.

The flat form lists the label requirements first, in key order, as equality rules, and then the
expressions in their order. The text of a label selector is that of its flat form.

A label selector can hold label requirements that are not tokens (the fields are open to
change); `validate` finds the first of them, and building the flat form trims them first.
-/

namespace LabelQuery

/-- A selector in structured form. -/
structure LabelSelector where
  /-- Equality requirements, one per key. -/
  matchLabels : Labels
  /-- All other requirements, in order. -/
  matchExpressions : List Rule

namespace LabelSelector

/-- The label selector without requirements. -/
def empty : LabelSelector := ⟨Labels.empty, []⟩

/-- Adds a rule: an equality rule for a key not yet required goes into the label set, any other
rule to the end of the expressions. -/
def add (s : LabelSelector) (r : Rule) : LabelSelector :=
  match r.op, r.value? with
  | .equals, some v =>
    if s.matchLabels.has r.key then ⟨s.matchLabels, s.matchExpressions ++ [r]⟩
    else ⟨s.matchLabels.insert r.key v, s.matchExpressions⟩
  | _, _ => ⟨s.matchLabels, s.matchExpressions ++ [r]⟩

/-- The structured form of a list of rules. -/
def ofRules (rs : List Rule) : LabelSelector :=
  rs.foldl add empty

/-- Reads a label selector from selector text. -/
def parse (text : String) : Except ParseError LabelSelector :=
  (Selector.parseRules text).map ofRules

/-- The flat form: an equality rule per required label, in key order, then the expressions. -/
def toRules (s : LabelSelector) : Except RuleError (List Rule) := do
  let labels ← s.matchLabels.entries.mapM fun e ↦ Rule.equals e.1 e.2
  pure (labels ++ s.matchExpressions)

/-- The first required label whose key or value is not a token. -/
def validate (s : LabelSelector) : Except RuleError Unit :=
  s.matchLabels.entries.forM fun e ↦
    if !isToken e.1 then .error (.badLabelKey e.1)
    else if !isToken e.2 then .error (.badLabelValue e.1 e.2)
    else .ok ()

/-- The selector has no requirements. -/
def isEmpty (s : LabelSelector) : Bool :=
  s.matchLabels.isEmpty && s.matchExpressions.isEmpty

/-- The text: `k = v` for each required label in key order, then the expressions, joined by
`,`. -/
def render (s : LabelSelector) : String :=
  ",".intercalate (s.matchLabels.entries.map (fun e ↦ e.1 ++ " = " ++ e.2) ++
    s.matchExpressions.map Rule.render)

/-- Every required label has its value, and every expression holds. -/
def selects (s : LabelSelector) (label? : String → Option String) : Bool :=
  s.matchLabels.entries.all (fun e ↦ label? e.1 == some e.2) &&
    s.matchExpressions.all fun r ↦ r.selects label?

/-- The JSON form: `matchLabels` and `matchExpressions`, each left out when empty. -/
def toJson (s : LabelSelector) : JsonValue :=
  .object ((if s.matchLabels.isEmpty then [] else [("matchLabels", s.matchLabels.toJson)]) ++
    if s.matchExpressions.isEmpty then [] else
      [("matchExpressions", .array (s.matchExpressions.map Rule.toJson))])

end LabelSelector

end LabelQuery
