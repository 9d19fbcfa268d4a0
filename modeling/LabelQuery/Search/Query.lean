import LabelQuery.Search.Params
import LabelQuery.Number.Decimal
import LabelQuery.Error
/-!
# Search queries

The search fields carried by URL query parameters: a name filter, a page number, a page size and
a label selector, each under the parameter name its configuration gives.

Reading takes the first value of each parameter. An empty name is no name. A page is trimmed
and, unless blank, must be an unsigned 32-bit numeral; a page size that is not one is ignored.
The labels are kept as raw text: they are read as a selector only when a rule is edited, and
raw text that cannot be read is then dropped for the empty selector. Setting the labels from
text reads them at once, and text that cannot be read changes nothing.

Writing back starts from the parameters the query was read from and never changes them: each
field is `set` when it has a value (a non-empty name, a positive page or page size, non-empty
labels) and erased otherwise.
-/

namespace LabelQuery

open Text

/-- A search query and the parameters it was read from. -/
structure SearchQuery where
  /-- The parameter names in use. -/
  config : SearchConfig := {}
  /-- The parameters the query was read from. -/
  source : QueryParams := QueryParams.empty
  /-- The name filter. -/
  name : Option String := none
  /-- The page number. -/
  page : Option Nat := none
  /-- The page size. -/
  pageSize : Option Nat := none
  /-- The label selector as raw text, until its rules are edited. -/
  rawLabels : String := ""
  /-- The label selector's rules, once they have been edited or set. -/
  rules : Option Selector := none

namespace SearchQuery

/-- Reads a page number given under the parameter `name`: absent or blank is no page, and
anything else must be an unsigned 32-bit numeral once trimmed. -/
def readPage (name : String) (value? : Option String) : Except Error (Option Nat) :=
  match value?.map trim with
  | none => pure none
  | some raw =>
    if raw.isEmpty then pure none
    else
      match readWord32? raw with
      | some n => pure (some n)
      | none => throw (.param name raw)

/-- Reads the search fields from parameters, under the names of a configuration. -/
def withConfig (params : QueryParams) (config : SearchConfig) : Except Error SearchQuery := do
  config.validate.mapError Error.config
  let names := config.params
  let page ← readPage names.page (params.get? names.page)
  pure {
    config
    source := params
    name := (params.get? names.name).filter fun n ↦ !n.isEmpty
    page
    pageSize := ((params.get? names.pageSize).map trim).bind readWord32?
    rawLabels := (params.get? names.labels).getD "" }

/-- Reads the search fields from parameters under the default names. -/
def ofParams (params : QueryParams) : Except Error SearchQuery :=
  withConfig params {}

/-- Reads the search fields from a query string under the default names. -/
def parse (query : String) : Except Error SearchQuery :=
  ofParams (QueryParams.parse query)

/-- The selector text: the canonical text of the rules once they are set, else the raw text. -/
def labels (q : SearchQuery) : String :=
  match q.rules with
  | some s => s.render
  | none => q.rawLabels

/-- The current selector: the rules once they are set, else the raw text read now. -/
def selector (q : SearchQuery) : Except ParseError Selector :=
  match q.rules with
  | some s => .ok s
  | none => Selector.parse q.rawLabels

/-- Sets the labels from text: blank text clears them, other text must read as a selector. -/
def trySetLabels (q : SearchQuery) (value : String) : Except ParseError SearchQuery :=
  if (trimChars value.toList).isEmpty then .ok { q with rules := none, rawLabels := "" }
  else (Selector.parse value).map fun s ↦ { q with rules := some s, rawLabels := value }

/-- Sets the labels from text, keeping the query as it was when the text cannot be read. -/
def setLabels (q : SearchQuery) (value : String) : SearchQuery :=
  match q.trySetLabels value with
  | .ok q' => q'
  | .error _ => q

/-- The selector that rule edits start from: the rules if set, else the raw text if it can be
read, else the empty selector. -/
def editable (q : SearchQuery) : Selector :=
  match q.rules with
  | some s => s
  | none =>
    match Selector.parse q.rawLabels with
    | .ok s => s
    | .error _ => Selector.empty

/-- Appends a rule, keeping the rules already there for its key. -/
def pushRule (q : SearchQuery) (r : Rule) : SearchQuery :=
  { q with rules := some (q.editable.push r) }

/-- Puts a rule in place of all rules for its key. -/
def replaceRule (q : SearchQuery) (r : Rule) : SearchQuery :=
  { q with rules := some (q.editable.replaceKey r) }

/-- Drops all rules for a key; returns how many were dropped. -/
def eraseRules (q : SearchQuery) (key : String) : Nat × SearchQuery :=
  let (n, s) := q.editable.eraseKey key
  (n, { q with rules := some s })

/-- Sets the name filter. -/
def setName (q : SearchQuery) (name : Option String) : SearchQuery := { q with name }

/-- Sets the page number. -/
def setPage (q : SearchQuery) (page : Option Nat) : SearchQuery := { q with page }

/-- Sets the page size. -/
def setPageSize (q : SearchQuery) (pageSize : Option Nat) : SearchQuery := { q with pageSize }

/-- Sets a parameter to a value when there is one, and erases it otherwise. -/
def setOrErase (p : QueryParams) (key : String) : Option String → QueryParams
  | some v => p.set key v
  | none => p.erase key

/-- The parameters of the query: its source with each search field written back. -/
def toParams (q : SearchQuery) : QueryParams :=
  let names := q.config.params
  let p := setOrErase q.source names.name (q.name.filter fun n ↦ !n.isEmpty)
  let p := setOrErase p names.page ((q.page.filter (0 < ·)).map toString)
  let p := setOrErase p names.pageSize ((q.pageSize.filter (0 < ·)).map toString)
  let l := q.labels
  setOrErase p names.labels (if l.isEmpty then none else some l)

/-- The query string of the query. -/
def toQueryString (q : SearchQuery) : String :=
  q.toParams.encode

end SearchQuery

end LabelQuery
