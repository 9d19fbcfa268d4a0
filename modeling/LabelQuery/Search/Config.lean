import LabelQuery.Text.Blank
import LabelQuery.Text.Quoted
/-!
# Search configuration

Which URL parameters carry the four search fields: the name, the page, the page size and the
labels. By default they are `name`, `page`, `pageSize` and `labels`. A configuration is usable
when no name is blank and no two fields share a name.
-/

namespace LabelQuery

open Text

/-- The names of the URL parameters of the four search fields. -/
structure ParamNames where
  /-- The parameter of the name filter. -/
  name : String := "name"
  /-- The parameter of the page number. -/
  page : String := "page"
  /-- The parameter of the page size. -/
  pageSize : String := "pageSize"
  /-- The parameter of the label selector. -/
  labels : String := "labels"
  deriving DecidableEq, Repr

/-- The settings of search queries. -/
structure SearchConfig where
  /-- The version of the settings' format. -/
  version : String := "1.0.0"
  /-- The parameter names. -/
  params : ParamNames := {}
  deriving DecidableEq, Repr

/-- Why a configuration was refused. -/
inductive ConfigError where
  /-- A parameter name is blank. -/
  | blankName
  /-- A parameter name is given to two fields. -/
  | repeatedName (name : String)
  /-- The configuration document could not be read; the reader's message. -/
  | unreadable (message : String)
  deriving DecidableEq, Repr

/-- What went wrong, in words. -/
def ConfigError.reason : ConfigError → String
  | .blankName => "query parameter names must not be empty"
  | .repeatedName n => "query parameter name " ++ quote n ++ " is used more than once"
  | .unreadable m => "invalid search query config: " ++ m

namespace ParamNames

/-- The four names, in field order. -/
def toList (n : ParamNames) : List String :=
  [n.name, n.page, n.pageSize, n.labels]

/-- The first name, in field order, that a later field repeats. -/
def firstRepeated? : List String → Option String
  | [] => none
  | n :: rest => if rest.contains n then some n else firstRepeated? rest

end ParamNames

/-- Checks that no name is blank, then that no two fields share a name. -/
def SearchConfig.validate (c : SearchConfig) : Except ConfigError Unit :=
  let names := c.params.toList
  if names.any fun n ↦ (trimChars n.toList).isEmpty then .error .blankName
  else
    match ParamNames.firstRepeated? names with
    | some n => .error (.repeatedName n)
    | none => .ok ()

end LabelQuery
