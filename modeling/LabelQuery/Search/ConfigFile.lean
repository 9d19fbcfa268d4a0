import LabelQuery.Search.Config
import LabelQuery.Json.Reader
import LabelQuery.Error
/-!
# Search configuration documents

A search configuration is read from a JSON object with the optional fields `version` and
`params`; `params` is an object with the optional fields `name`, `page`, `pageSize` and
`labels`. Absent fields keep their defaults, unknown fields are skipped, and either object may
also be given as an array of its fields in order. The configuration read is then validated.

A configuration file is read through a *file source*, a function from a path to the file's
bytes, or to nothing when no file is there. The bytes must be UTF-8 text.
-/

namespace LabelQuery

namespace SearchConfig

/-- Reads one field of a structure whose fields all have defaults: refuses a second value. -/
def once {α : Type} (name : String) (seen : Bool) (r : JsonReader α) : JsonReader α :=
  if seen then JsonReader.refuse (.duplicateField name) else JsonReader.value r

/-- The parameter names read so far, and which were given. -/
structure NamesRead where
  /-- The names, defaults where none was given. -/
  names : ParamNames := {}
  /-- The fields given, by name. -/
  given : List String := []

/-- Reads one member of the parameter names object. -/
def NamesRead.member (key : String) (st : NamesRead) : JsonReader NamesRead := do
  let seen := st.given.contains key
  match key with
  | "name" => do
    let v ← once key seen JsonReader.string
    pure { names := { st.names with name := v }, given := key :: st.given }
  | "page" => do
    let v ← once key seen JsonReader.string
    pure { names := { st.names with page := v }, given := key :: st.given }
  | "pageSize" => do
    let v ← once key seen JsonReader.string
    pure { names := { st.names with pageSize := v }, given := key :: st.given }
  | "labels" => do
    let v ← once key seen JsonReader.string
    pure { names := { st.names with labels := v }, given := key :: st.given }
  | _ => do JsonReader.value JsonReader.skip; pure st

/-- Reads the parameter names. -/
def readNames : JsonReader ParamNames :=
  let byName : JsonReader ParamNames := do
    let st ← JsonReader.members NamesRead.member (← JsonReader.fuel) true {}
    pure st.names
  let inOrder : JsonReader ParamNames := do
    let d : ParamNames := {}
    let name ← JsonReader.nextItem true JsonReader.string
    let page ← JsonReader.nextItem false JsonReader.string
    let pageSize ← JsonReader.nextItem false JsonReader.string
    let labels ← JsonReader.nextItem false JsonReader.string
    pure ⟨name.getD d.name, page.getD d.page, pageSize.getD d.pageSize, labels.getD d.labels⟩
  JsonReader.struct "QueryParamNames" inOrder byName

/-- The configuration read so far, and which fields were given. -/
structure Read where
  /-- The configuration, defaults where nothing was given. -/
  config : SearchConfig := {}
  /-- The fields given, by name. -/
  given : List String := []

/-- Reads one member of the configuration object. -/
def Read.member (key : String) (st : Read) : JsonReader Read := do
  let seen := st.given.contains key
  match key with
  | "version" => do
    let v ← once key seen JsonReader.string
    pure { config := { st.config with version := v }, given := key :: st.given }
  | "params" => do
    let v ← once key seen readNames
    pure { config := { st.config with params := v }, given := key :: st.given }
  | _ => do JsonReader.value JsonReader.skip; pure st

/-- Reads a configuration. -/
def readJson : JsonReader SearchConfig :=
  let byName : JsonReader SearchConfig := do
    let st ← JsonReader.members Read.member (← JsonReader.fuel) true {}
    pure st.config
  let inOrder : JsonReader SearchConfig := do
    let d : SearchConfig := {}
    let version ← JsonReader.nextItem true JsonReader.string
    let params ← JsonReader.nextItem false readNames
    pure ⟨version.getD d.version, params.getD d.params⟩
  JsonReader.struct "SearchQueryConfig" inOrder byName

/-- Reads and validates a configuration from JSON text. -/
def ofJson (text : String) : Except Error SearchConfig := do
  let c ← (JsonReader.document readJson text).mapError fun e ↦ .config (.unreadable e.message)
  c.validate.mapError Error.config
  pure c

/-- Reads and validates a configuration from the bytes of a file, which must be UTF-8. -/
def ofBytes (bytes : List UInt8) : Except Error SearchConfig :=
  match Text.decodeUtf8? bytes with
  | some text => ofJson text
  | none => .error .notUtf8

/-- A source of files: the bytes at a path, or nothing when no file is there. -/
abbrev FileSource := String → Option (List UInt8)

/-- A path must have fewer bytes than this. -/
def pathLimit : Nat := 4096

/-- The most bytes one name in a path may have. -/
def nameLimit : Nat := 255

/-- The first name of a path that a lookup reads from a directory: names `.` and `..` and empty
names between slashes are steps the lookup takes without reading a directory. A path to a file
that is not there fails at this name, so the names after it are never read. -/
def firstLookedUp (path : String) : Option String :=
  ((path.splitOn "/").filter fun n ↦ n != "" && n != "." && n != "..").head?

/-- The path is longer than the system accepts, or its first looked-up name is. -/
def tooLong (path : String) : Bool :=
  pathLimit ≤ Text.byteLength path.toList ||
    match firstLookedUp path with
    | some n => nameLimit < Text.byteLength n.toList
    | none => false

/-- Loads a configuration file from a file source. A path with a NUL character names no file
and is refused before any file is looked up; so is a path of `pathLimit` bytes or more, or one
whose first looked-up name is longer than `nameLimit` bytes. A path of slashes, `.` and `..` alone
names a directory that is always there: the root, the working directory or one above it. -/
def load (files : FileSource) (path : String) : Except Error SearchConfig :=
  if path.toList.contains '\x00' then .error .nulInPath
  else if tooLong path then .error .nameTooLong
  else if path != "" && firstLookedUp path == none then .error .directory
  else
    match files path with
    | some bytes => ofBytes bytes
    | none => .error (.missingFile path)

end SearchConfig

end LabelQuery
