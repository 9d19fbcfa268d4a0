import LabelQuery.Selector.Basic
import LabelQuery.Search.Config
import LabelQuery.Json.Error
/-!
# Errors of the library

Every operation that can fail returns one of these causes. Each cause has a kind, which names the
family of failure, and a message, which says what went wrong in words and quotes the text that
caused it.
-/

namespace LabelQuery

open Text

/-- Every way an operation of the library can fail. -/
inductive Error where
  /-- Selector text could not be read. -/
  | parse (e : ParseError)
  /-- A rule, an operator or a label requirement was refused. -/
  | rule (e : RuleError)
  /-- A query parameter has a value that cannot be read. -/
  | param (name value : String)
  /-- A search configuration was refused. -/
  | config (e : ConfigError)
  /-- No configuration file is at the path. -/
  | missingFile (path : String)
  /-- A configuration file is not UTF-8 text. -/
  | notUtf8
  /-- A file path holds a NUL character, which no file name can contain. -/
  | nulInPath
  /-- A file path, or the first name looked up in it, is longer than the system accepts. -/
  | nameTooLong
  /-- A file path names a directory. -/
  | directory
  /-- A JSON document does not fit the type it is read as. -/
  | json (e : JsonError)
  deriving Repr

namespace Error

/-- The family of the failure. -/
def kind : Error → String
  | .parse _ => "Parse"
  | .rule _ => "InvalidRule"
  | .param .. => "InvalidParam"
  | .config _ => "Config"
  | .missingFile _ => "ConfigNotFound"
  | .notUtf8 => "Io"
  | .nulInPath => "Io"
  | .nameTooLong => "Io"
  | .directory => "Io"
  | .json _ => "Json"

/-- What went wrong, in words. -/
def message : Error → String
  | .parse e => "Invalid expression " ++ quote e.expression ++ ": " ++ e.reason.text
  | .rule e => e.message
  | .param name value => "Invalid query parameter " ++ name ++ "=" ++ quote value
  | .config e => "Config error: " ++ e.reason
  | .missingFile path => "Config file not found: " ++ path
  | .notUtf8 => "IO error: stream did not contain valid UTF-8"
  | .nulInPath => "IO error: file name contained an unexpected NUL byte"
  | .nameTooLong => "IO error: File name too long (os error 36)"
  | .directory => "IO error: Is a directory (os error 21)"
  | .json e => e.message

end Error

end LabelQuery
