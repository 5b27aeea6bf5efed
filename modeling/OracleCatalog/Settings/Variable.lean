import OracleCatalog.Settings.Reader
import OracleCatalog.Text.Case
import OracleCatalog.Text.Character

/-!
# Environment variables

Settings can be given by environment variables. Their values are texts: some settings are flags, the
port is a number if it has the digits of one, and every other setting takes the text as it is.
-/

namespace OracleCatalog

open OracleCatalog.Text

/-- Environment variables by name. -/
abbrev Variables := OrderedMap String String

/-- What the names of the variables start with. -/
def variableStem : String := "ORADIALECT_"

/-- The settings that variables give, and the ends of their names. -/
def Setting.variableNames : List (String × Setting) := [
  ("USER", .user), ("PASSWORD", .password), ("DSN", .dsn), ("HOST", .host), ("PORT", .port),
  ("SERVICE_NAME", .serviceName), ("SCHEMA", .schema), ("CASE", .case), ("VARIANT", .variant),
  ("AUTOINCREMENT", .autoincrement), ("QUOTE_IDENTIFIERS", .quoteIdentifiers),
  ("CACHE_METADATA", .cacheMetadata), ("SOURCE_DIALECT", .sourceDialect)]

def flagOf (s : String) : Bool := ["1", "true", "yes", "on"].contains (lower (trim s))

/-- Whether the text of the cache setting is a flag rather than a directory. -/
def isCacheFlag (s : String) : Bool := ["true", "false", "1", "0"].contains (lower s)

/-- The value of a setting that a text gives. -/
def Setting.ofVariable (setting : Setting) (s : String) : Except Error Value :=
  match setting with
  | .port => if allDigits s then (Value.text s).whole.map .int else .ok (.text s)
  | .autoincrement => .ok (.bool (flagOf s))
  | .quoteIdentifiers => .ok (.bool (flagOf s))
  | .cacheMetadata => .ok (if isCacheFlag s then .bool (flagOf s) else .text s)
  | _ => .ok (.text s)

/-- The settings that variables give, by name and in a fixed order. -/
def Variables.entries (vars : Variables) : Except Error Entries := do
  let given ← Setting.variableNames.mapM fun (ending, setting) =>
    match OrderedMap.get? (variableStem ++ ending) vars with
    | some s => (setting.ofVariable s).map fun v => some (Value.text setting.name, v)
    | none => .ok none
  return given.filterMap id

end OracleCatalog
