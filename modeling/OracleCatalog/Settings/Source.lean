import OracleCatalog.Journal
import OracleCatalog.Settings.Variable
import OracleCatalog.Toml.Reader

/-!
# Loading settings

Settings are loaded from a configuration file and from environment variables, which come first. The
file may hold one connection for every name or a table of connections by name. A file that is not
there or cannot be read counts as empty, with a record of it.
-/

namespace OracleCatalog

/-- What stands in the place of the configuration file. -/
inductive SettingsFile where
  | absent
  /-- Something that cannot be read at all. -/
  | unreadable
  | text (content : String)
  deriving DecidableEq, Inhabited

/-! ### Looking into tables -/

/-- A table inside a value that has to be one itself; an empty table where the key is missing. -/
def tableUnder (key : String) (v : Value) : Except Error Value :=
  match v with
  | .map entries => .ok (fieldOr (.map []) key entries)
  | v => .error (.noOperation v.kind "get")

/-- Whether a value holds a text: as a key, as an item, or as a part. -/
def holdsText (s : String) : Value → Except Error Bool
  | .map entries => .ok (OrderedMap.has (Value.text s) entries)
  | .list items => .ok (items.any (·.isText s))
  | .text t => .ok (Text.contains s.toList t.toList)
  | v => .error (.wrongKind ("argument of type '" ++ v.kind ++ "' is not iterable"))

def underKey (key : String) : Value → Except Error Value
  | .map entries => Value.field key entries
  | v => .error (.wrongKind (v.kind ++ " indices must be integers"))

/-! ### Connections of a file -/

/-- The entries of a connection in the tables of a file; none where no connection has the name. -/
def connectionEntries (tables : Entries) (name : Value) : Except Error (Option Entries) := do
  let tool ← tableUnder "oradialect" (← tableUnder "tool" (.map tables))
  if ← holdsText "connection" tool then return some (← (← underKey "connection" tool).toEntries)
  match ← tableUnder "connections" tool with
  | .map connections =>
    match OrderedMap.get? (← name.asKey) connections with
    | some entries => return some (← entries.toEntries)
    | none => return none
  | _ => return none

namespace SettingsFile

/-- The tables of a file, with a record of why there are none. -/
def tables? (file : SettingsFile) : Noted (Option Entries) := do
  let unreadable : Noted (Option Entries) := do
    Noted.note .settings .warning "Could not read pyproject.toml: "
    return none
  match file with
  | .absent =>
    Noted.note .settings .debug "No pyproject.toml found"
    return none
  | .unreadable => unreadable
  | .text content =>
    match Toml.read content with
    | .ok tables => return some tables
    | .error .malformed => unreadable
    | .error (.tooLong digits) => throw (.refused (.numeralTooLong digits))

def entries (file : SettingsFile) (name : Value) : Noted Entries := do
  match ← file.tables? with
  | none => return []
  | some tables =>
    match ← Noted.ofExcept (connectionEntries tables name) with
    | some entries => return entries
    | none =>
      Noted.note .settings .debug
        ("No connection configuration '" ++ name.toText ++ "' found in pyproject.toml")
      return []

end SettingsFile

/-- Loads the settings of the connection of a name; variables count before the file. -/
def Settings.load (file : SettingsFile) (vars : Variables) (name : Value) :
    Noted Settings := do
  let entries ← file.entries name
  Noted.ofExcept do Settings.ofEntries (OrderedMap.update entries (← vars.entries))

end OracleCatalog
