import OracleCatalog.Settings.Basic
import OracleCatalog.Value.Members

/-!
# Reading settings

Settings come as keywords, which have to be known, or as a map from a configuration file, whose
unknown keys are kept among the extra settings. A map may spell five of the settings in camel case;
of two spellings of one setting the later one counts.
-/

namespace OracleCatalog

def Setting.name : Setting → String
  | .user => "user"
  | .password => "password"
  | .dsn => "dsn"
  | .host => "host"
  | .port => "port"
  | .serviceName => "service_name"
  | .schema => "schema"
  | .case => "case"
  | .objectName => "object_name"
  | .cacheMetadata => "cache_metadata"
  | .variant => "variant"
  | .autoincrement => "autoincrement"
  | .quoteIdentifiers => "quote_identifiers"
  | .sourceDialect => "source_dialect"
  | .extra => "extra"

def Setting.all : List Setting := [
  .user, .password, .dsn, .host, .port, .serviceName, .schema, .case, .objectName, .cacheMetadata,
  .variant, .autoincrement, .quoteIdentifiers, .sourceDialect, .extra]

def Setting.ofName? (name : String) : Option Setting := Setting.all.find? (·.name == name)

/-- The second spellings. -/
def Setting.aliases : List (String × Setting) := [
  ("objectName", .objectName), ("cacheMetadata", .cacheMetadata),
  ("quoteIdentifiers", .quoteIdentifiers), ("sourceDialect", .sourceDialect),
  ("serviceName", .serviceName)]

/-- The setting that a key of a map names in either spelling. -/
def Setting.ofKey? (key : Value) : Option Setting :=
  match key with
  | .text name => (Setting.aliases.lookup name).or (Setting.ofName? name)
  | _ => none

namespace Settings

def ofKeywords (keywords : Entries) : Except Error Settings := do
  let values ← keywords.mapM fun (key, value) =>
    match key with
    | .text name =>
      match Setting.ofName? name with
      | some setting => Except.ok (setting, value)
      | none => .error (.wrongKind ("got an unexpected keyword argument '" ++ name ++ "'"))
    | _ => .error (.wrongKind "keywords must be strings")
  ofValues (OrderedMap.ofEntries values)

/-- What reading a map collects: known settings and extra ones. -/
structure Collected where
  values : OrderedMap Setting Value := []
  extra : Entries := []

def Collected.add (collected : Collected) (entry : Value × Value) : Collected :=
  if entry.1.isText "extra" then collected
  else
    match Setting.ofKey? entry.1 with
    | some setting => { collected with values := collected.values.put setting entry.2 }
    | none => { collected with extra := collected.extra.put entry.1 entry.2 }

/-- A port given as digits becomes the number. -/
def readPort (port : Value) : Except Error Value :=
  match port with
  | .text s =>
    if !Text.allDigits s then .error (.refused .portDigits) else port.whole.map .int
  | v => .ok v

/-- The settings given as a map. -/
def ofEntries (entries : Entries) : Except Error Settings := do
  let given ← ((Value.fieldOrNull "extra" entries).orElse (.map [])).toEntries
  let collected := entries.foldl Collected.add { extra := given }
  let values ←
    match OrderedMap.get? Setting.port collected.values with
    | some port => (readPort port).map fun port => collected.values.put .port port
    | none => .ok collected.values
  let extra := if collected.extra.isEmpty then Value.null else .map collected.extra
  ofValues (values.put .extra extra)

/-- The settings that a value gives: null gives the defaults. -/
def ofValue : Value → Except Error Settings
  | .null => .ok {}
  | .map entries => ofEntries entries
  | v => .error (.noOperation v.kind "get")

/-- The settings as a map of their names. -/
def toDocument (settings : Settings) : Value :=
  document (settings.toValues.map fun (setting, v) => (setting.name, v))

end Settings

end OracleCatalog
