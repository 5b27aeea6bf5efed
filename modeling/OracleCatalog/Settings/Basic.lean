import OracleCatalog.Value.Whole

/-!
# Settings

The settings of a connection: where to connect, how the catalog is read, and how statements are
written. Two settings are checked: the case option is unset or `lower`, and the port is a number
from 1 to 65535. Every other setting may hold any value.
-/

namespace OracleCatalog

/-- What happens to the letter case of names read from the catalog. -/
inductive CaseFolding where
  | asIs
  | lower
  deriving DecidableEq, Inhabited

/-- The settings by name. -/
inductive Setting where
  | user | password | dsn | host | port | serviceName
  | schema | case | objectName | cacheMetadata
  | variant | autoincrement | quoteIdentifiers | sourceDialect
  | extra
  deriving DecidableEq, Inhabited

instance : LawfulBEq Setting where
  eq_of_beq h := of_decide_eq_true h
  rfl := decide_eq_true rfl

/-- The settings of a connection. -/
structure Settings where
  user : Value := .null
  password : Value := .null
  dsn : Value := .null
  host : Value := .null
  port : Value := .null
  serviceName : Value := .null
  schema : Value := .null
  folding : CaseFolding := .asIs
  /-- The routine that a listing is restricted to. -/
  objectName : Value := .null
  /-- Whether descriptions of routines are cached; a text is the directory that holds them. -/
  cacheMetadata : Value := .bool false
  variant : Value := .text "oracle12"
  autoincrement : Value := .bool true
  quoteIdentifiers : Value := .bool false
  /-- The dialect that statements are converted from. -/
  sourceDialect : Value := .null
  /-- Settings that belong to nobody here. -/
  extra : Value := .null
  deriving Inhabited

/-! ### Checks -/

def CaseFolding.ofValue (option : Value) : Except Error CaseFolding :=
  match option with
  | .null => .ok .asIs
  | .text "lower" => .ok .lower
  | v => .error (.refused (.caseOption v.toText))

/-- The case option of a setting. -/
def CaseFolding.toValue : CaseFolding → Value
  | .asIs => .null
  | .lower => .text "lower"

/-- A port that is null or a number in range. -/
def checkPort (port : Value) : Except Error Unit :=
  if port.isNull then .ok ()
  else
    match port, port.number? with
    | .decimal (.nan ..), _ => .error (.signaled .invalidOperation)
    | port, none => .error (.wrongKind ("'<=' not supported between instances of 'int' and '" ++
        port.qualifiedKind ++ "'"))
    | _, some n =>
      if Value.Number.atMost (.finite 1 1 0) n && n.atMost (.finite 65535 1 0) then .ok ()
      else .error (.refused .portRange)

namespace Settings

/-- The settings with the given values, defaults for the rest. -/
def ofValues (values : OrderedMap Setting Value) : Except Error Settings := do
  let base : Settings := {}
  let pick (setting : Setting) (default : Value) : Value :=
    (OrderedMap.get? setting values).getD default
  let folding ← CaseFolding.ofValue (pick .case .null)
  checkPort (pick .port .null)
  return {
    user := pick .user base.user
    password := pick .password base.password
    dsn := pick .dsn base.dsn
    host := pick .host base.host
    port := pick .port base.port
    serviceName := pick .serviceName base.serviceName
    schema := pick .schema base.schema
    folding
    objectName := pick .objectName base.objectName
    cacheMetadata := pick .cacheMetadata base.cacheMetadata
    variant := pick .variant base.variant
    autoincrement := pick .autoincrement base.autoincrement
    quoteIdentifiers := pick .quoteIdentifiers base.quoteIdentifiers
    sourceDialect := pick .sourceDialect base.sourceDialect
    extra := pick .extra base.extra }

/-- The settings as a map of their names. -/
def toValues (settings : Settings) : OrderedMap Setting Value := [
  (.user, settings.user), (.password, settings.password), (.dsn, settings.dsn),
  (.host, settings.host), (.port, settings.port), (.serviceName, settings.serviceName),
  (.schema, settings.schema), (.case, settings.folding.toValue),
  (.objectName, settings.objectName), (.cacheMetadata, settings.cacheMetadata),
  (.variant, settings.variant), (.autoincrement, settings.autoincrement),
  (.quoteIdentifiers, settings.quoteIdentifiers), (.sourceDialect, settings.sourceDialect),
  (.extra, settings.extra)]

/-! ### What settings say -/

def folds (settings : Settings) : Bool := settings.folding == .lower

def quotes (settings : Settings) : Bool := settings.quoteIdentifiers.truthy

/-- The connect descriptor: the given one, else host, port and service put together, else null. -/
def target (settings : Settings) : Value :=
  if settings.dsn.truthy then settings.dsn
  else if !settings.host.truthy then .null
  else
    let host := settings.host
    let withPort :=
      if settings.port.truthy then .text (host.toText ++ ":" ++ settings.port.toText) else host
    if settings.serviceName.truthy then
      .text (withPort.toText ++ "/" ++ settings.serviceName.toText)
    else withPort

end Settings

end OracleCatalog
