import OracleCatalog.Engine
import OracleCatalog.Literal
import OracleCatalog.Settings.Basic
import OracleCatalog.Value.Members

/-!
# Dialects

What decides the texts of definitions and statements: the settings of the connection and the
engine behind it.

An identifier is a sequence of segments between dots. With quoting on, every segment that does not
start with a double quote is put into double quotes.
-/

namespace OracleCatalog.Identifier

open OracleCatalog.Text

/-! ### Identifiers -/

/-- A segment in double quotes, unless it starts with one. -/
def quoteSegment : List Char → List Char
  | '"' :: cs => '"' :: cs
  | cs => '"' :: cs ++ ['"']

def quoteSegments (cs : List Char) : List Char := paste '.' ((cut '.' cs).map quoteSegment)

/-- An identifier as statements write it; the star is never quoted. -/
def quote (quoting : Bool) (name : String) : String :=
  if !quoting || name = "*" then name else String.ofList (quoteSegments name.toList)

/-- A value as statements write it; with quoting on it has to be a text. -/
def quoteValue (quoting : Bool) (name : Value) : Except Error Value :=
  if !quoting then .ok name
  else (name.asText "split").map fun s => .text (quote quoting s)

end OracleCatalog.Identifier

namespace OracleCatalog

/-! ### The settings and the engine -/

/-- The settings and the engine that texts are written for. -/
structure Dialect where
  settings : Settings := {}
  engine : Engine := {}

namespace Dialect

def ofSettings (settings : Settings) : Except Error Dialect :=
  (Engine.ofVariant settings.variant).map fun engine => { settings, engine }

def folding (dialect : Dialect) : CaseFolding := dialect.settings.folding

/-- A name as statements write it. -/
def quote (dialect : Dialect) (name : Value) : Except Error Value :=
  Identifier.quoteValue dialect.settings.quotes name

/-- The text of a name as statements write it. -/
def quoted (dialect : Dialect) (name : Value) : Except Error String :=
  (dialect.quote name).map (·.toText)

/-- Names as statements list them. -/
def quotedList (dialect : Dialect) (names : List Value) : Except Error String := do
  Value.joinTexts ", " (← names.mapM dialect.quote)

/-- A name that is put together with other texts and has to be one. -/
def quotedText (dialect : Dialect) (name : Value) : Except Error String := do
  (← dialect.quote name).operand

/-- Whether keys are generated by the column itself, which takes an engine that can and settings
that ask for it. -/
def useIdentity (dialect : Dialect) : Value :=
  if dialect.engine.identityColumns.truthy then .bool dialect.settings.autoincrement.truthy
  else dialect.engine.identityColumns

/-- Whether keys are generated by the column itself. -/
def usesIdentity (dialect : Dialect) : Bool := dialect.useIdentity.truthy

end Dialect

end OracleCatalog
