import OracleCatalog.Settings.Basic
import OracleCatalog.Text.Split
import OracleCatalog.Value.Members

/-!
# Names of tables and routines

Tables are looked up in capitals. The last segment of a name is the table and the one before it the
schema; a name of one segment belongs to the schema of the settings, if there is one.

A routine name has one to three segments: `OBJECT`, `PACKAGE.OBJECT` or `SCHEMA.PACKAGE.OBJECT`.
A name with more segments is one object whose name holds dots.
-/

namespace OracleCatalog

open OracleCatalog.Text

/-! ### Tables -/

/-- A table by name and schema; a schema that counts as false is none. -/
structure TableName where
  schema : Value := .null
  table : String

namespace TableName

/-- Splits a name, with the schema of the settings as the default. -/
def ofText (name : String) (defaultSchema : Value) : Except Error TableName :=
  match (segments '.' (upper name)).reverse with
  | table :: schema :: _ => .ok { schema := .text schema, table }
  | _ =>
    if defaultSchema.truthy then
      defaultSchema.toUpper.map fun schema => { schema, table := upper name }
    else .ok { table := upper name }

def ofValue (name : Value) (settings : Settings) : Except Error TableName :=
  match name.asText "upper" with
  | .ok text => ofText text settings.schema
  | .error e => .error e

def hasSchema (name : TableName) : Bool := name.schema.truthy

def toDocument (name : TableName) : Value :=
  document [("schema", name.schema), ("table", .text name.table)]

end TableName

/-! ### Routines -/

/-- A routine name by its segments. -/
structure RoutineName where
  object : String
  package : Option String := none
  schema : Option String := none
  deriving DecidableEq, Inhabited

def nonEmpty (qualifier : String) : Option String := if qualifier = "" then none else some qualifier

namespace RoutineName

/-- Splits a name at its dots. -/
def ofText (name : String) : RoutineName :=
  match segments '.' name with
  | [package, object] => { object, package := nonEmpty package }
  | [schema, package, object] =>
    { object, package := nonEmpty package, schema := nonEmpty schema }
  | _ => { object := name }

/-- Which qualifiers a name has. -/
inductive Qualification where
  | none
  /-- A package, or the schema of an object outside packages. -/
  | package
  /-- A schema and an empty package. -/
  | schema
  | schemaAndPackage
  deriving DecidableEq, Inhabited

/-- The qualifiers that a name has; an empty one is none. -/
def qualification (name : RoutineName) : Qualification :=
  match name.schema.bind nonEmpty, name.package.bind nonEmpty with
  | .none, .none => .none
  | .none, some _ => .package
  | some _, .none => .schema
  | some _, some _ => .schemaAndPackage

def isLocal (name : RoutineName) : Bool := name.qualification == .none

def toDocument (name : RoutineName) : Value := document [
  ("object", .text name.object), ("package", Value.ofText? name.package),
  ("schema", Value.ofText? name.schema), ("is_local", .bool name.isLocal)]

end RoutineName

end OracleCatalog
