import OracleCatalog.Dialect
import OracleCatalog.Table.Basic

/-!
# Column definitions

A column definition is the name, the declared type, the identity clause of the one column that
generates its own keys, a default, and whether nulls are refused. A column that takes nulls has null
as its default.
-/

namespace OracleCatalog

/-- The column of a primary key of one integer column. -/
def Table.integerKey? (table : Table) : Option Column :=
  match table.primaryKey with
  | [name] => (table.column? name).filter (·.type.isInteger)
  | _ => none

namespace Definition

/-- The clause of a column that generates its own keys. -/
def identityClause : String := " GENERATED BY DEFAULT AS IDENTITY (START WITH 1)"

def isOn (default : Value) : Except Error Bool := do
  return (← default.isNumber 1) || default == .text "1" || default == .text "true"

def defaultClause (column : Column) : Except Error String := do
  if column.nullable.truthy then return " DEFAULT NULL"
  else if column.default.isNull || column.type == .timestamp then return ""
  else if column.type == .boolean then
    return " DEFAULT " ++ (if ← isOn column.default then "1" else "0")
  else return " DEFAULT " ++ Literal.ofValue column.default

def sizeOf (column : Column) : TypeSize :=
  { length := column.length, precision := column.precision
    scale := column.scale, fixed := column.fixed }

def isIdentity (dialect : Dialect) (table : Table) (column : Column) : Bool :=
  dialect.usesIdentity && table.integerKey?.any (·.name == column.name)

def column (dialect : Dialect) (table : Table) (name : Value) : Except Error String := do
  match table.column? name with
  | none => throw (.noColumn name.toText table.name.toText)
  | some column =>
    let quoted ← dialect.quote name
    let declaration ← column.type.declaration (sizeOf column)
    let quoted ← quoted.operand
    let identity := if isIdentity dialect table column then identityClause else ""
    let default ← defaultClause column
    let refusal := if column.nullable.truthy then "" else " NOT NULL"
    return quoted ++ " " ++ declaration ++ identity ++ default ++ refusal

end Definition

end OracleCatalog
