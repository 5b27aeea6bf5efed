import OracleCatalog.Dialect
import OracleCatalog.Table.Basic

/-!
# Key and index definitions

Primary and unique keys are defined with their table, foreign keys are added to it, and other
indexes are statements of their own.
-/

namespace OracleCatalog.Definition

/-- The clause of a delete action. The other actions are what the engine does anyway. -/
def deleteClause : Option ReferenceAction → String
  | some .cascade => " ON DELETE CASCADE"
  | some .setNull => " ON DELETE SET NULL"
  | _ => ""

/-- The columns of a key behind what introduces it, and what a foreign key refers to. -/
def keyBody (dialect : Dialect) (head : String) (constraint : Constraint) :
    Except Error String := do
  let columns ← dialect.quotedList constraint.columns
  match constraint.kind, constraint.references with
  | .foreign, .to table referenced =>
    let referenced ← dialect.quotedList referenced
    let table ← dialect.quoted table
    return head ++ " FOREIGN KEY (" ++ columns ++ ") REFERENCES " ++ table ++ " (" ++ referenced ++
      ")" ++ deleteClause constraint.onDelete ++ " DEFERRABLE INITIALLY IMMEDIATE"
  | .foreign, _ => throw (.refused (.noReferences constraint.name.toText))
  | _, _ => return head ++ " (" ++ columns ++ ")"

def constraint (dialect : Dialect) (table : Table) (name : Value) : Except Error String := do
  match table.constraint? name with
  | none => throw (.noConstraint name.toText table.name.toText)
  | some constraint =>
    match constraint.kind with
    | .primary => keyBody dialect "PRIMARY KEY" constraint
    | .unique =>
        keyBody dialect ("CONSTRAINT " ++ (← dialect.quotedText name) ++ " UNIQUE") constraint
    | _ => keyBody dialect ("CONSTRAINT " ++ (← dialect.quotedText name)) constraint

def index (dialect : Dialect) (table : Table) (name : Value) : Except Error String := do
  match table.index? name with
  | none => throw (.noIndex name.toText table.name.toText)
  | some index =>
    let columns ← dialect.quotedList index.columns
    return "CREATE INDEX " ++ (← dialect.quoted name) ++ " ON " ++ (← dialect.quoted table.name) ++
      " (" ++ columns ++ ")"

def foreignKeys (table : Table) : List Constraint := table.constraints.filter (·.kind == .foreign)

def addForeignKeys (dialect : Dialect) (table : Table) : Except Error (List String) := do
  let name ← dialect.quoted table.name
  (foreignKeys table).mapM fun key => do
    return "ALTER TABLE " ++ name ++ " ADD " ++ (← constraint dialect table key.name)

def dropForeignKeys (dialect : Dialect) (table : Table) : Except Error (List String) := do
  let name ← dialect.quoted table.name
  (foreignKeys table).mapM fun key => do
    return "ALTER TABLE " ++ name ++ " DROP CONSTRAINT " ++ (← dialect.quoted key.name)

end OracleCatalog.Definition
