import OracleCatalog.Definition.Column
import OracleCatalog.Definition.Key
import OracleCatalog.Definition.Sequence
import OracleCatalog.Journal

/-!
# Table definitions

The statements that create a table: the table itself, its indexes, the comments on its columns, and
what generates its keys where the key column does not.
-/

namespace OracleCatalog.Definition

open OracleCatalog.Text

def comments (dialect : Dialect) (table : Table) : Except Error (List String) := do
  let name ← dialect.quoted table.name
  (table.columns.filter (!·.comment.isNull)).mapM fun column => do
    return "COMMENT ON COLUMN " ++ name ++ "." ++ (← dialect.quoted column.name) ++ " IS " ++
      Literal.ofValue column.comment

def tableKeyGeneration (dialect : Dialect) (table : Table) : Except Error (List String) :=
  match table.integerKey? with
  | some column => keyGeneration dialect column.name table.name (.int 1)
  | none => .ok []

/-- The statement that creates the table alone. -/
def tableBody (name : String) (temporary : Bool) (parts : List String) : String :=
  "CREATE" ++ (if temporary then " GLOBAL TEMPORARY " else " ") ++ "TABLE " ++ name ++ " (\n" ++
    join ",\n" (parts.filter (· ≠ "")) ++ "\n)"

/-- The statements that create a table from the definitions of its parts. -/
def createTable (dialect : Dialect) (table : Table) (columns constraints indexes : List String) :
    Except Error (List String) := do
  let name ← dialect.quoted table.name
  let comments ← comments dialect table
  let generation ← tableKeyGeneration dialect table
  return tableBody name table.temporary.truthy (columns ++ constraints) ::
    indexes ++ comments ++ generation

def create (dialect : Dialect) (table : Table) : Noted (List String) := do
  let statements ← Noted.ofExcept do
    let columns ← table.columnNames.mapM (column dialect table)
    let constraints ← (table.constraints.filter (·.kind != .foreign)).mapM fun key =>
      constraint dialect table key.name
    let indexes ← table.indexes.mapM fun part => index dialect table part.name
    createTable dialect table columns constraints indexes
  Noted.note .dialect .debug
    ("Generated " ++ natText statements.length ++ " statements for table " ++ table.name.toText)
  return statements

/-- The statements that empty a table and start its keys anew. -/
def truncate (dialect : Dialect) (table : Table) : Except Error (List String) := do
  let name ← dialect.quoted table.name
  let sequence := Value.text (sequenceName table.name)
  let dropping ← dropSequenceIfPresent sequence .null
  let creating ← createSequenceIfAbsent sequence .null
  let restart ←
    match table.integerKey? with
    | some column =>
      if dialect.usesIdentity then do
        pure ["ALTER TABLE " ++ name ++ " MODIFY(" ++ (← dialect.quoted column.name) ++
          " GENERATED AS IDENTITY (START WITH 1))"]
      else pure []
    | none => pure []
  return ["TRUNCATE TABLE " ++ name, dropping, creating] ++ restart

def drop (dialect : Dialect) (table : Table) : Except Error (List String) := do
  return ["DROP TABLE " ++ (← dialect.quoted table.name) ++ " CASCADE CONSTRAINTS"]

end OracleCatalog.Definition
