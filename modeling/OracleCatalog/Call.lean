import OracleCatalog.Dialect
import OracleCatalog.Routine.Basic

/-!
# Calls and inserts

A routine is called by a block that binds every argument by name; the value of a function
is assigned to the result. An insert statement starts with the table and its columns.
-/

namespace OracleCatalog

open OracleCatalog.Text

def Parameter.placeholder (parameter : Parameter) : String := ":" ++ parameter.name.toText

def Routine.call (routine : Routine) : String :=
  let call := routine.name.toText ++ "(" ++ join ", " (routine.arguments.map (·.placeholder)) ++ ")"
  "BEGIN " ++ (if routine.isFunction then resultName ++ " := " else "") ++ call ++ "; END;"

/-- The start of an insert statement. -/
def Dialect.insertHead (dialect : Dialect) (table columns : Value) : Except Error String := do
  let columns ← dialect.quotedList (← columns.members)
  return "INSERT INTO " ++ (← dialect.quoted table) ++ " (" ++ columns ++ ")"

end OracleCatalog
