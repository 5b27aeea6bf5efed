import OracleCatalog.Routine.Document
import OracleCatalog.Row.Parameter
import OracleCatalog.Row.Table
import OracleCatalog.Session.Action
import OracleCatalog.Table.Document

/-!
# Changes in place

A builder is an object that its owner keeps. A change reads it where it has to and writes into it;
one that fails leaves whatever it had written until then.
-/

namespace OracleCatalog

namespace TableBuilder

/-! ### Storing parts -/

/-- Stores a column, in the place of an earlier one of its name. -/
def storeColumn (column : Column) : Action TableBuilder Unit := do
  let key ← Action.ofExcept column.name.asKey
  Action.change fun builder => { builder with columns := builder.columns.put key column }

/-- Stores a constraint under a name, together with the one that is stored there. -/
def storeConstraint (name : Value) (constraint : Constraint) : Action TableBuilder Unit := do
  let key ← Action.ofExcept name.asKey
  let builder ← Action.state
  let merged :=
    match OrderedMap.get? key builder.constraints with
    | some earlier => earlier.after constraint
    | none => constraint
  Action.change fun builder => { builder with constraints := builder.constraints.put key merged }

def storeIndex (name : Value) (columns : List Value) : Action TableBuilder Unit := do
  let key ← Action.ofExcept name.asKey
  let builder ← Action.state
  let earlier :=
    match OrderedMap.get? key builder.indexes with
    | some index => index.columns
    | none => []
  Action.change fun builder =>
    { builder with
      indexes := builder.indexes.put key { name := key, columns := earlier ++ columns } }

/-! ### Storing what rows say -/

def storeColumnRow (folding : CaseFolding) (row : Row) : Action TableBuilder Unit := do
  let type ← Action.ofExcept do
    CatalogType.ofFields (← row.field "type") (row.fieldOrNull "char_length")
      (row.fieldOrNull "data_precision") (row.fieldOrNull "data_scale") false
  let name ← Action.ofExcept (row.field "name")
  Action.ofNoted (noteUnknownType type (row.fieldOrNull "table") name)
  let position ← Action.ofExcept (row.fieldOrNull "ordinal_position").catalogInteger
  let name ← Action.ofExcept (foldedName folding name)
  storeColumn (columnOfRow row name type position)

def storeIndexRow (folding : CaseFolding) (row : Row) : Action TableBuilder Unit := do
  let part ← Action.ofExcept (indexPartOfRow folding row)
  match part.kind with
  | .primary | .unique => storeConstraint part.name part.constraint
  | _ => storeIndex part.name [part.column]

def storeForeignKeyRow (folding : CaseFolding) (row : Row) : Action TableBuilder Unit := do
  let constraint ← Action.ofExcept (foreignKeyOfRow folding row)
  storeConstraint constraint.name constraint

/-! ### Changes -/

/-- A change of a table in the making: a row of one of the three queries, or a part by itself. -/
inductive Change where
  | columnRow (entries : Entries)
  | indexRow (entries : Entries)
  | foreignKeyRow (entries : Entries)
  | column (name : Value) (attributes : Entries)
  | constraint (name : Value) (constraint : Constraint)
  | index (name : Value) (columns : List Value)

/-- Makes a change in the builder. -/
def Change.make (folding : CaseFolding) : Change → Action TableBuilder Unit
  | .columnRow entries => storeColumnRow folding (Row.ofEntries entries)
  | .indexRow entries => storeIndexRow folding (Row.ofEntries entries)
  | .foreignKeyRow entries => storeForeignKeyRow folding (Row.ofEntries entries)
  | .column name attributes => do
    let column ← Action.ofExcept (Column.ofFields name attributes)
    storeColumn column
  | .constraint name stored => storeConstraint name stored
  | .index name columns => storeIndex name columns

end TableBuilder

namespace RoutineBuilder

/-- Stores a parameter, in the place of an earlier one of its name. -/
def storeParameter (parameter : Parameter) : Action RoutineBuilder Unit := do
  let parameter ← Action.ofExcept parameter.check
  let key ← Action.ofExcept parameter.name.asKey
  Action.change fun builder =>
    { builder with parameters := builder.parameters.put key parameter }

def storeParameterRow (row : Row) : Action RoutineBuilder Unit := do
  let typeName := row.fieldOrNull "type"
  if typeName.isNull then return ()
  let type ← Action.ofExcept
    (CatalogType.ofFields typeName (row.fieldOrNull "data_length")
      (row.fieldOrNull "data_precision") (row.fieldOrNull "data_scale") true)
  let name := row.fieldOrNull "name"
  Action.ofNoted (noteUnknownType type (row.fieldOrNull "object") name)
  let direction ← Action.ofExcept (Direction.ofValue (row.fieldOrNull "direction"))
  let position ← Action.ofExcept (row.fieldOrNull "ordinal_position").catalogInteger
  storeParameter (parameterOfRow name type direction position)

/-- A change of a routine in the making. -/
inductive Change where
  | row (entries : Entries)
  | parameter (name : Value) (attributes : Entries)

/-- Makes a change in the builder. -/
def Change.make : Change → Action RoutineBuilder Unit
  | .row entries => storeParameterRow (Row.ofEntries entries)
  | .parameter name attributes => do
    let parameter ← Action.ofExcept (Parameter.ofFields name attributes)
    storeParameter parameter

end RoutineBuilder

end OracleCatalog
