import OracleCatalog.Row.Basic
import OracleCatalog.Table.Builder

/-!
# Rows of a table

Each row of the three queries for a table is folded into the table in the making.
-/

namespace OracleCatalog

open OracleCatalog.Text

namespace TableBuilder

/-! ### Columns -/

def columnOfRow (row : Row) (name : Value) (type : CatalogType) (position : Option Int) : Column :=
  { name
    type := type.abstract
    length := Value.ofInt? type.length
    precision := Value.ofInt? type.precision
    scale := Value.ofInt? type.scale
    nullable := .bool ((row.fieldOrNull "null").isText "Y")
    default := row.fieldOrNull "default"
    comment := row.fieldOrNull "comment"
    position := Value.ofInt? position
    fixed := .bool type.isFixed
    nativeType := Value.ofText? type.nativeName }

def addColumnRow (folding : CaseFolding) (builder : TableBuilder) (row : Row) :
    Noted TableBuilder := do
  let type ← Noted.ofExcept do
    CatalogType.ofFields (← row.field "type") (row.fieldOrNull "char_length")
      (row.fieldOrNull "data_precision") (row.fieldOrNull "data_scale") false
  let name ← Noted.ofExcept (row.field "name")
  noteUnknownType type (row.fieldOrNull "table") name
  Noted.ofExcept do
    let position ← (row.fieldOrNull "ordinal_position").catalogInteger
    let name ← foldedName folding name
    builder.addColumn (columnOfRow row name type position)

/-! ### Indexes and the keys on them -/

/-- The kind of key that a row of the index query belongs to. -/
def keyKindOfRow (row : Row) : Except Error KeyKind := do
  let constraintType ← ((row.fieldOrNull "is_primary").orElse (.text "")).toLower
  if constraintType.isText "p" then return .primary
  else if constraintType.isText "u" then return .unique
  else
    let unique ← (row.fieldOrNull "is_unique").catalogInteger
    return if unique = some 1 then .unique else .index

def primaryName : Value := .text KeyKind.primary.name

/-- What a row of the index query says: the kind and the name of a key or of an index, and one of
its columns. -/
structure IndexPart where
  kind : KeyKind
  name : Value
  column : Value
  deriving Inhabited

def IndexPart.constraint (part : IndexPart) : Constraint :=
  { name := part.name, kind := part.kind, columns := [part.column] }

/-- What a row of the index query says. -/
def indexPartOfRow (folding : CaseFolding) (row : Row) : Except Error IndexPart := do
  let name ← foldedName folding (← row.field "name")
  let column ← foldedName folding (← row.field "column_name")
  let kind ← keyKindOfRow row
  return { kind, name := if kind = .primary then primaryName else name, column }

/-- Adds a column to a key or to an index. -/
def addIndexPart (builder : TableBuilder) (part : IndexPart) : Except Error TableBuilder :=
  match part.kind with
  | .primary | .unique => builder.addConstraint part.name part.constraint
  | _ => builder.addIndex part.name [part.column]

def addIndexRow (folding : CaseFolding) (builder : TableBuilder) (row : Row) :
    Except Error TableBuilder := do
  builder.addIndexPart (← indexPartOfRow folding row)

/-! ### Foreign keys -/

/-- The action of a delete rule; a rule that is not known sets null. -/
def deleteAction (rule : Value) : Except Error ReferenceAction := do
  let rule ← (rule.orElse (.text "")).toUpper
  return if rule.isText "RESTRICT" then .restrict
    else if rule.isText "NO ACTION" then .noAction
    else if rule.isText "CASCADE" then .cascade
    else .setNull

/-- The constraint of one column that a row of the foreign key query stands for. -/
def foreignKeyOfRow (folding : CaseFolding) (row : Row) : Except Error Constraint := do
  let name ← foldedName folding (← row.field "constraint_name")
  let owner ← row.field "referenced_owner"
  let table ← row.field "referenced_table_name"
  let column ← foldedName folding (← row.field "column_name")
  let referenced ← foldedName folding (.text (owner.toText ++ "." ++ table.toText))
  let referencedColumn ← foldedName folding (← row.field "referenced_column_name")
  let action ← deleteAction (row.fieldOrNull "delete_rule")
  return {
    name, kind := .foreign, columns := [column]
    references := .to referenced [referencedColumn]
    onDelete := some action
    onUpdate := some .setNull }

/-- Folds a row of the foreign key query. -/
def addForeignKeyRow (folding : CaseFolding) (builder : TableBuilder) (row : Row) :
    Except Error TableBuilder := do
  let constraint ← foreignKeyOfRow folding row
  builder.addConstraint constraint.name constraint

end TableBuilder

/-! ### Rows of any of the three queries -/

/-- A row of one of the queries that describe a table. -/
inductive TableRow where
  | column (row : Row)
  | index (row : Row)
  | foreignKey (row : Row)
  deriving Inhabited

namespace TableBuilder

def addRow (folding : CaseFolding) (builder : TableBuilder) : TableRow → Noted TableBuilder
  | .column row => builder.addColumnRow folding row
  | .index row => Noted.ofExcept (builder.addIndexRow folding row)
  | .foreignKey row => Noted.ofExcept (builder.addForeignKeyRow folding row)

/-- Folds rows in order; a row that cannot be folded ends it. -/
def addRows (folding : CaseFolding) (builder : TableBuilder) (rows : List TableRow) :
    Noted TableBuilder :=
  rows.foldlM (addRow folding) builder

end TableBuilder

end OracleCatalog
