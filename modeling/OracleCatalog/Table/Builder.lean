import OracleCatalog.DataType.Catalog
import OracleCatalog.Table.Basic

/-!
# Building tables

The catalog delivers one row per column and one row per column of a key. A builder takes them one by
one: columns keep the order of their first row, and the rows of one key are put together under its
name.
-/

namespace OracleCatalog

/-- A table in the making: its parts under their names. -/
structure TableBuilder where
  name : Value
  temporary : Value := .bool false
  columns : OrderedMap Value Column := []
  constraints : OrderedMap Value Constraint := []
  indexes : OrderedMap Value Index := []
  deriving Inhabited

/-- The references of a key that has been put together from two: joined where both refer to
something, else those of the later one. -/
def References.after (earlier later : References) : References :=
  match earlier, later with
  | .to table columns, .to _ more => .to table (columns ++ more)
  | _, later => later

/-- A constraint put together with an earlier one of its name: the columns of both, and everything
else from the later one. -/
def Constraint.after (earlier later : Constraint) : Constraint :=
  { later with
    columns := earlier.columns ++ later.columns
    references := earlier.references.after later.references }

namespace TableBuilder

/-- Adds a column, in the place of an earlier one of its name. -/
def addColumn (builder : TableBuilder) (column : Column) : Except Error TableBuilder :=
  column.name.asKey.map fun name =>
    { builder with columns := builder.columns.put name column }

/-- Adds a constraint under a name, together with an earlier one of that name. -/
def addConstraint (builder : TableBuilder) (name : Value) (constraint : Constraint) :
    Except Error TableBuilder :=
  name.asKey.map fun name =>
    let merged :=
      match OrderedMap.get? name builder.constraints with
      | some earlier => earlier.after constraint
      | none => constraint
    { builder with constraints := builder.constraints.put name merged }

def addIndex (builder : TableBuilder) (name : Value) (columns : List Value) :
    Except Error TableBuilder :=
  name.asKey.map fun name =>
    let earlier :=
      match OrderedMap.get? name builder.indexes with
      | some index => index.columns
      | none => []
    { builder with indexes := builder.indexes.put name { name, columns := earlier ++ columns } }

def constraint? (builder : TableBuilder) (name : Value) : Except Error (Option Constraint) :=
  name.asKey.map fun name => OrderedMap.get? name builder.constraints

def index? (builder : TableBuilder) (name : Value) : Except Error (Option Index) :=
  name.asKey.map fun name => OrderedMap.get? name builder.indexes

def hasColumns (builder : TableBuilder) : Bool := !builder.columns.isEmpty

/-- The table of everything that has been added. -/
def build (builder : TableBuilder) : Table :=
  { name := builder.name
    columns := OrderedMap.values builder.columns
    constraints := OrderedMap.values builder.constraints
    indexes := OrderedMap.values builder.indexes
    temporary := builder.temporary }

end TableBuilder

end OracleCatalog
