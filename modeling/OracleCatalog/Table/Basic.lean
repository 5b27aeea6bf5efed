import OracleCatalog.DataType.Declaration

/-!
# Tables

A table has columns, constraints and indexes. Names come from the catalog or from a description and
may be any values; looking something up by name finds the first of that name.
-/

namespace OracleCatalog

/-! ### Words -/

/-- The kinds of keys and indexes. -/
inductive KeyKind where
  | primary | unique | foreign | index
  deriving DecidableEq, Inhabited

namespace KeyKind

def all : List KeyKind := [.primary, .unique, .foreign, .index]

/-- The word that descriptions use for a kind. -/
def name : KeyKind → String
  | .primary => "primary"
  | .unique => "unique"
  | .foreign => "foreign"
  | .index => "index"

def ofValue (v : Value) : Except Error KeyKind :=
  match all.find? fun kind => v.isText kind.name with
  | some kind => .ok kind
  | none => .error (.refused (.notAMember v.shown "ConstraintType"))

end KeyKind

/-- What happens to a row when the row that it refers to goes away. -/
inductive ReferenceAction where
  | restrict | cascade | setNull | noAction
  deriving DecidableEq, Inhabited

namespace ReferenceAction

def all : List ReferenceAction := [.restrict, .cascade, .setNull, .noAction]

/-- The word that descriptions use for an action. -/
def name : ReferenceAction → String
  | .restrict => "restrict"
  | .cascade => "cascade"
  | .setNull => "setNull"
  | .noAction => "noAction"

def ofValue (v : Value) : Except Error ReferenceAction :=
  match all.find? fun action => v.isText action.name with
  | some action => .ok action
  | none => .error (.refused (.notAMember v.shown "ForeignKeyAction"))

end ReferenceAction

/-! ### Parts of a table -/

/-- A column. -/
structure Column where
  name : Value
  type : AbstractType
  length : Value := .null
  precision : Value := .null
  scale : Value := .null
  nullable : Value := .bool true
  default : Value := .null
  comment : Value := .null
  position : Value := .null
  fixed : Value := .bool false
  /-- The catalog's name of a type that has no abstract one. -/
  nativeType : Value := .null
  deriving Inhabited

/-- What the columns of a constraint refer to. -/
inductive References where
  /-- Nothing is said about references. -/
  | absent
  /-- The constraint is said to have no references. -/
  | blank
  /-- Columns of a table, in the order of the constraint's columns. -/
  | to (table : Value) (columns : List Value)
  deriving Inhabited

/-- A primary, unique or foreign key. -/
structure Constraint where
  name : Value
  kind : KeyKind
  columns : List Value
  references : References := .absent
  onDelete : Option ReferenceAction := none
  onUpdate : Option ReferenceAction := none
  deriving Inhabited

/-- An index that no constraint stands for. -/
structure Index where
  name : Value
  columns : List Value
  kind : KeyKind := .index
  deriving Inhabited

/-- A table. -/
structure Table where
  name : Value
  columns : List Column := []
  constraints : List Constraint := []
  indexes : List Index := []
  temporary : Value := .bool false
  deriving Inhabited

namespace Table

/-! ### Lookups -/

def columnNames (table : Table) : List Value := table.columns.map (·.name)

def column? (table : Table) (name : Value) : Option Column := table.columns.find? (·.name == name)

def constraint? (table : Table) (name : Value) : Option Constraint :=
  table.constraints.find? (·.name == name)

def index? (table : Table) (name : Value) : Option Index := table.indexes.find? (·.name == name)

/-- The columns of the first primary key; none without one. -/
def primaryKey (table : Table) : List Value :=
  match table.constraints.find? (·.kind == .primary) with
  | some constraint => constraint.columns
  | none => []

end Table

end OracleCatalog
