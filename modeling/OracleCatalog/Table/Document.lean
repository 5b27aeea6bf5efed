import OracleCatalog.Table.Builder
import OracleCatalog.Value.Members

/-!
# Descriptions of tables

A table and its parts as maps of named fields. A description may leave out what has a default; a
field that is not known is refused.
-/

namespace OracleCatalog

/-! ### Columns -/

namespace Column

def fieldNames : List String := [
  "type", "length", "precision", "scale", "nullable", "default", "comment", "position", "fixed",
  "native_type"]

def ofFields (name : Value) (fields : Entries) : Except Error Column := do
  let type ← AbstractType.ofValue (← requiredField "type" fields)
  checkFields fieldNames fields
  return {
    name, type
    length := Value.fieldOrNull "length" fields
    precision := Value.fieldOrNull "precision" fields
    scale := Value.fieldOrNull "scale" fields
    nullable := fieldOr (.bool true) "nullable" fields
    default := Value.fieldOrNull "default" fields
    comment := Value.fieldOrNull "comment" fields
    position := Value.fieldOrNull "position" fields
    fixed := fieldOr (.bool false) "fixed" fields
    nativeType := Value.fieldOrNull "native_type" fields }

def ofDocument (fields : Entries) : Except Error Column := do
  ofFields (← requiredField "name" fields) (OrderedMap.erase (.text "name") fields)

def toDocument (column : Column) : Value := document [
  ("name", column.name), ("type", .text column.type.name), ("length", column.length),
  ("precision", column.precision), ("scale", column.scale), ("nullable", column.nullable),
  ("default", column.default), ("comment", column.comment), ("position", column.position),
  ("fixed", column.fixed), ("native_type", column.nativeType)]

end Column

/-! ### Constraints and indexes -/

namespace References

/-- The references that a description gives. -/
def ofValue (v : Value) : Except Error References :=
  match v with
  | .null => .ok .absent
  | v => do
    match ← v.members with
    | [] => return .blank
    | [table, columns] => return .to table (← columns.members)
    | _ => throw (.wrongKind "references are a table and its columns")

def toValue : References → Value
  | .absent => .null
  | .blank => .list []
  | .to table columns => .list [table, .list columns]

end References

/-- The action that a description gives, none for null. -/
def ReferenceAction.ofField (v : Value) : Except Error (Option ReferenceAction) :=
  if v.isNull then .ok none else (ReferenceAction.ofValue v).map some

def ReferenceAction.toField (action : Option ReferenceAction) : Value :=
  Value.ofText? (action.map (·.name))

namespace Constraint

def fieldNames : List String := ["name", "type", "columns", "references", "on_delete", "on_update"]

def ofDocument (fields : Entries) : Except Error Constraint := do
  let name ← requiredField "name" fields
  let kind ← KeyKind.ofValue (← requiredField "type" fields)
  let columns ← (← requiredField "columns" fields).members
  let references ← References.ofValue (Value.fieldOrNull "references" fields)
  let onDelete ← ReferenceAction.ofField (Value.fieldOrNull "on_delete" fields)
  let onUpdate ← ReferenceAction.ofField (Value.fieldOrNull "on_update" fields)
  checkFields fieldNames fields
  return { name, kind, columns, references, onDelete, onUpdate }

def toDocument (constraint : Constraint) : Value := document [
  ("name", constraint.name), ("type", .text constraint.kind.name),
  ("columns", .list constraint.columns), ("references", constraint.references.toValue),
  ("on_delete", ReferenceAction.toField constraint.onDelete),
  ("on_update", ReferenceAction.toField constraint.onUpdate)]

end Constraint

namespace Index

def fieldNames : List String := ["name", "type", "columns"]

def ofDocument (fields : Entries) : Except Error Index := do
  let name ← requiredField "name" fields
  let columns ← (← requiredField "columns" fields).members
  let kind ←
    match OrderedMap.get? (Value.text "type") fields with
    | some v => KeyKind.ofValue v
    | none => .ok .index
  checkFields fieldNames fields
  return { name, columns, kind }

def toDocument (index : Index) : Value := document [
  ("name", index.name), ("type", .text index.kind.name), ("columns", .list index.columns)]

end Index

/-! ### Tables -/

/-- The parts of a description that are listed under a name, none when it is left out. -/
def partsOf {α : Type} (read : Entries → Except Error α) (name : String) (fields : Entries) :
    Except Error (List α) :=
  match OrderedMap.get? (Value.text name) fields with
  | none => .ok []
  | some v =>
    match v.members with
    | .ok parts => parts.mapM fun part =>
      match part with
      | .map fields => read fields
      | part => .error (.wrongKind ("a description is a map, not '" ++ part.kind ++ "'"))
    | .error e => .error e

namespace Table

def fieldNames : List String := ["name", "temporary", "columns", "constraints", "indexes"]

def ofDocument (fields : Entries) : Except Error Table := do
  let name ← requiredField "name" fields
  let columns ← partsOf Column.ofDocument "columns" fields
  let constraints ← partsOf Constraint.ofDocument "constraints" fields
  let indexes ← partsOf Index.ofDocument "indexes" fields
  checkFields fieldNames fields
  return {
    name, columns, constraints, indexes
    temporary := fieldOr (.bool false) "temporary" fields }

def toDocument (table : Table) : Value := document [
  ("name", table.name), ("temporary", table.temporary),
  ("columns", .list (table.columns.map Column.toDocument)),
  ("constraints", .list (table.constraints.map Constraint.toDocument)),
  ("indexes", .list (table.indexes.map Index.toDocument))]

end Table

/-! ### Tables in the making -/

def TableBuilder.description (builder : TableBuilder) : List (String × Value) := [
  ("has_columns", .bool builder.hasColumns), ("columns", .list (OrderedMap.keys builder.columns)),
  ("constraints", .list ((OrderedMap.values builder.constraints).map Constraint.toDocument)),
  ("indexes", .list ((OrderedMap.values builder.indexes).map Index.toDocument))]

end OracleCatalog
