import OracleCatalog.Routine.Basic
import OracleCatalog.Value.Members

/-!
# Descriptions of routines

A routine as a map of named fields, which is what a cache keeps of it. Reading a
description ignores fields that it does not know.
-/

namespace OracleCatalog

def descriptionFields (v : Value) : Except Error Entries :=
  match v with
  | .map fields => .ok fields
  | v => .error (.wrongKind ("'" ++ v.kind ++ "' is no description"))

namespace Parameter

def ofDocument (v : Value) : Except Error Parameter := do
  let fields ← descriptionFields v
  let name ← Value.field "name" fields
  let type ← AbstractType.ofValue (← Value.field "type" fields)
  check {
    name, type
    isIn := fieldOr (.bool true) "in" fields
    isOut := fieldOr (.bool false) "out" fields
    position := Value.fieldOrNull "position" fields
    length := Value.fieldOrNull "length" fields
    precision := Value.fieldOrNull "precision" fields
    scale := Value.fieldOrNull "scale" fields
    nativeType := Value.fieldOrNull "native_type" fields }

def toDocument (parameter : Parameter) : Value := document [
  ("name", parameter.name), ("type", .text parameter.type.name), ("in", parameter.isIn),
  ("out", parameter.isOut), ("position", parameter.position), ("length", parameter.length),
  ("precision", parameter.precision), ("scale", parameter.scale),
  ("native_type", parameter.nativeType)]

/-- The fields of a parameter besides its name, when it is declared field by field. -/
def fieldNames : List String := [
  "type", "is_in", "is_out", "position", "length", "precision", "scale", "native_type"]

def ofFields (name : Value) (fields : Entries) : Except Error Parameter := do
  let type ← AbstractType.ofValue (← requiredField "type" fields)
  checkFields fieldNames fields
  return {
    name, type
    isIn := fieldOr (.bool true) "is_in" fields
    isOut := fieldOr (.bool false) "is_out" fields
    position := Value.fieldOrNull "position" fields
    length := Value.fieldOrNull "length" fields
    precision := Value.fieldOrNull "precision" fields
    scale := Value.fieldOrNull "scale" fields
    nativeType := Value.fieldOrNull "native_type" fields }

end Parameter

namespace Routine

/-- The object of a description. -/
def ofDocument (v : Value) : Except Error Routine := do
  let fields ← descriptionFields v
  let name ← Value.field "name" fields
  let parameters ← (fieldOr (.list []) "parameters" fields).members
  return { name, parameters := ← parameters.mapM Parameter.ofDocument }

/-- The description of an object. -/
def toDocument (routine : Routine) : Value := document [
  ("name", routine.name), ("parameters", .list (routine.parameters.map Parameter.toDocument))]

/-- The description of an object together with what it is. -/
def toSummary (routine : Routine) : Value := document [
  ("name", routine.name), ("parameters", .list (routine.parameters.map Parameter.toDocument)),
  ("is_function", .bool routine.isFunction)]

end Routine

def RoutineBuilder.description (builder : RoutineBuilder) : List (String × Value) :=
  [("parameters", .list (OrderedMap.keys builder.parameters))]

end OracleCatalog
