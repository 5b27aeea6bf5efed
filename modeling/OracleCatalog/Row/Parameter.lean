import OracleCatalog.Routine.Basic
import OracleCatalog.Row.Basic
import OracleCatalog.Text.Split

/-!
# Rows of a routine

A row of the argument query without a type stands for the absence of arguments. An output without a
name is the value that a function returns.
-/

namespace OracleCatalog

open OracleCatalog.Text

/-- Which way a value passes. -/
structure Direction where
  isIn : Bool
  isOut : Bool
  deriving DecidableEq, Inhabited

/-- The direction that a row names: `IN`, `OUT` or both. -/
def Direction.ofValue (v : Value) : Except Error Direction := do
  match ← (v.orElse (.text "")).toUpper with
  | .text word =>
    return { isIn := contains "IN".toList word.toList, isOut := contains "OUT".toList word.toList }
  | _ => throw (.wrongKind "a bytes-like object is required, not 'str'")

namespace RoutineBuilder

/-- The parameter that a row describes; an output without a name is the value of a function. -/
def parameterOfRow (name : Value) (type : CatalogType) (direction : Direction)
    (position : Option Int) : Parameter :=
  let isResult := direction.isOut && name.isNull
  { name := if isResult then .text resultName else name
    type := type.abstract
    isIn := .bool (direction.isIn && !isResult)
    isOut := .bool direction.isOut
    position := Value.ofInt? position
    length := Value.ofInt? type.length
    precision := Value.ofInt? type.precision
    scale := Value.ofInt? type.scale
    nativeType := Value.ofText? type.nativeName }

/-- Folds a row of the argument query. -/
def addParameterRow (builder : RoutineBuilder) (row : Row) : Noted RoutineBuilder := do
  let typeName := row.fieldOrNull "type"
  if typeName.isNull then return builder
  let type ← Noted.ofExcept
    (CatalogType.ofFields typeName (row.fieldOrNull "data_length")
      (row.fieldOrNull "data_precision") (row.fieldOrNull "data_scale") true)
  let name := row.fieldOrNull "name"
  noteUnknownType type (row.fieldOrNull "object") name
  Noted.ofExcept do
    let direction ← Direction.ofValue (row.fieldOrNull "direction")
    let position ← (row.fieldOrNull "ordinal_position").catalogInteger
    builder.addParameter (parameterOfRow name type direction position)

end RoutineBuilder

end OracleCatalog
