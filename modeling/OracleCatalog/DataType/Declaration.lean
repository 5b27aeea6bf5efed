import OracleCatalog.DataType.Abstract
import OracleCatalog.Value.Whole

/-!
# Type declarations

How a definition declares a column of an abstract type. Three abstract types have no declaration.
-/

namespace OracleCatalog

open OracleCatalog.Text

/-- What a definition knows about the type of a column besides the type itself. -/
structure TypeSize where
  length : Value := .null
  precision : Value := .null
  scale : Value := .null
  fixed : Value := .bool false
  deriving Inhabited

namespace AbstractType

/-- The engine type that stands for an abstract type other than `string`. -/
def engineName? : AbstractType → Option String
  | .integer | .smallInteger | .tinyInteger | .bigInteger | .decimal => some "NUMBER"
  | .boolean => some "NUMBER(1)"
  | .binary => some "BLOB"
  | .float => some "FLOAT"
  | .text => some "CLOB"
  | .date | .time | .datetime | .timestamp => some "TIMESTAMP"
  | .uuid => some "VARCHAR2(36)"
  | .string | .json | .cursor | .unknown => none

def undeclared (type : AbstractType) : Error := .ofTypeName (.text type.name) none

/-- The length of a string column that has none of its own. -/
def defaultLength : Value := .int 255

/-- The precision of a decimal column that has a scale alone. -/
def defaultPrecision : Value := .int 38

def sized (name : String) (numbers : List Int) : Except Error String := do
  return name ++ "(" ++ join "," (← numbers.mapM Value.writeInteger) ++ ")"

def declaration (type : AbstractType) (size : TypeSize) : Except Error String := do
  match type with
  | .string =>
    let length ← (size.length.orElse defaultLength).whole
    sized (if size.fixed.truthy then "CHAR" else "VARCHAR2") [length]
  | type =>
    match type.engineName? with
    | none => throw type.undeclared
    | some name =>
      match type with
      | .integer | .float =>
        if size.precision.isNull then return name
        else sized name [← size.precision.whole]
      | .decimal =>
        if size.precision.isNull && size.scale.isNull then return name
        else
          let precision ← (size.precision.orElse defaultPrecision).whole
          let scale ← (size.scale.orElse (.int 0)).whole
          sized name [precision, scale]
      | _ => return name

end AbstractType

end OracleCatalog
