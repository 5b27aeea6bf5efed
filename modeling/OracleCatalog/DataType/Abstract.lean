import OracleCatalog.Error
import OracleCatalog.Text.Case

/-!
# Abstract types

The types of columns and parameters that do not depend on an engine.
-/

namespace OracleCatalog

/-- An abstract type. -/
inductive AbstractType where
  | integer | smallInteger | tinyInteger | bigInteger
  | decimal | float | boolean
  | string | text | binary
  | date | time | datetime | timestamp
  | uuid | json | cursor | unknown
  deriving DecidableEq, Inhabited

namespace AbstractType

def all : List AbstractType := [
  .integer, .smallInteger, .tinyInteger, .bigInteger, .decimal, .float, .boolean, .string, .text,
  .binary, .date, .time, .datetime, .timestamp, .uuid, .json, .cursor, .unknown]

/-- The word that descriptions use for a type. -/
def name : AbstractType → String
  | .integer => "integer"
  | .smallInteger => "smallinteger"
  | .tinyInteger => "tinyinteger"
  | .bigInteger => "biginteger"
  | .decimal => "decimal"
  | .float => "float"
  | .boolean => "boolean"
  | .string => "string"
  | .text => "text"
  | .binary => "binary"
  | .date => "date"
  | .time => "time"
  | .datetime => "datetime"
  | .timestamp => "timestamp"
  | .uuid => "uuid"
  | .json => "json"
  | .cursor => "cursor"
  | .unknown => "unknown"

theorem mem_all (type : AbstractType) : type ∈ all := by cases type <;> decide

def ofName? (word : String) : Option AbstractType := all.find? (·.name == word)

theorem ofName?_name (type : AbstractType) : ofName? type.name = some type := by
  cases type <;> decide

def ofValue (v : Value) : Except Error AbstractType :=
  match v with
  | .text word =>
    match ofName? word with
    | some type => .ok type
    | none => .error (.refused (.notAMember v.shown "AbstractType"))
  | v => .error (.refused (.notAMember v.shown "AbstractType"))

def isInteger : AbstractType → Bool
  | .integer | .smallInteger | .tinyInteger | .bigInteger => true
  | _ => false

/-- The name of the type in capitals, which is what its constant is called. -/
def constantName (type : AbstractType) : String := Text.upper type.name

end AbstractType

end OracleCatalog
