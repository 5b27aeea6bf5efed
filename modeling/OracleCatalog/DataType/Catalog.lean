import OracleCatalog.DataType.Abstract
import OracleCatalog.Value.Whole

/-!
# Catalog types

The type of a column or argument as the catalog reports it, by name in any letter case and up to
three numbers. A name outside the known families is an unknown type that keeps its name.
-/

namespace OracleCatalog

open OracleCatalog.Text

/-- What the catalog says about a type. -/
inductive CatalogType where
  | integer (precision : Option Int)
  | decimal (precision : Option Int) (scale : Int)
  | float (precision : Option Int)
  | boolean
  | string (length : Option Int) (fixed : Bool)
  | uuid
  | text (length : Option Int)
  | binary (length : Option Int)
  | datetime
  | timestamp
  | cursor
  | unknown (nativeName : String)
  deriving DecidableEq, Inhabited

namespace CatalogType

/-! ### Names -/

def numberNames : List String := ["NUMBER", "INTEGER", "PLS_INTEGER", "BINARY_INTEGER"]

def floatNames : List String := ["FLOAT", "BINARY_FLOAT", "BINARY_DOUBLE"]

/-- The names of the character types with blanks up to their length. -/
def fixedNames : List String := ["CHAR", "NCHAR"]

def characterNames : List String :=
  fixedNames ++ ["NVARCHAR2", "VARCHAR2", "LONG", "ROWID", "UROWID"]

def largeTextNames : List String := ["CLOB", "NCLOB"]

def binaryNames : List String := ["RAW", "LONG RAW", "BLOB"]

/-! ### Timestamps -/

/-- What may follow a timestamp and its precision; a line end may close it. -/
def timestampEndings : List String := [
  "", " WITH TIME ZONE", " WITH LOCAL TIME ZONE",
  "\n", " WITH TIME ZONE\n", " WITH LOCAL TIME ZONE\n"]

/-- Whether the character is a decimal digit of any script. -/
def isPrecisionDigit (c : Char) : Bool := (decimalDigit? c).isSome

/-- The text after a precision in brackets; a text that starts with none is left as it is. -/
def afterPrecision : List Char → List Char
  | '(' :: cs =>
    match cs.takeWhile isPrecisionDigit, cs.dropWhile isPrecisionDigit with
    | _ :: _, ')' :: rest => rest
    | _, _ => '(' :: cs
  | cs => cs

def isTimestampName (name : String) : Bool :=
  let stem := "TIMESTAMP".toList
  stem.isPrefixOf name.toList &&
    timestampEndings.contains (String.ofList (afterPrecision (name.toList.drop stem.length)))

/-! ### Reading -/

/-- The length at which a character column holds identifiers. -/
def uuidLength : Int := 36

def ofName (name : String) (length precision scale : Option Int) (cursors : Bool) : CatalogType :=
  if name = "DATE" then .datetime
  else if isTimestampName name then .timestamp
  else if numberNames.contains name then
    if precision = some 1 then .boolean
    else
      match scale with
      | some scale => if 0 < scale then .decimal precision scale else .integer precision
      | none => .integer precision
  else if floatNames.contains name then .float precision
  else if characterNames.contains name then
    if length = some uuidLength then .uuid else .string length (fixedNames.contains name)
  else if largeTextNames.contains name then .text length
  else if binaryNames.contains name then .binary length
  else if cursors && name = "REF CURSOR" then .cursor
  else .unknown name

/-- The type of a name and its numbers as the catalog delivers them. Bytes are no name, which shows
only behind the numbers. -/
def ofFields (name length precision scale : Value) (cursors : Bool) : Except Error CatalogType := do
  let name ← name.toUpper
  let length ← length.catalogInteger
  let precision ← precision.catalogInteger
  let scale ← scale.catalogInteger
  match name with
  | .text name => return ofName name length precision scale cursors
  | _ => throw (.wrongKind "cannot use a string pattern on a bytes-like object")

/-! ### What a type says -/

def abstract : CatalogType → AbstractType
  | .integer _ => .integer
  | .decimal .. => .decimal
  | .float _ => .float
  | .boolean => .boolean
  | .string .. => .string
  | .uuid => .uuid
  | .text _ => .text
  | .binary _ => .binary
  | .datetime => .datetime
  | .timestamp => .timestamp
  | .cursor => .cursor
  | .unknown _ => .unknown

def length : CatalogType → Option Int
  | .string length _ | .text length | .binary length => length
  | _ => none

def precision : CatalogType → Option Int
  | .integer precision | .decimal precision _ | .float precision => precision
  | _ => none

def scale : CatalogType → Option Int
  | .decimal _ scale => some scale
  | _ => none

/-- Whether values are filled up to their length. -/
def isFixed : CatalogType → Bool
  | .string _ fixed => fixed
  | _ => false

def nativeName : CatalogType → Option String
  | .unknown name => some name
  | _ => none

/-- The attributes that a type of this kind has, by name. -/
def attributes (type : CatalogType) : List (String × Value) :=
  let length := ("length", Value.ofInt? type.length)
  let precision := ("precision", Value.ofInt? type.precision)
  ("type", .text type.abstract.name) ::
    match type with
    | .integer _ | .float _ => [precision]
    | .decimal .. => [precision, ("scale", Value.ofInt? type.scale)]
    | .string .. => [length, ("fixed", .bool type.isFixed)]
    | .text _ | .binary _ => [length]
    | .unknown name => [("native_type", .text name)]
    | _ => []

end CatalogType

end OracleCatalog
