import OracleCatalog.Value.Members

/-!
# Engines

An engine has a variant, which decides what it can do. The variants are known by name in any letter
case.
-/

namespace OracleCatalog

/-- What an engine can do. -/
structure Engine where
  name : Value := .text "oracle"
  /-- Whether statements can skip and limit rows. -/
  pagination : Value := .bool false
  /-- Whether columns can generate their own keys. -/
  identityColumns : Value := .bool false

namespace Engine

def named? (name : String) : Option Engine :=
  if name = "oracle" then some { name := .text "oracle" }
  else if name = "oracle11" then some { name := .text "oracle11" }
  else if name = "oracle12" then
    some { name := .text "oracle12", pagination := .bool true, identityColumns := .bool true }
  else none

def ofVariant (variant : Value) : Except Error Engine :=
  match variant.toLower with
  | .error e => .error e
  | .ok name =>
    let known := match name with
      | .text name => named? name
      | _ => none
    match known with
    | some engine => .ok engine
    | none => .error (.refused (.variant variant.toText))

/-- The fields of a description. -/
def fieldNames : List String := ["name", "supports_pagination", "supports_identity_columns"]

/-- The engine that a description gives. -/
def ofDocument (fields : Entries) : Except Error Engine := do
  checkFields fieldNames fields
  let base : Engine := {}
  return {
    name := fieldOr base.name "name" fields
    pagination := fieldOr base.pagination "supports_pagination" fields
    identityColumns := fieldOr base.identityColumns "supports_identity_columns" fields }

def toDocument (engine : Engine) : Value := document [
  ("name", engine.name), ("supports_pagination", engine.pagination),
  ("supports_identity_columns", engine.identityColumns)]

/-- Whether the engine can skip and limit rows. -/
def paginates (engine : Engine) : Bool := engine.pagination.truthy

end Engine

end OracleCatalog
