import OracleCatalog.Query.Owner

/-!
# Listing queries

The tables and the routines that a connection sees, and the arguments of a routine.
-/

namespace OracleCatalog.Query

/-! ### Tables -/

def tablesText (folding : CaseFolding) (owned : Bool) : String :=
  "SELECT " ++ foldedField folding "TABLE_NAME" ++ " as name FROM " ++
    viewName owned "tables" ++ " " ++
    whenOwned owned "WHERE owner = :ownerParam" ++ " ORDER BY name"

/-- Lists the tables of the user, or of the schema of the settings. -/
def tables (folding : CaseFolding) (settings : Settings) : Except Error Query :=
  if settings.schema.truthy then
    settings.schema.toUpper.map fun owner =>
      { text := tablesText folding true, binds := [("ownerParam", owner)] }
  else .ok { text := tablesText folding false }

/-! ### Routines -/

def routinesText (folding : CaseFolding) (view conditions : String) : String :=
  "SELECT " ++ foldedField folding "OBJECT_NAME" ++ " as object, " ++
    foldedField folding "PROCEDURE_NAME" ++ " as name, OBJECT_TYPE FROM " ++ view ++
    "\nWHERE 1=1 " ++ conditions ++ " ORDER BY object, name"

def routineText (folding : CaseFolding) (qualification : RoutineName.Qualification) : String :=
  let condition := OwnerCondition.listing (foldedField folding "OBJECT_NAME")
    (foldedField folding "PROCEDURE_NAME") qualification
  routinesText folding condition.view (condition.owner ++ condition.object)

def routine (folding : CaseFolding) (name : RoutineName) : Query :=
  { text := routineText folding name.qualification, binds := name.binds }

/-- Lists the routines of the name in the settings; without one, those of the user or of
the schema of the settings. -/
def routines (folding : CaseFolding) (settings : Settings) : Except Error Query :=
  if settings.objectName.truthy then
    (settings.objectName.asText "split").map fun name => routine folding (RoutineName.ofText name)
  else if settings.schema.truthy then
    settings.schema.toUpper.map fun owner =>
      { text := routinesText folding "all_procedures" " AND OWNER = :ownerParam "
        binds := [("ownerParam", owner)] }
  else .ok { text := routinesText folding "user_procedures" "" }

/-! ### Arguments -/

open OracleCatalog.Text

def parametersText (qualification : RoutineName.Qualification) : String :=
  let condition := OwnerCondition.argument qualification
  lines [
    "SELECT",
    fieldLines 20 [
      "args.object_name as \"object\"", "args.package_name AS package",
      "args.argument_name AS name", "args.data_type AS type", "args.pls_type AS pls_type",
      "args.in_out AS direction", "args.data_length", "args.data_precision", "args.data_scale",
      "args.position AS ordinal_position"],
    indented 16 ("FROM " ++ condition.view ++ " args"),
    indented 16 "WHERE UPPER(args.object_name) = :objectParam",
    indented 16 (whenOwned condition.usesOwner condition.owner),
    indented 16 "ORDER BY args.position"]

/-- Describes the arguments of the object of a name. -/
def parameters (name : RoutineName) : Query :=
  { text := parametersText name.qualification, binds := name.binds }

end OracleCatalog.Query
