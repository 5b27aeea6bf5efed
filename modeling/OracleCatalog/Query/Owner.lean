import OracleCatalog.Name
import OracleCatalog.Query.Basic

/-!
# Owner rules

A routine name is looked up by one of two rules, one for the views that list procedures and one
for the views that hold their arguments. With a package alone, both rules take it for a package or
for the owner; without qualifiers, both look into the views of the user.
-/

namespace OracleCatalog

open OracleCatalog.RoutineName (Qualification)

/-- The part of a query that resolves a routine name. -/
structure OwnerCondition where
  /-- The view that is read. -/
  view : String
  /-- Whether the view covers all schemas. -/
  usesOwner : Bool
  owner : String
  object : String
  deriving DecidableEq, Inhabited

/-- The values bound for a routine name, the same for both rules. -/
def RoutineName.binds (name : RoutineName) : OrderedMap String Value :=
  ("objectParam", .text name.object) ::
    match name.qualification with
    | .none => []
    | .package => [("packageParam", Value.ofText? name.package)]
    | .schema => [("ownerParam", Value.ofText? name.schema)]
    | .schemaAndPackage =>
      [("packageParam", Value.ofText? name.package), ("ownerParam", Value.ofText? name.schema)]

namespace OwnerCondition

def toDocument (condition : OwnerCondition) (name : RoutineName) : Value := document [
  ("table", .text condition.view), ("use_owner", .bool condition.usesOwner),
  ("owner_condition", .text condition.owner), ("object_condition", .text condition.object),
  ("params", document name.binds)]

/-- The rule of the views that list procedures. -/
def listing (objectField procedureField : String) : Qualification → OwnerCondition
  | .none =>
    { view := "user_procedures", usesOwner := false, owner := ""
      object := " AND " ++ objectField ++ " = :objectParam " }
  | .package =>
    { view := "all_procedures", usesOwner := true
      owner := " AND (OWNER = :packageParam OR " ++ objectField ++ " = :packageParam) "
      object := " AND " ++ procedureField ++ " = :objectParam " }
  | .schema =>
    { view := "all_procedures", usesOwner := true, owner := " AND OWNER = :ownerParam "
      object := " AND " ++ objectField ++ " = :objectParam " }
  | .schemaAndPackage =>
    { view := "all_procedures", usesOwner := true
      owner := " AND OWNER = :ownerParam AND " ++ objectField ++ " = :packageParam "
      object := " AND " ++ procedureField ++ " = :objectParam " }

/-- The rule of the views that hold arguments. -/
def argument : Qualification → OwnerCondition
  | .none => { view := "user_arguments", usesOwner := false, owner := "", object := "" }
  | .package =>
    { view := "all_arguments", usesOwner := true, object := ""
      owner := "AND (args.OWNER = :packageParam OR args.PACKAGE_NAME = :packageParam) " }
  | .schema =>
    { view := "all_arguments", usesOwner := true, object := ""
      owner := "AND args.OWNER = :ownerParam AND args.PACKAGE_NAME IS NULL " }
  | .schemaAndPackage =>
    { view := "all_arguments", usesOwner := true, object := ""
      owner := "AND args.OWNER = :ownerParam AND args.PACKAGE_NAME = :packageParam " }

end OwnerCondition

end OracleCatalog
