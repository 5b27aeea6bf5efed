import OracleCatalog.Settings.Basic
import OracleCatalog.Text.Split
import OracleCatalog.Value.Members

/-!
# Catalog queries

A query is a text with placeholders and the values bound to them. What comes from names and settings
is bound and never stands in the text.
-/

namespace OracleCatalog

/-- A catalog query. -/
structure Query where
  text : String
  binds : OrderedMap String Value := []
  deriving Inhabited

/-- The bound values as the parameters of a statement. -/
def Query.boundEntries (query : Query) : Entries := query.binds.map fun (name, v) => (.text name, v)

def Query.toDocument (query : Query) : Value :=
  document [("sql", .text query.text), ("params", .map query.boundEntries)]

/-- A catalog column as a query reads it: folded to small letters where names are. -/
def foldedField (folding : CaseFolding) (field : String) : String :=
  match folding with
  | .asIs => field
  | .lower => "lower(" ++ field ++ ")"

/-- A column given as a value: only folding makes it a text. -/
def foldedColumn (folding : CaseFolding) (field : Value) : Value :=
  match folding with
  | .asIs => field
  | .lower => .text (foldedField .lower field.toText)

/-! ### Pieces of texts -/

/-- A text that stands in the query only when the query looks into a schema. -/
def whenOwned (owned : Bool) (text : String) : String := if owned then text else ""

/-- A view of the user or, when the query looks into a schema, of all users. -/
def viewName (owned : Bool) (view : String) : String := (if owned then "all_" else "user_") ++ view

def indented (width : Nat) (line : String) : String :=
  String.ofList (List.replicate width ' ') ++ line

def fieldLines (width : Nat) (fields : List String) : String :=
  Text.join ",\n" (fields.map (indented width))

end OracleCatalog
