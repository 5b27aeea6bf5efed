import OracleCatalog.DataType.Catalog
import OracleCatalog.Journal
import OracleCatalog.Settings.Basic

/-!
# Catalog rows

A row of a catalog query maps field names to values. Field names are read in small letters; where
two fields have one name in small letters, the later one counts.
-/

namespace OracleCatalog

open OracleCatalog.Text

/-- A row of the catalog: its values under the field names in small letters. -/
abbrev Row := OrderedMap String Value

namespace Row

def ofEntries (entries : Entries) : Row :=
  OrderedMap.ofEntries (entries.map fun (key, v) => (lower key.toText, v))

/-- A field that every row of a query has. -/
def field (name : String) (row : Row) : Except Error Value :=
  match OrderedMap.get? name row with
  | some v => .ok v
  | none => .error (.noField name)

/-- A field that a row may lack; it is null then. -/
def fieldOrNull (name : String) (row : Row) : Value := (OrderedMap.get? name row).getD .null

end Row

/-- A name of the catalog, folded to small letters where names are; null stays null. -/
def foldedName (folding : CaseFolding) (name : Value) : Except Error Value :=
  match folding with
  | .asIs => .ok name
  | .lower => if name.isNull then .ok name else name.toLower

def noteUnknownType (type : CatalogType) (owner name : Value) : Noted Unit :=
  match type with
  | .unknown nativeName =>
    Noted.note .dialect .warning
      ("Catalog type '" ++ nativeName ++ "' of " ++ owner.toText ++ "." ++ name.toText ++
        " has no abstract mapping")
  | _ => pure ()

end OracleCatalog
