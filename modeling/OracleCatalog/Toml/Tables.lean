import OracleCatalog.Value.Basic

/-!
# Tables in the making

A document fills nested tables. A table may be opened by one header only, a key gets one value, and
a value that is itself a table or a list is sealed: nothing can be added to it afterwards.
-/

namespace OracleCatalog.Toml

abbrev Path := List String

/-- The table at a path changed. Missing tables on the way are made; of a list of tables the last
one is meant; any other value in the way makes the path impossible. -/
def changeAt (change : Entries → Option Entries) : Path → Entries → Option Entries
  | [], table => change table
  | key :: path, table =>
    match OrderedMap.get? (Value.text key) table with
    | none => (changeAt change path []).map fun inner => table.put (.text key) (.map inner)
    | some (.map inner) =>
      (changeAt change path inner).map fun inner => table.put (.text key) (.map inner)
    | some (.list items) =>
      match items.getLast? with
      | some (.map inner) =>
        (changeAt change path inner).map fun inner =>
          table.put (.text key) (.list (items.dropLast ++ [.map inner]))
      | _ => none
    | some _ => none

/-- A table with one more entry, if the key is new. -/
def addEntry (key : String) (value : Value) (table : Entries) : Option Entries :=
  if OrderedMap.has (Value.text key) table then none else some (table.put (.text key) value)

/-- A table with one more table in the list of a key. -/
def addTable (key : String) (table : Entries) : Option Entries :=
  match OrderedMap.get? (Value.text key) table with
  | none => some (table.put (.text key) (.list [.map []]))
  | some (.list items) => some (table.put (.text key) (.list (items ++ [.map []])))
  | some _ => none

/-- Tables in the making. -/
structure Draft where
  root : Entries := []
  /-- The tables that no header may open any more. -/
  opened : List Path := []
  /-- The tables that keys with dots have made since the last header. -/
  implied : List Path := []
  /-- The values to which nothing can be added. -/
  sealed : List Path := []
  deriving Inhabited

namespace Draft

/-- Whether nothing can be added at a path. -/
def isSealed (draft : Draft) (path : Path) : Bool := draft.sealed.any (·.isPrefixOf path)

/-- The draft at a header: what keys with dots have made is as good as opened. -/
def atHeader (draft : Draft) : Draft :=
  { draft with opened := draft.opened ++ draft.implied, implied := [] }

def openTable (draft : Draft) (path : Path) : Option Draft :=
  let draft := draft.atHeader
  if draft.opened.contains path || draft.isSealed path then none
  else
    (changeAt some path draft.root).map fun root =>
      { draft with root, opened := draft.opened ++ [path] }

/-- The draft after the header of one more table in a list: what was said of the ones before is
forgotten. -/
def openItem (draft : Draft) (path : Path) : Option Draft :=
  let draft := draft.atHeader
  if draft.isSealed path then none
  else
    (changeAt (addTable (path.getLast?.getD "")) path.dropLast draft.root).map fun root =>
      { draft with
        root
        opened := draft.opened.filter (!path.isPrefixOf ·) ++ [path]
        sealed := draft.sealed.filter (!path.isPrefixOf ·) }

/-- The tables between a header and the last key of a path below it. -/
def between (header : Path) : Path → List Path
  | [] => []
  | [_] => []
  | key :: path => (header ++ [key]) :: between (header ++ [key]) path

/-- Whether a value is sealed once it is there. -/
def seals : Value → Bool
  | .map _ => true
  | .list _ => true
  | _ => false

/-- The draft after a key below a header has got its value. -/
def put (draft : Draft) (header path : Path) (value : Value) : Option Draft :=
  let parents := between header path
  let parent := header ++ path.dropLast
  if parents.any draft.opened.contains || draft.isSealed parent then none
  else
    (changeAt (addEntry (path.getLast?.getD "") value) parent draft.root).map fun root =>
      { draft with
        root
        implied := draft.implied ++ parents
        sealed := if seals value then draft.sealed ++ [header ++ path] else draft.sealed }

end Draft

end OracleCatalog.Toml
