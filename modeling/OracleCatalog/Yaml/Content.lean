import OracleCatalog.Text.Base64
import OracleCatalog.Yaml.Node

/-!
# Values of nodes

Each node stands for a value of its kind. The merge key of a map brings the entries of other maps,
which give way to its own. Nodes are looked at level by level, so that of several failures the one
nearest to the root counts, and of those the first.
-/

namespace OracleCatalog.Yaml

/-- A pair of a key and a value. -/
abbrev NodeEntries := List (Node × Node)

namespace Node

/-! ### Scalars -/

mutual

/-- The text of a node that has to be a scalar. A map with a value key stands for that value. -/
def text? : Node → Option String
  | .scalar _ text => some text
  | .list .. => none
  | .map _ entries => valueText? entries

/-- The text of the value behind the first value key. -/
def valueText? : List (Node × Node) → Option String
  | [] => none
  | (.scalar .value _, v) :: _ => v.text?
  | (.list .value _, v) :: _ => v.text?
  | (.map .value _, v) :: _ => v.text?
  | _ :: entries => valueText? entries

end

def scalarText (node : Node) : Reading String := orUnreadable node.text?

/-- The bytes of a scalar in base sixty-four. -/
def binaryOf (s : String) : Reading (List UInt8) :=
  if s.toList.all (·.toNat < 0x80) then orUnreadable (Text.base64Bytes s.toList)
  else .error .unreadable

/-- The value of a node of a kind that scalars have. Timestamps are kept as they are written. -/
def scalarValue (node : Node) : Reading Value := do
  match node.kind with
  | .null =>
    let _ ← node.scalarText
    return .null
  | .bool => return .bool (← truthOf (← node.scalarText))
  | .int => return .int (← integerOf (← node.scalarText))
  | .float => return .float (← floatOf (← node.scalarText))
  | .timestamp =>
    let s ← node.scalarText
    checkTimestamp s.toList
    return .text s
  | .binary => return .bytes (← binaryOf (← node.scalarText))
  | .text => return .text (← node.scalarText)
  | _ => throw .unreadable

/-! ### Maps -/

def asText : Node → Node
  | .scalar .value text => .scalar .text text
  | .list .value items => .list .text items
  | .map .value entries => .map .text entries
  | node => node

mutual

/-- The entries that the value of a merge key brings. Of several maps the first one wins. -/
def merged : Node → Option NodeEntries
  | .map _ entries => flattened entries
  | .list _ items => mergedAll items
  | .scalar .. => none

/-- The entries of several maps, those of the last map first. -/
def mergedAll : List Node → Option NodeEntries
  | [] => some []
  | .map _ entries :: items => do
    let own ← flattened entries
    return (← mergedAll items) ++ own
  | _ => none

/-- The entries of a map after those that its merge keys bring. -/
def flattened (entries : List (Node × Node)) : Option NodeEntries := do
  let (brought, own) ← partedEntries entries
  return brought ++ own

/-- The entries that merge keys bring, and the other entries. -/
def partedEntries : List (Node × Node) → Option (NodeEntries × NodeEntries)
  | [] => some ([], [])
  | (key, value) :: entries =>
    if key.kind = .merge then do
      let more ← value.merged
      let (brought, own) ← partedEntries entries
      return (more ++ brought, own)
    else do
      let (brought, own) ← partedEntries entries
      return (brought, (key.asText, value) :: own)

end

def entriesOf : Node → Reading NodeEntries
  | .map _ entries => orUnreadable (flattened entries)
  | _ => .error .unreadable

/-! ### Failures by levels -/

/-- Whether a node has members that are looked at later. -/
def isDeep (node : Node) : Bool := [Kind.list, .map, .set, .pairs].contains node.kind

/-- Looks at a node, its members apart. Those that have members are kept for later. -/
def look (later : List Node) (node : Node) : Reading (List Node) :=
  if node.isDeep then .ok (later ++ [node]) else node.scalarValue.map fun _ => later

/-- Looks at a key; a collection cannot be one. -/
def lookKey (later : List Node) (key : Node) : Reading (List Node) := do
  let later ← look later key
  if key.isDeep then throw .unreadable else return later

def lookInside (later : List Node) (node : Node) : Reading (List Node) := do
  match node.kind, node with
  | .list, .list _ items => items.foldlM look later
  | .pairs, .list _ items =>
    items.foldlM (fun later item => do
      match item with
      | .map _ [(key, value)] => look (← look later key) value
      | _ => throw .unreadable) later
  | .map, _ | .set, _ =>
    (← node.entriesOf).foldlM (fun later entry => do look (← lookKey later entry.1) entry.2) later
  | _, _ => throw .unreadable

/-- Looks at nodes, then at their members, and so on; `fuel` bounds the number of levels. -/
def lookThrough : Nat → List Node → Reading Unit
  | 0, _ => .ok ()
  | fuel + 1, nodes =>
    if nodes.isEmpty then .ok ()
    else do lookThrough fuel (← nodes.foldlM lookInside [])

mutual

/-- How many levels a node has. -/
def depth : Node → Nat
  | .scalar .. => 1
  | .list _ items => depthOfAll items + 1
  | .map _ entries => depthOfEntries entries + 1

/-- How many levels the deepest of several nodes has. -/
def depthOfAll : List Node → Nat
  | [] => 0
  | node :: nodes => max node.depth (depthOfAll nodes)

/-- How many levels the deepest key or value has. -/
def depthOfEntries : List (Node × Node) → Nat
  | [] => 0
  | (key, value) :: entries => max (max key.depth value.depth) (depthOfEntries entries)

end

/-! ### Values -/

/-- The value of a node; `fuel` bounds the number of levels. A set is kept as a map without
values. -/
def build : Nat → Node → Reading Value
  | 0, _ => .error .unreadable
  | fuel + 1, node => do
    let entries (value : Node → Reading Value) : Reading Entries := do
      (← node.entriesOf).foldlM (fun map (key, v) => do
        return OrderedMap.put (← build fuel key) (← value v) map) []
    match node.kind, node with
    | .list, .list _ items => return .list (← items.mapM (build fuel))
    | .pairs, .list _ items =>
      return .list (← items.mapM fun item => do
        match item with
        | .map _ [(key, value)] => return .tuple [← build fuel key, ← build fuel value]
        | _ => throw .unreadable)
    | .map, _ => return .map (← entries (build fuel))
    | .set, _ => return .map (← entries fun _ => pure .null)
    | _, _ => node.scalarValue

def value (node : Node) : Reading Value := do
  lookThrough node.depth (← look [] node)
  build node.depth node

end Node

end OracleCatalog.Yaml
