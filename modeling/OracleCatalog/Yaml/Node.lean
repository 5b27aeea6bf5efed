import OracleCatalog.Yaml.Scalar
import OracleCatalog.Yaml.Token

/-!
# Nodes

The tokens of a document form a tree of scalars, lists and maps, each of a kind. Members of block
collections follow their dashes and keys, those of flow collections are parted by commas; what is
left out is null. An anchored node is repeated by its aliases.
-/

namespace OracleCatalog.Yaml

/-- A node of a document. -/
inductive Node where
  | scalar (kind : Kind) (text : String)
  | list (kind : Kind) (items : List Node)
  | map (kind : Kind) (entries : List (Node × Node))
  deriving Inhabited

namespace Node

def kind : Node → Kind
  | .scalar kind _ => kind
  | .list kind _ => kind
  | .map kind _ => kind

/-- What stands where a node is left out. -/
def missing : Node := .scalar .null ""

end Node

/-! ### Reading tokens -/

/-- The tokens that are left of a document, and what its names stand for. -/
structure Document where
  tokens : List Token
  handles : OrderedMap String String
  /-- The anchored nodes; one that is being read has a name but no node yet. -/
  anchors : OrderedMap String (Option Node) := []

/-- A part of a document being read. -/
abbrev Part (α : Type) := StateT Document (Except Failure) α

namespace Part

/-- A document that is no document. -/
def fail {α : Type} : Part α := throw .unreadable

/-- The next token, none at the end of the text. -/
def next? : Part (Option Token) := do
  match (← get).tokens with
  | [] => return none
  | .failed failure :: _ => throw failure
  | token :: _ => return some token

/-- Goes past the next token. -/
def skip : Part Unit := modify fun document => { document with tokens := document.tokens.drop 1 }

/-- Keeps what an anchor stands for. -/
def name (anchor : Option String) (node : Option Node) : Part Unit :=
  match anchor with
  | none => return
  | some name => modify fun document =>
    { document with anchors := document.anchors.put name node }

def repeated (name : String) : Part Node := do
  match OrderedMap.get? name (← get).anchors with
  | some (some node) => return node
  | _ => fail

def fullTag (tag : Tag) : Part String := do
  match tag.handle with
  | none => return tag.suffix
  | some handle =>
    match OrderedMap.get? handle (← get).handles with
    | some stem => return stem ++ tag.suffix
    | none => fail

/-- The anchor that comes next, if one does. -/
def anchor? : Part (Option String) := do
  match ← next? with
  | some (.anchor name) =>
    skip
    return some name
  | _ => return none

/-- The tag that comes next, if one does. -/
def tag? : Part (Option String) := do
  match ← next? with
  | some (.tag tag) =>
    skip
    return some (← fullTag tag)
  | _ => return none

/-- An anchor and a tag, in any order; an anchor has to be new. -/
def properties : Part (Option String × Option String) := do
  let anchor ← anchor?
  let tag ← tag?
  let anchor ← if anchor.isNone then anchor? else pure anchor
  let anchors := (← get).anchors
  if anchor.any (OrderedMap.has · anchors) then fail else return (anchor, tag)

def comma : Part Unit := do
  match ← next? with
  | some .comma => skip
  | _ => fail

end Part

/-! ### Tags of nodes -/

def scalarKind (tag : Option String) (plain : Bool) (text : String) : Kind :=
  match tag with
  | none => if plain then .ofText text else .text
  | some tag => if tag = "!" then .ofText text else .ofTag tag

/-- The kind of a collection whose form is `kind`. -/
def collectionKind (tag : Option String) (kind : Kind) : Kind :=
  match tag with
  | none => kind
  | some tag => if tag = "!" then kind else .ofTag tag

/-! ### What ends where -/

namespace Token

/-- Whether the item of a block list is left out before the token. -/
def endsItem : Option Token → Bool
  | some .dash => true
  | some .blockEnd => true
  | _ => false

/-- Whether a key or a value of a block map is left out before the token. -/
def endsMember : Option Token → Bool
  | some .key => true
  | some .value => true
  | some .blockEnd => true
  | _ => false

/-- Whether a key of a flow collection, closed by a list's bracket or a map's brace, is left out
before the token. -/
def endsFlowKey (inList : Bool) : Option Token → Bool
  | some .value => true
  | some .comma => true
  | some .listClose => inList
  | some .mapClose => !inList
  | _ => false

/-- Whether a value of a flow collection is left out before the token. -/
def endsFlowValue (inList : Bool) : Option Token → Bool
  | some .value => false
  | token => endsFlowKey inList token

end Token

/-! ### Trees -/

namespace Part

mutual

/-- The node that comes next. In flow style block collections are not allowed; a list may stand at
the margin of its key, where `atMargin` says so. `fuel` bounds the number of steps. -/
def node (block atMargin : Bool) : Nat → Part Node
  | 0 => fail
  | fuel + 1 => do
    match ← next? with
    | some (.alias name) =>
      skip
      repeated name
    | _ =>
      let (anchor, tag) ← properties
      name anchor none
      let node ← content block atMargin (anchor.isSome || tag.isSome) tag fuel
      name anchor (some node)
      return node

/-- The node behind its anchor and its tag, which may be left out if it has one. -/
def content (block atMargin owned : Bool) (tag : Option String) : Nat → Part Node
  | 0 => fail
  | fuel + 1 => do
    match ← next? with
    | some (.scalar plain text) =>
      skip
      return .scalar (scalarKind tag plain text) text
    | some .listOpen =>
      skip
      return .list (collectionKind tag .list) (← flowItems true fuel)
    | some .mapOpen =>
      skip
      return .map (collectionKind tag .map) (← flowEntries true fuel)
    | some .dash =>
      if atMargin then return .list (collectionKind tag .list) (← marginItems fuel)
      else if owned then return .scalar (scalarKind tag true "") ""
      else fail
    | some .listStart =>
      if block then
        skip
        return .list (collectionKind tag .list) (← blockItems fuel)
      else if owned then return .scalar (scalarKind tag true "") ""
      else fail
    | some .mapStart =>
      if block then
        skip
        return .map (collectionKind tag .map) (← blockEntries fuel)
      else if owned then return .scalar (scalarKind tag true "") ""
      else fail
    | _ => if owned then return .scalar (scalarKind tag true "") "" else fail

/-- The items of a list in block style up to its end. -/
def blockItems : Nat → Part (List Node)
  | 0 => fail
  | fuel + 1 => do
    match ← next? with
    | some .dash =>
      skip
      let item ← if Token.endsItem (← next?) then pure .missing else node true false fuel
      return item :: (← blockItems fuel)
    | some .blockEnd =>
      skip
      return []
    | _ => fail

/-- The items of a list at the margin of its key, which ends where no dash follows. -/
def marginItems : Nat → Part (List Node)
  | 0 => fail
  | fuel + 1 => do
    match ← next? with
    | some .dash =>
      skip
      let token ← next?
      let isMissing := Token.endsItem token || Token.endsMember token
      let item ← if isMissing then pure .missing else node true false fuel
      return item :: (← marginItems fuel)
    | _ => return []

/-- The entries of a map in block style up to its end. -/
def blockEntries : Nat → Part (List (Node × Node))
  | 0 => fail
  | fuel + 1 => do
    match ← next? with
    | some .key =>
      skip
      let key ← if Token.endsMember (← next?) then pure .missing else node true true fuel
      let value ← blockValue fuel
      return (key, value) :: (← blockEntries fuel)
    | some .blockEnd =>
      skip
      return []
    | _ => fail

def blockValue : Nat → Part Node
  | 0 => fail
  | fuel + 1 => do
    match ← next? with
    | some .value =>
      skip
      if Token.endsMember (← next?) then return .missing else node true true fuel
    | _ => return .missing

/-- The items of a list in flow style up to its bracket. A key makes an item a map of one entry. -/
def flowItems (first : Bool) : Nat → Part (List Node)
  | 0 => fail
  | fuel + 1 => do
    match ← next? with
    | some .listClose =>
      skip
      return []
    | _ =>
      if !first then comma
      match ← next? with
      | some .key =>
        skip
        let entry ← flowEntry true fuel
        return .map .map [entry] :: (← flowItems false fuel)
      | some .listClose =>
        skip
        return []
      | _ =>
        let item ← node false false fuel
        return item :: (← flowItems false fuel)

/-- The entries of a map in flow style up to its brace. -/
def flowEntries (first : Bool) : Nat → Part (List (Node × Node))
  | 0 => fail
  | fuel + 1 => do
    match ← next? with
    | some .mapClose =>
      skip
      return []
    | _ =>
      if !first then comma
      match ← next? with
      | some .key =>
        skip
        let entry ← flowEntry false fuel
        return entry :: (← flowEntries false fuel)
      | some .mapClose =>
        skip
        return []
      | _ =>
        let key ← node false false fuel
        return (key, .missing) :: (← flowEntries false fuel)

/-- A key in flow style and its value. -/
def flowEntry (inList : Bool) : Nat → Part (Node × Node)
  | 0 => fail
  | fuel + 1 => do
    let key ← if Token.endsFlowKey inList (← next?) then pure .missing else node false false fuel
    match ← next? with
    | some .value =>
      skip
      if Token.endsFlowValue inList (← next?) then return (key, .missing)
      else return (key, ← node false false fuel)
    | _ => return (key, .missing)

end

end Part

end OracleCatalog.Yaml
