import OracleCatalog.Yaml.Content

/-!
# Reading YAML

A text holds at most one document, with directives and a mark before it and marks behind it as it
likes. A text without a document is null.
-/

namespace OracleCatalog.Yaml

/-! ### Characters -/

def lineEnds : List Char → List Char
  | [] => []
  | ['\r'] => ['\n']
  | '\r' :: c :: cs => if c = '\n' then '\n' :: lineEnds cs else '\n' :: lineEnds (c :: cs)
  | c :: cs => c :: lineEnds cs

/-- Whether a document may hold the character. -/
def isAllowed (c : Char) : Bool :=
  let n := c.toNat
  n = 9 || n = 10 || n = 13 || (0x20 ≤ n && n ≤ 0x7E) || n = 0x85 ||
    (0xA0 ≤ n && n ≤ 0xFFFD) || 0x10000 ≤ n

/-! ### Directives -/

/-- What handles stand for where no directive says otherwise. -/
def ownHandles : OrderedMap String String := [("!", "!"), ("!!", ownTags)]

/-- The handles that directives give, and the tokens behind them. The version, of which there is one
at most, has to be the first; `versioned` says that there has been one. -/
def handlesOf (versioned : Bool) (handles : OrderedMap String String) :
    List Token → Reading (OrderedMap String String × List Token)
  | .directive (.version major) :: tokens =>
    if versioned || major ≠ 1 then .error .unreadable else handlesOf true handles tokens
  | .directive (.handle name stem) :: tokens =>
    if OrderedMap.has name handles then .error .unreadable
    else handlesOf versioned (handles.put name stem) tokens
  | .directive .unknown :: tokens => handlesOf versioned handles tokens
  | tokens => .ok (ownHandles.update handles, tokens)

/-! ### Documents -/

/-- Reads the node that comes next, with handles. -/
def nodeOf (handles : OrderedMap String String) (tokens : List Token) :
    Reading (Node × List Token) := do
  let (node, document) ← (Part.node true false (4 * tokens.length + 8)).run { tokens, handles }
  return (node, document.tokens)

/-- The node behind the mark that opens a document; it may be left out. -/
def openedNode (handles : OrderedMap String String) : List Token → Reading (Node × List Token)
  | [] => .ok (.missing, [])
  | tokens@(.directive _ :: _) => .ok (.missing, tokens)
  | tokens@(.opening :: _) => .ok (.missing, tokens)
  | tokens@(.closing :: _) => .ok (.missing, tokens)
  | tokens => nodeOf handles tokens

/-- The node of the first document, and what follows it. -/
def firstNode (tokens : List Token) : Reading (Node × List Token) :=
  let opened : Reading (Node × List Token) := do
    let (handles, tokens) ← handlesOf false [] tokens
    match tokens with
    | .opening :: tokens => openedNode handles tokens
    | .failed failure :: _ => throw failure
    | _ => throw .unreadable
  match tokens with
  | .directive _ :: _ => opened
  | .opening :: _ => opened
  | _ => nodeOf ownHandles tokens

/-- Whether nothing follows a document but the marks that close it. -/
def endsHere : List Token → Reading Unit
  | [] => .ok ()
  | .closing :: tokens => endsHere tokens
  | .failed failure :: _ => .error failure
  | _ => .error .unreadable

def read (s : String) : Reading Value := do
  let cs := lineEnds s.toList
  if !cs.all isAllowed then throw .unreadable
  let tokens := Token.ofChars cs
  if tokens.isEmpty then return .null
  let (node, rest) ← firstNode tokens
  endsHere rest
  node.value

end OracleCatalog.Yaml
