import OracleCatalog.Yaml.BlockScalar
import OracleCatalog.Yaml.Plain
import OracleCatalog.Yaml.Quoted
import OracleCatalog.Yaml.Tag

/-!
# Tokens

A document is a list of tokens. Block collections have no marks of their own: they start where a
line stands further right than the collection around it and end where one stands further left. A key
needs no mark either: the colon behind it shows what it was, so that its token is put in later.
-/

namespace OracleCatalog.Yaml

/-- A token. -/
inductive Token where
  | directive (directive : Directive)
  /-- The mark before a document. -/
  | opening
  /-- The mark behind a document. -/
  | closing
  | listStart
  | mapStart
  | blockEnd
  /-- The dash before an item. -/
  | dash
  | key
  | value
  /-- The brackets of a list and the braces of a map in flow style. -/
  | listOpen | listClose | mapOpen | mapClose
  | comma
  | anchor (name : String)
  | alias (name : String)
  | tag (tag : Tag)
  | scalar (plain : Bool) (text : String)
  /-- From here on the text is malformed. -/
  | failed (failure : Failure)
  deriving Inhabited

/-! ### What has been read -/

/-- A token that turns out to be a key if a colon follows on its line. -/
structure Candidate where
  /-- How many tokens come before it. -/
  number : Nat
  /-- Whether nothing but a key can stand there. -/
  required : Bool
  position : Position

/-- How far a document has been read. -/
structure Progress where
  place : Place
  /-- The tokens so far, the last one first. -/
  tokens : List Token := []
  /-- The first column that belongs to the innermost block collection's members. -/
  margin : Nat := 0
  /-- The margins of the collections around it. -/
  margins : List Nat := []
  /-- The candidate for a key outside of flow style. -/
  candidate : Option Candidate := none
  /-- The candidates of the flow collections around, the innermost one first. -/
  flowCandidates : List (Option Candidate) := []
  /-- Whether a key may start here. -/
  keyAllowed : Bool := true

namespace Progress

/-- Whether a flow collection is open. -/
def inFlow (p : Progress) : Bool := !p.flowCandidates.isEmpty

def push (token : Token) (p : Progress) : Progress := { p with tokens := token :: p.tokens }

def insert (number : Nat) (token : Token) (p : Progress) : Progress :=
  { p with tokens := p.tokens.insertIdx (p.tokens.length - number) token }

/-- The progress with a token for the next `count` characters. -/
def mark (token : Token) (count : Nat) (p : Progress) : Progress :=
  { p.push token with place := p.place.forward count }

/-! ### Margins -/

/-- Ends the collections that stand further right than a margin. -/
def unwindTo (margin : Nat) : List Nat → Progress → Progress
  | [], p => p
  | outer :: margins, p =>
    if margin < p.margin then
      unwindTo margin margins { p.push .blockEnd with margin := outer, margins }
    else p

/-- Ends the block collections that a line at a margin is not part of. -/
def unwind (margin : Nat) (p : Progress) : Progress :=
  if p.inFlow then p else unwindTo margin p.margins p

/-- Whether a block collection can start in a column. -/
def opensAt (column : Nat) (p : Progress) : Bool := p.margin ≤ column

/-- The progress inside a block collection that starts in a column. -/
def indent (column : Nat) (p : Progress) : Progress :=
  { p with margin := column + 1, margins := p.margin :: p.margins }

/-! ### Candidates for keys -/

/-- The candidate of the innermost flow collection, or of the block around. -/
def pending (p : Progress) : Option Candidate :=
  match p.flowCandidates with
  | [] => p.candidate
  | candidate :: _ => candidate

def withPending (candidate : Option Candidate) (p : Progress) : Progress :=
  match p.flowCandidates with
  | [] => { p with candidate }
  | _ :: outer => { p with flowCandidates := candidate :: outer }

/-- Whether no colon can make a key of a candidate any more. -/
def isStale (place : Place) (candidate : Candidate) : Bool :=
  candidate.position.line ≠ place.line || 1024 < place.index - candidate.position.index

/-- Gives up the candidates that have become stale. -/
def dropStale (p : Progress) : Reading Progress :=
  let stale (candidate : Option Candidate) : Bool := candidate.any (isStale p.place)
  let keep (candidate : Option Candidate) : Option Candidate :=
    if stale candidate then none else candidate
  if stale p.candidate && p.candidate.any (·.required) then .error .unreadable
  else .ok { p with
    candidate := keep p.candidate, flowCandidates := p.flowCandidates.map keep }

/-- Gives up the candidate. -/
def dropPending (p : Progress) : Reading Progress :=
  if p.pending.any (·.required) then .error .unreadable else .ok (p.withPending none)

/-- The progress with the next token as a candidate, where a key may start. -/
def propose (p : Progress) : Reading Progress :=
  if p.keyAllowed then do
    let required := !p.inFlow && p.margin = p.place.column + 1
    let q ← p.dropPending
    return q.withPending
      (some { number := p.tokens.length, required, position := p.place.toPosition })
  else .ok p

/-! ### Single tokens -/

/-- A directive, or a mark between documents. -/
def betweenDocuments (p : Progress) : Reading Progress := do
  let p ← (p.unwind 0).dropPending
  return { p with keyAllowed := false }

def openFlow (token : Token) (p : Progress) : Reading Progress := do
  let p ← p.propose
  return { p.mark token 1 with
    keyAllowed := true, flowCandidates := none :: p.flowCandidates }

/-- The bracket or brace that closes a flow collection; one must be open. -/
def closeFlow (token : Token) (p : Progress) : Reading Progress := do
  let p ← p.dropPending
  match p.flowCandidates with
  | [] => throw .unreadable
  | _ :: outer => return { p.mark token 1 with keyAllowed := false, flowCandidates := outer }

/-- The progress with a block collection open for a member that starts here. -/
def openBlock (token : Token) (p : Progress) : Reading Progress :=
  if p.inFlow then .ok p
  else if !p.keyAllowed then .error .unreadable
  else if p.opensAt p.place.column then .ok ((p.indent p.place.column).push token)
  else .ok p

def readDash (p : Progress) : Reading Progress := do
  let p ← (← p.openBlock .listStart).dropPending
  return { p.mark .dash 1 with keyAllowed := true }

def readKey (p : Progress) : Reading Progress := do
  let p ← (← p.openBlock .mapStart).dropPending
  return { p.mark .key 1 with keyAllowed := !p.inFlow }

/-- The colon before a value, which makes a key of the candidate. -/
def readColon (p : Progress) : Reading Progress := do
  match p.pending with
  | some candidate =>
    let p := (p.withPending none).insert candidate.number .key
    let column := candidate.position.column
    let p :=
      if !p.inFlow && p.opensAt column then
        (p.indent column).insert candidate.number .mapStart
      else p
    return { p.mark .value 1 with keyAllowed := false }
  | none =>
    let p ← p.openBlock .mapStart
    return { p.mark .value 1 with keyAllowed := !p.inFlow }

/-- A token that may be a key; `read` gives it and the place behind it. -/
def readNode (read : Place → Reading (Token × Place)) (p : Progress) : Reading Progress := do
  let p ← p.propose
  let (token, place) ← read p.place
  return { p.push token with place, keyAllowed := false }

def readBlockScalar (folds : Bool) (p : Progress) : Reading Progress := do
  let p ← p.dropPending
  let (text, place) ← blockScalarAt folds p.margin (p.place.forward 1)
  return { p.push (.scalar false text) with place, keyAllowed := true }

def readPlain (p : Progress) : Reading Progress := do
  let scalar := plainAt p.inFlow p.margin p.place
  let p ← p.propose
  return { p.push (.scalar true (String.ofList scalar.chars)) with
    place := scalar.place, keyAllowed := scalar.crossed }

/-- The token whose first character is `c`, which `rest` follows. -/
def readToken (c : Char) (rest : List Char) (p : Progress) : Reading Progress := do
  if c = '%' && p.place.column = 0 then
    let p ← p.betweenDocuments
    let (directive, place) ← directiveAt p.place
    return { p.push (.directive directive) with place }
  else if p.place.atDocumentMark then
    return (← p.betweenDocuments).mark (if c = '-' then .opening else .closing) 3
  else if c = '[' then p.openFlow .listOpen
  else if c = '\x7b' then p.openFlow .mapOpen
  else if c = ']' then p.closeFlow .listClose
  else if c = '\x7d' then p.closeFlow .mapClose
  else if c = ',' then
    return { (← p.dropPending).mark .comma 1 with keyAllowed := true }
  else if c = '-' && isGap rest then p.readDash
  else if c = '?' && (p.inFlow || isGap rest) then p.readKey
  else if c = ':' && (p.inFlow || isGap rest) then p.readColon
  else if c = '*' then p.readNode fun start => (anchorAt start).map (Prod.map .alias id)
  else if c = '&' then p.readNode fun start => (anchorAt start).map (Prod.map .anchor id)
  else if c = '!' then p.readNode fun start => (tagAt start).map (Prod.map .tag id)
  else if (c = '|' || c = '>') && !p.inFlow then p.readBlockScalar (c = '>')
  else if c = '\'' || c = '"' then
    p.readNode fun start => (quotedAt start).map (Prod.map (.scalar false) id)
  else if startsPlain p.inFlow p.place.rest then p.readPlain
  else throw .unreadable

/-- The progress at the next token, with the collections ended that it is not part of. -/
def toNext (p : Progress) : Reading Progress := do
  let place := p.place.next
  let newLine := place.line ≠ p.place.line && !p.inFlow
  let p ← dropStale { p with place, keyAllowed := p.keyAllowed || newLine }
  return p.unwind (place.column + 1)

/-- How many tokens are certain: those before the first candidate for a key. -/
def certain (p : Progress) : Nat :=
  let candidates := (p.candidate :: p.flowCandidates).filterMap id
  (candidates.filter fun c => !isStale p.place c).foldl (fun n c => min n c.number) p.tokens.length

/-- The tokens of a text of which what comes next is malformed. What is not yet certain is of no use
to anyone. -/
def failing (failure : Failure) (p : Progress) : List Token :=
  p.tokens.reverse.take p.certain ++ [.failed failure]

/-- The tokens of a text, in order; `fuel` bounds their number. -/
def tokensFrom : Nat → Progress → List Token
  | 0, p => p.tokens.reverse
  | fuel + 1, p =>
    let step : Reading (Progress × Bool) := do
      let p ← p.toNext
      match p.place.rest with
      | [] => return (← (p.unwind 0).dropPending, true)
      | c :: rest => return (← p.readToken c rest, false)
    match step with
    | .error failure => p.failing failure
    | .ok (p, true) => p.tokens.reverse
    | .ok (p, false) => tokensFrom fuel p

end Progress

def Token.ofChars (cs : List Char) : List Token :=
  Progress.tokensFrom (cs.length + 1) { place := { rest := cs } }

end OracleCatalog.Yaml
