import OracleCatalog.Decimal.Sum
import OracleCatalog.Statement.Buffered
import OracleCatalog.Value.Whole

/-!
# Prepared statements

A prepared statement renames placeholders, places positional values behind those of earlier calls,
turns values tagged as truth values into integers, buffers rows on demand, and reads the large
objects of every row that it hands out.
-/

namespace OracleCatalog

/-- Whether the inner statement is a buffer, once that is decided. -/
inductive Wrapping where
  | undecided | unwrapped | buffered
  deriving DecidableEq, Inhabited

/-- The word that descriptions use for it. -/
def Wrapping.name : Wrapping → String
  | .undecided => "undecided"
  | .unwrapped => "unwrapped"
  | .buffered => "buffered"

/-- A prepared statement. -/
structure PreparedStatement where
  inner : InnerStatement
  /-- Whether the next execution buffers its rows. -/
  buffering : Value := .bool false
  /-- The placeholders that stand for others. -/
  placeholders : Entries := []
  /-- The text of the statement where it is not that of the inner one. -/
  ownText : Option String := none
  /-- The position of the next positional value. -/
  offset : Nat := 0
  wrapping : Wrapping := .undecided
  /-- The values bound so far under their final placeholders. -/
  bound : Entries := []
  deriving Inhabited

/-! ### Types of bound values -/

/-- How many members a value has. -/
def Value.size (v : Value) : Except Error Nat :=
  match v.members? with
  | some vs => .ok vs.length
  | none => .error (.wrongKind ("object of type '" ++ v.kind ++ "' has no len()"))

/-- The member at a position; a negative one counts from the end. -/
def Value.memberAt (v : Value) (position : Int) : Except Error Value :=
  let members := (v.members?).getD []
  let position := if position < 0 then position + members.length else position
  match position with
  | .ofNat n =>
    match members[n]? with
    | some member => .ok member
    | none => .error (.noPosition v.kind)
  | .negSucc _ => .error (.noPosition v.kind)

/-- The type given for a placeholder: under its key in a map, or at its position in a sequence. -/
def typeFor (types placeholder : Value) : Except Error Value :=
  if !types.truthy then .ok .null
  else
    match types, placeholder.position? with
    | .map entries, _ => .ok ((OrderedMap.get? placeholder entries).getD .null)
    | types, some position =>
      match types.size with
      | .error e => .error e
      | .ok size => if position < size then types.memberAt position else .ok .null
    | _, none => .ok .null

/-- A placeholder behind the positions that are taken. -/
def Value.behind (offset : Nat) : Value → Except Error Value
  | .int i => .ok (.int (i + offset))
  | .bool b => .ok (.int (b.toNat + offset))
  | .float x => .ok (.float (x + offset.toFloat))
  | .decimal d =>
    match d.sum (.finite false offset 0) with
    | .ok sum => .ok (.decimal sum)
    | .error signal => .error (.signaled signal)
  | .text _ => .error (.wrongKind "can only concatenate str (not \"int\") to str")
  | .tuple _ => .error (.wrongKind "can only concatenate tuple (not \"int\") to tuple")
  | .bytes _ => .error (.wrongKind "can't concat int to bytes")
  | v => .error (.wrongKind ("unsupported operand type(s) for +: '" ++ v.kind ++ "' and 'int'"))

namespace PreparedStatement

def onInner {α : Type} (action : Action InnerStatement α) : Action PreparedStatement α :=
  action.within (·.inner) fun inner statement => { statement with inner }

def text (statement : PreparedStatement) : String :=
  match statement.ownText with
  | some text => if text = "" then statement.inner.base.sql else text
  | none => statement.inner.base.sql

/-! ### Binding -/

/-- The placeholder that another one stands for. -/
def renamed (statement : PreparedStatement) (placeholder : Value) : Except Error Value := do
  let placeholder ← placeholder.asKey
  return (OrderedMap.get? placeholder statement.placeholders).getD placeholder

/-- A value that is bound under a type: under `boolean` it becomes an integer. -/
def typed (type value : Value) : Except Error Value :=
  if type.isText "boolean" then value.toDatabase.map Value.ofInt? else .ok value

def bindValue (placeholder value type : Value) : Action PreparedStatement Unit := do
  let placeholder ← Action.ofExcept ((← Action.state).renamed placeholder)
  let value ← Action.ofExcept (typed type value)
  let placeholder ← Action.ofExcept placeholder.asKey
  Action.change fun statement =>
    { statement with bound := statement.bound.put placeholder value }
  onInner (InnerStatement.onBase (PlainStatement.bindValue placeholder value))

/-- Binds one value after the other, positional ones behind those of earlier calls. -/
def bindEach (positional : Bool) (types : Value) (placements : Entries) :
    Action PreparedStatement Unit :=
  placements.forM fun (placeholder, value) => do
    let type ← Action.ofExcept (typeFor types placeholder)
    if positional then
      let offset := (← Action.state).offset
      bindValue (← Action.ofExcept (placeholder.behind offset)) value type
    else bindValue placeholder value type

/-- Whether the placeholders of a call are positions, which the first one tells. -/
def arePositions (placements : Entries) : Bool :=
  match placements with
  | (placeholder, _) :: _ => placeholder.position?.isSome
  | [] => false

def bind (parameters types : Value) : Action PreparedStatement Unit := do
  if !parameters.truthy then return ()
  let placements ← Action.ofExcept parameters.placements
  let positional := arePositions placements
  bindEach positional types placements
  if positional then
    Action.change fun statement =>
      { statement with offset := statement.offset + placements.length }

/-- Forgets all bindings; the next positional value is the first again. -/
def clearBindings : Action PreparedStatement Unit := do
  Action.change fun statement => { statement with offset := 0, bound := [] }
  onInner (InnerStatement.onBase PlainStatement.clearBindings)

/-! ### Executing -/

/-- The statement without the buffer of an earlier execution. -/
def released (statement : PreparedStatement) : PreparedStatement :=
  if statement.wrapping == .buffered then
    { statement with inner := statement.inner.unwrapped, wrapping := .unwrapped }
  else statement

/-- Puts a new buffer around the inner statement if rows are to be buffered. -/
def prepareBuffer : Action PreparedStatement Unit := do
  Action.change released
  if (← Action.state).buffering.truthy then
    Action.change fun statement =>
      { statement with inner := .buffered statement.inner {}, wrapping := .buffered }
    Action.note .preparedStatement .debug "Buffering results of method statement"
  else Action.change fun statement => { statement with wrapping := .unwrapped }

/-- Executes the statement. Parameters that count as true replace what is bound. -/
def execute (parameters : Value) : Action PreparedStatement Unit := do
  prepareBuffer
  if parameters.truthy then
    clearBindings
    bind parameters .null
  onInner (InnerStatement.execute .null)

/-! ### Fetching -/

def fetch (shape : RowShape) : Action PreparedStatement Value := do
  let row ← onInner (InnerStatement.fetch shape)
  Action.ofReading row.readLobs

def fetchAll (shape : RowShape) : Action PreparedStatement (List Value) := do
  let rows ← onInner (InnerStatement.fetchAll shape)
  Action.ofReading (rows.mapM Value.readLobs)

def close : Action PreparedStatement Unit := onInner InnerStatement.close

def rowCount (statement : PreparedStatement) : Value := statement.inner.rowCount

end PreparedStatement

end OracleCatalog
