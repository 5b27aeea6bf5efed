import OracleCatalog.Statement.Plain

/-!
# Buffered statements

A buffer keeps every row that it hands out. Its rows are pulled one at a time from the statement
that it is wrapped around. Once that has no more, it is closed, and the buffer hands its own rows
out again, from the first one on. A row without values counts as the end.
-/

namespace OracleCatalog

/-- How far a buffer has come. -/
inductive Progress where
  | unread | reading | complete
  deriving DecidableEq, Inhabited

/-- The word that descriptions use for it. -/
def Progress.name : Progress → String
  | .unread => "not_fetched"
  | .reading => "fetching"
  | .complete => "all_fetched"

/-- A buffer. -/
structure Buffer where
  rows : List Value := []
  /-- How many fetches have been answered from the buffer. -/
  index : Nat := 0
  progress : Progress := .unread
  deriving Inhabited

namespace Buffer

/-- Whether the buffer has every row. -/
def isComplete (buffer : Buffer) : Bool := buffer.progress == .complete

/-- The buffer with every row that it will have. -/
def completed (buffer : Buffer) : Buffer := { buffer with progress := .complete }

/-- A kept row in the given shape. A row that was kept as a map can be handed out as a list. -/
def reshaped (shape : RowShape) (row : Value) : Value :=
  match row, shape with
  | .map entries, .sequence => .list (OrderedMap.values entries)
  | row, _ => row

/-- The row of the next fetch from the buffer; null behind the last one. -/
def replay (shape : RowShape) (buffer : Buffer) : Value × Buffer :=
  (reshaped shape (buffer.rows[buffer.index]?.getD .null),
    { buffer with index := buffer.index + 1 })

end Buffer

/-- A statement on a cursor, or a buffer around a statement. -/
inductive InnerStatement where
  | plain (statement : PlainStatement)
  | buffered (inner : InnerStatement) (buffer : Buffer)
  deriving Inhabited

namespace InnerStatement

/-! ### The statement at the bottom -/

def base : InnerStatement → PlainStatement
  | .plain statement => statement
  | .buffered inner _ => inner.base

/-- Puts another statement on the cursor. -/
def withBase (statement : PlainStatement) : InnerStatement → InnerStatement
  | .plain _ => .plain statement
  | .buffered inner buffer => .buffered (inner.withBase statement) buffer

def onBase {α : Type} (action : Action PlainStatement α) : Action InnerStatement α :=
  action.within base withBase

/-- The outermost buffer, if there is one. -/
def buffer? : InnerStatement → Option Buffer
  | .plain _ => none
  | .buffered _ buffer => some buffer

/-- The statement inside the outermost buffer. -/
def unwrapped : InnerStatement → InnerStatement
  | .plain statement => .plain statement
  | .buffered inner _ => inner

def emptied : InnerStatement → InnerStatement
  | .plain statement => .plain statement
  | .buffered inner _ => .buffered inner.emptied {}

/-- Executes the statement; the buffers are emptied first. -/
def execute (parameters : Value) : Action InnerStatement Unit := do
  Action.change emptied
  onBase (PlainStatement.execute parameters)

/-! ### Closing -/

/-- Closes the cursor, unless a buffer that has every row has done so. -/
def closeFrom : InnerStatement → Environment → Outcome InnerStatement Unit
  | .plain statement, env =>
    let outcome := PlainStatement.close.perform statement env
    { result := outcome.result, state := .plain outcome.state, environment := outcome.environment }
  | .buffered inner buffer, env =>
    if buffer.isComplete then
      { result := .ok (), state := .buffered inner buffer, environment := env }
    else
      let outcome := closeFrom inner env
      { outcome with state := .buffered outcome.state buffer.completed }

/-- Closes the cursor, unless a buffer that has every row has done so. -/
def close : Action InnerStatement Unit := Action.ofFunction closeFrom

/-! ### Fetching -/

def fetchFrom (shape : RowShape) : InnerStatement → Environment → Outcome InnerStatement Value
  | .plain statement, env =>
    let outcome := (PlainStatement.fetch shape).perform statement env
    { result := outcome.result, state := .plain outcome.state, environment := outcome.environment }
  | .buffered inner buffer, env =>
    if buffer.isComplete then
      let (row, buffer) := buffer.replay shape
      { result := .ok row, state := .buffered inner buffer, environment := env }
    else
      let fetched := fetchFrom shape inner env
      match fetched.result with
      | .error e => { fetched with result := .error e, state := .buffered fetched.state buffer }
      | .ok row =>
        if !row.truthy then
          let closed := closeFrom fetched.state fetched.environment
          { result := closed.result.map fun _ => .null
            state := .buffered closed.state buffer.completed
            environment := closed.environment }
        else
          let (read, shelf) := row.readLobs.run.run fetched.environment.shelf
          let environment := { fetched.environment with shelf }
          let buffer := { buffer with progress := .reading }
          match read with
          | .error e =>
            { result := .error e, state := .buffered fetched.state buffer, environment }
          | .ok row =>
            { result := .ok row
              state := .buffered fetched.state { buffer with rows := buffer.rows ++ [row] }
              environment }

def fetch (shape : RowShape) : Action InnerStatement Value := Action.ofFunction (fetchFrom shape)

/-- How many rows can be fetched at most before the end is found. -/
def remaining : InnerStatement → Nat
  | .plain statement => statement.cursor.rows.length
  | .buffered inner buffer =>
    if buffer.isComplete then buffer.rows.length - buffer.index else inner.remaining

/-- Whether the outermost buffer has every row. -/
def isComplete : InnerStatement → Bool
  | .plain _ => true
  | .buffered _ buffer => buffer.isComplete

/-- Fetches until the outermost buffer has every row, `bound` times at most. -/
def drain (shape : RowShape) : Nat → Action InnerStatement Unit
  | 0 => pure ()
  | bound + 1 => do
    if (← Action.state).isComplete then return ()
    let _ ← fetch shape
    drain shape bound

/-- Fetches all rows; a buffer hands out everything that it has kept. -/
def fetchAll (shape : RowShape) : Action InnerStatement (List Value) := do
  match ← Action.state with
  | .plain _ => onBase (PlainStatement.fetchAll shape)
  | statement =>
    drain shape (statement.remaining + 1)
    return ((← Action.state).buffer?.map (·.rows)).getD []

/-- The number of rows: of a buffer that has every row, its own. -/
def rowCount : InnerStatement → Value
  | .plain statement => statement.rowCount
  | .buffered inner buffer => if buffer.isComplete then .int buffer.rows.length else inner.rowCount

end InnerStatement

end OracleCatalog
