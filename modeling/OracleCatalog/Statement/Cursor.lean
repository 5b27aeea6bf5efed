import OracleCatalog.Session.Action
import OracleCatalog.Value.Members

/-!
# Cursors

A cursor hands out the rows of the last execution that succeeded, in order and each once. Closing it
is an event and changes nothing else.
-/

namespace OracleCatalog

/-- A cursor of the database. -/
structure Cursor where
  number : Nat
  /-- The names of the columns, none where nothing has been described. -/
  columns : List Value := []
  /-- The rows that have not been fetched. -/
  rows : List (List Value) := []
  /-- How many rows have been fetched. -/
  fetched : Nat := 0
  rowCount : Value := .null
  failure : Option FetchFailure := none
  deriving Inhabited

namespace Cursor

def holding (cursor : Cursor) (reply : Reply) : Cursor :=
  { number := cursor.number
    columns := reply.columns.getD []
    rows := reply.rows
    rowCount := reply.rowCount
    failure := reply.fetchFailure }

/-- Executes a statement. A failing one leaves the earlier result in place. -/
def execute (sql : String) (parameters : Value) : Action Cursor Unit :=
  Action.ofFunction fun cursor env =>
    let (reply, env) :=
      (env.observe (.execute cursor.number sql parameters)).takeReply sql parameters
    match reply.failure with
    | some fault => { result := .error (.raised fault), state := cursor, environment := env }
    | none => { result := .ok (), state := cursor.holding reply, environment := env }

def nextFault (cursor : Cursor) : Option Fault :=
  match cursor.failure with
  | some failure => if failure.after ≤ cursor.fetched then some failure.fault else none
  | none => none

/-- Takes the next row, none behind the last one. -/
def takeRow (cursor : Cursor) : Except Error (Option (List Value)) × Cursor :=
  match cursor.nextFault with
  | some fault => (.error (.raised fault), cursor)
  | none =>
    match cursor.rows with
    | [] => (.ok none, cursor)
    | row :: rows => (.ok (some row), { cursor with rows, fetched := cursor.fetched + 1 })

/-- Takes the rows that are left. A failure stops this only when it was due before. -/
def takeRows (cursor : Cursor) : Except Error (List (List Value)) × Cursor :=
  match cursor.nextFault with
  | some fault => (.error (.raised fault), cursor)
  | none =>
    (.ok cursor.rows, { cursor with rows := [], fetched := cursor.fetched + cursor.rows.length })

/-- Fetches the next row. -/
def fetchOne : Action Cursor (Option (List Value)) := Action.ofFunction fun cursor env =>
  let (result, reached) := cursor.takeRow
  { result, state := reached, environment := env.observe (.fetchOne cursor.number) }

def fetchAll : Action Cursor (List (List Value)) := Action.ofFunction fun cursor env =>
  let (result, reached) := cursor.takeRows
  { result, state := reached, environment := env.observe (.fetchAll cursor.number) }

def close : Action Cursor Unit := do
  Action.observe (.close (← Action.state).number)

/-- Asks a connection for a cursor. -/
def openOn {σ : Type} (link : Nat) : Action σ Cursor := Action.ofFunction fun state env =>
  match env.takeCursorFault with
  | (some fault, env) => { result := .error (.raised fault), state, environment := env }
  | (none, env) =>
    { result := .ok { number := env.cursors }
      state
      environment := { env.observe (.cursor link env.cursors) with cursors := env.cursors + 1 } }

end Cursor

end OracleCatalog
