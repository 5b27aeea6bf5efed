import OracleCatalog.Statement.Binding
import OracleCatalog.Statement.Cursor

/-!
# Statements on a cursor

The lowest statement: a text and its bindings on a cursor of its own.
-/

namespace OracleCatalog

/-- The shape in which rows are handed out. -/
inductive RowShape where
  /-- A list of values. -/
  | sequence
  /-- A map keyed by column names. -/
  | keyed
  /-- Anything else, which hands out lists. -/
  | other
  deriving DecidableEq, Inhabited

def RowShape.ofValue (word : Value) : RowShape :=
  if word.isText "num" then .sequence else if word.isText "assoc" then .keyed else .other

def RowShape.row (shape : RowShape) (columns row : List Value) : Value :=
  match shape with
  | .keyed => .map (OrderedMap.ofEntries (columns.zip row))
  | _ => .list row

/-- A statement on a cursor. -/
structure PlainStatement where
  cursor : Cursor
  sql : String
  bindings : Bindings := {}
  deriving Inhabited

namespace PlainStatement

def onCursor {α : Type} (action : Action Cursor α) : Action PlainStatement α :=
  action.within (·.cursor) fun cursor statement => { statement with cursor }

def bindValue (placeholder value : Value) : Action PlainStatement Unit := do
  let bindings ← Action.ofExcept ((← Action.state).bindings.bind placeholder value)
  Action.change fun statement => { statement with bindings }

/-- Binds one value after the other. -/
def bindEach (placements : Entries) : Action PlainStatement Unit :=
  placements.forM fun (placeholder, value) => bindValue placeholder value

/-- Forgets all bindings. -/
def clearBindings : Action PlainStatement Unit :=
  Action.change fun statement => { statement with bindings := {} }

/-- Executes the statement. Parameters that count as true replace what is bound. -/
def execute (parameters : Value) : Action PlainStatement Unit := do
  if parameters.truthy then
    clearBindings
    bindEach (← Action.ofExcept parameters.placements)
  let statement ← Action.state
  onCursor (Cursor.execute statement.sql statement.bindings.sent)

/-- Fetches the next row; null behind the last one. -/
def fetch (shape : RowShape) : Action PlainStatement Value := do
  match ← onCursor Cursor.fetchOne with
  | none => return .null
  | some row => return shape.row (← Action.state).cursor.columns row

def fetchAll (shape : RowShape) : Action PlainStatement (List Value) := do
  let rows ← onCursor Cursor.fetchAll
  return rows.map (shape.row (← Action.state).cursor.columns)

def close : Action PlainStatement Unit := onCursor Cursor.close

/-- The number of rows that the database tells; zero where it tells none. -/
def rowCount (statement : PlainStatement) : Value := statement.cursor.rowCount.orElse (.int 0)

end PlainStatement

end OracleCatalog
