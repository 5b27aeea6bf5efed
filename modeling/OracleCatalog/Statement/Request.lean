import OracleCatalog.Statement.Logged
import OracleCatalog.Value.Members

/-!
# Requests to statements

Everything that a caller asks of a statement is a request, so that a run of a statement is a list of
requests. A statement comes in four forms; a form refuses the requests that it does not know.
-/

namespace OracleCatalog

/-- What is asked of a statement. -/
inductive Request where
  | bind (parameters types : Value)
  | bindValue (placeholder value type : Value)
  | execute (parameters : Value)
  | fetch (shape : RowShape)
  | fetchAll (shape : RowShape)
  | clearBindings
  | close
  | rowCount
  | text
  | bound
  /-- Says whether later executions buffer their rows. -/
  | buffer (wanted : Value)
  deriving Inhabited

/-- The word for a request in messages. -/
def Request.name : Request → String
  | .bind .. => "bind"
  | .bindValue .. => "bind_value"
  | .execute _ => "execute"
  | .fetch _ => "fetch"
  | .fetchAll _ => "fetch_all"
  | .clearBindings => "clear_bindings"
  | .close => "close_cursor"
  | .rowCount => "row_count"
  | .text => "query_string"
  | .bound => "bound_params"
  | .buffer _ => "buffer_results"

/-- The answer of an action that has none of its own. -/
def Action.returning {σ : Type} (answer : Value) (action : Action σ Unit) : Action σ Value := do
  action
  return answer

/-- The error of a form that does not know a request. -/
def Request.unknown (request : Request) : Error := .noOperation "statement" request.name

/-! ### The four forms -/

namespace PlainStatement

/-- Does what a request asks. -/
def answer : Request → Action PlainStatement Value
  | .bindValue placeholder value _ => (bindValue placeholder value).returning .null
  | .execute parameters => (execute parameters).returning (.bool true)
  | .fetch shape => fetch shape
  | .fetchAll shape => return .list (← fetchAll shape)
  | .clearBindings => clearBindings.returning .null
  | .close => close.returning .null
  | .rowCount => return (← Action.state).rowCount
  | .text => return .text (← Action.state).sql
  | .bound => return .map (← Action.state).bindings.shown
  | request => throw request.unknown

/-- The state as a document. -/
def description (statement : PlainStatement) : List (String × Value) :=
  [("cursor_bound", .map statement.bindings.shown)]

end PlainStatement

namespace InnerStatement

/-- Does what a request asks. -/
def answer : Request → Action InnerStatement Value
  | .execute parameters => (execute parameters).returning (.bool true)
  | .fetch shape => fetch shape
  | .fetchAll shape => return .list (← fetchAll shape)
  | .close => close.returning .null
  | .rowCount => return (← Action.state).rowCount
  | .bound => do
    match ← Action.state with
    | .plain _ => onBase (PlainStatement.answer .bound)
    | .buffered .. => throw Request.bound.unknown
  | request => onBase (PlainStatement.answer request)

/-- The state of the outermost buffer as a document. -/
def bufferDescription (statement : InnerStatement) : List (String × Value) :=
  match statement.buffer? with
  | some buffer => [
      ("fetch_state", .text buffer.progress.name), ("index", .int buffer.index),
      ("buffered", .list buffer.rows)]
  | none => []

/-- The state as a document. -/
def description (statement : InnerStatement) : List (String × Value) :=
  statement.bufferDescription ++ statement.base.description

end InnerStatement

namespace PreparedStatement

/-- Does what a request asks. -/
def answer : Request → Action PreparedStatement Value
  | .bind parameters types => (bind parameters types).returning .null
  | .bindValue placeholder value type => (bindValue placeholder value type).returning .null
  | .execute parameters => (execute parameters).returning (.bool true)
  | .fetch shape => fetch shape
  | .fetchAll shape => return .list (← fetchAll shape)
  | .clearBindings => clearBindings.returning .null
  | .close => close.returning .null
  | .rowCount => return (← Action.state).rowCount
  | .text => return .text (← Action.state).text
  | .bound => return .map (← Action.state).bound
  | .buffer wanted =>
    (Action.change fun statement => { statement with buffering := wanted }).returning .null

/-- The state as a document. -/
def description (statement : PreparedStatement) : List (String × Value) := [
  ("buffer_state", .text statement.wrapping.name), ("offset", .int statement.offset),
  ("bound", .map statement.bound)] ++ statement.inner.description

end PreparedStatement

namespace LoggedStatement

/-- Does what a request asks. -/
def answer : Request → Action LoggedStatement Value
  | .execute parameters => (execute parameters).returning (.bool true)
  | request => onStatement (PreparedStatement.answer request)

end LoggedStatement

/-! ### Any form -/

/-- A statement in one of its forms. -/
inductive Statement where
  | inner (statement : InnerStatement)
  | prepared (statement : PreparedStatement)
  | logged (statement : LoggedStatement)
  deriving Inhabited

namespace Statement

def ofCursor (statement : PlainStatement) : Statement := .inner (.plain statement)

/-- Does what a request asks. -/
def answer (request : Request) : Action Statement Value := do
  match ← Action.state with
  | .inner statement =>
      (InnerStatement.answer request).within (fun _ => statement) fun s _ => .inner s
  | .prepared statement =>
    (PreparedStatement.answer request).within (fun _ => statement) fun s _ => .prepared s
  | .logged statement =>
    (LoggedStatement.answer request).within (fun _ => statement) fun s _ => .logged s

/-- The state as a document. -/
def description : Statement → List (String × Value)
  | .inner statement => statement.description
  | .prepared statement => statement.description
  | .logged statement => statement.statement.description

/-- The last log entry, of a statement that keeps it. -/
def lastEntry : Statement → Except Error (Option LogEntry)
  | .logged statement => .ok statement.last
  | _ => .error (.noOperation "statement" "last_invocation")

end Statement

end OracleCatalog
