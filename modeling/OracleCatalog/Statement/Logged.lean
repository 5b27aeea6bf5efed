import OracleCatalog.Statement.LogEntry
import OracleCatalog.Statement.Prepared

/-!
# Logged statements

A prepared statement whose executions are timed and written to the statement log, whether they
succeed or fail. The last entry of the log is kept with it.
-/

namespace OracleCatalog

/-- A prepared statement with a log. -/
structure LoggedStatement where
  statement : PreparedStatement
  /-- The name of the log. -/
  log : String := defaultLog
  last : Option LogEntry := none
  deriving Inhabited

namespace LoggedStatement

def onStatement {α : Type} (action : Action PreparedStatement α) : Action LoggedStatement α :=
  action.within (·.statement) fun statement logged => { logged with statement }

def readClock : Action LoggedStatement Instant := Action.onEnvironment Environment.takeTime

/-- Keeps and logs the entry of an execution that began at `start`. -/
def keep (start : Instant) (rows : Value) (failure : Option Error) :
    Action LoggedStatement Unit := do
  let stop ← readClock
  let took ← Action.ofExcept (start.elapsed stop)
  let logged ← Action.state
  let entry : LogEntry :=
    { statement := logged.statement.text
      bound := logged.statement.bound
      took
      rows
      failure }
  Action.change fun logged => { logged with last := some entry }
  let _ ← Action.ofNoted (entry.log logged.log)

def execute (parameters : Value) : Action LoggedStatement Unit := do
  let start ← readClock
  match ← Action.attempt (onStatement (PreparedStatement.execute parameters)) with
  | .ok _ => keep start (← Action.state).statement.rowCount none
  | .error e =>
    keep start (.int 0) (some e)
    throw e

end LoggedStatement

end OracleCatalog
