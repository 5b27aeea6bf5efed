import OracleCatalog.Conversion
import OracleCatalog.Session.Driver
import OracleCatalog.Statement.Logged

/-!
# Connections

A connection executes queries and prepares statements. The link to the database is opened by the
driver when it is first needed, unless one was given from the start. A query that fails leaves no
open cursor behind.
-/

namespace OracleCatalog

/-- A connection. -/
structure Connection where
  driver : Driver
  /-- The number of the open link to the database. -/
  link : Option Nat := none
  /-- The log of the statements that it prepares. -/
  log : String := defaultLog

namespace Connection

def settings (connection : Connection) : Settings := connection.driver.settings

def dialect (connection : Connection) : Dialect := connection.driver.dialect

def onDriver {α : Type} (action : Action Driver α) : Action Connection α :=
  action.within (·.driver) fun driver connection => { connection with driver }

/-- The open link; one is opened if there is none. -/
def openLink : Action Connection Nat := do
  match (← Action.state).link with
  | some link => return link
  | none =>
    let link ← onDriver Driver.connect
    Action.change fun connection => { connection with link := some link }
    return link

def openCursor : Action Connection Cursor := do Cursor.openOn (← openLink)

/-- How many characters of a query its record shows. -/
def shownLength : Nat := 100

def noteQuery (sql : String) : Action Connection Unit :=
  Action.note .connection .debug
    ("Executing query: " ++ String.ofList (sql.toList.take shownLength) ++ "...")

/-- The query as it is executed: converted on demand from the dialect of the settings. -/
def converted (sql : Value) (convert : Bool) : Action Connection Value := do
  let source := (← Action.state).settings.sourceDialect
  if convert && source.truthy then Action.ofNoted (Conversion.convert sql source) else return sql

/-- A statement of its own, closed when an action on it fails. -/
def closingOnFailure (statement : PlainStatement) (action : Action PlainStatement Unit) :
    Action Connection PlainStatement := do
  let (outcome, statement) ← Action.apart statement action
  match outcome with
  | .ok _ => return statement
  | .error e =>
    let (closed, _) ← Action.apart statement PlainStatement.close
    Action.ofExcept (closed.bind fun _ => .error e)

def execute (sql parameters : Value) (convert : Bool) : Action Connection PlainStatement := do
  let sql ← converted sql convert
  let cursor ← openCursor
  let sql ← Action.ofExcept sql.operand
  noteQuery sql
  closingOnFailure { cursor, sql } (PlainStatement.execute parameters)

def prepare (sql : String) (buffering : Value) (placeholders : Entries) :
    Action Connection LoggedStatement := do
  let cursor ← openCursor
  return {
    statement := { inner := .plain { cursor, sql }, buffering, placeholders }
    log := (← Action.state).log }

/-- Closes the link, if one is open; the driver forgets what it has opened. -/
def close : Action Connection Unit := do
  match (← Action.state).link with
  | some link => Action.observe (.disconnect link)
  | none => pure ()
  Action.change fun connection =>
    { connection with link := none, driver := { connection.driver with link := none } }

/-- The connection with another setting for the cache of descriptions. -/
def withCacheMetadata (cacheMetadata : Value) (connection : Connection) : Connection :=
  let settings := { connection.settings with cacheMetadata }
  let dialect := { connection.dialect with settings }
  { connection with driver := { connection.driver with dialect } }

end Connection

end OracleCatalog
