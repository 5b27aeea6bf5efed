import OracleCatalog.Dialect
import OracleCatalog.Session.Action

/-!
# Opening and closing connections

The driver knows the settings and opens connections with them. It remembers the last connection that
it has opened, until that is closed.
-/

namespace OracleCatalog

/-- The driver of a connection. -/
structure Driver where
  dialect : Dialect
  /-- The number of the connection that it has opened. -/
  link : Option Nat := none

namespace Driver

def settings (driver : Driver) : Settings := driver.dialect.settings

/-- The driver of some settings; the engine is that of their variant. -/
def ofSettings (settings : Settings) : Except Error Driver :=
  (Dialect.ofSettings settings).map fun dialect => { dialect }

def refusal : Fault := { kind := .other "DatabaseError", text := "ORA-12541: no listener" }

/-- Asks the database for a connection and tells its number. -/
def openLink (user password target : Value) : Action Driver Nat :=
  Action.ofFunction fun driver env =>
    match env.opening with
    | .missing => { result := .error .driverMissing, state := driver, environment := env }
    | .refused =>
      { result := .error (.raised refusal), state := driver
        environment := env.observe (.connect none user password target) }
    | .succeeds =>
      { result := .ok env.links
        state := { driver with link := some env.links }
        environment :=
          { env.observe (.connect (some env.links) user password target) with
            links := env.links + 1 } }

def connect : Action Driver Nat := do
  let settings := (← Action.state).settings
  let opening ← Action.onEnvironment fun env => (env.opening, env)
  if opening == .missing then throw .driverMissing
  let target := settings.target
  if !settings.user.truthy || !target.truthy then throw (.refused .noTarget)
  match ← Action.attempt (openLink settings.user settings.password target) with
  | .ok link =>
    Action.note .driver .info ("Connected to Oracle: " ++ target.toText)
    return link
  | .error e =>
    Action.note .driver .error ("Failed to connect to Oracle: " ++ e.message)
    throw e

/-- Closes the connection that the driver remembers, if there is one. -/
def disconnect : Action Driver Unit := do
  match (← Action.state).link with
  | none => return ()
  | some link =>
    Action.observe (.disconnect link)
    Action.change fun driver => { driver with link := none }
    Action.note .driver .info "Disconnected from Oracle database"

end Driver

end OracleCatalog
