import OracleCatalog.Catalog.Aliases
import OracleCatalog.Catalog.Tables

/-!
# Sessions

A session is a connection together with its collections of routines and of tables and its aliases.
All of them are made on first use, and the routines and the aliases are made anew after the cache
setting has changed. The aliases describe with the collection that was current when they were made.
-/

namespace OracleCatalog

/-- A connection with its collections and its aliases. -/
structure Session where
  connection : Connection
  routines : Option Routines := none
  aliases : Option Aliases := none
  /-- The collection of tables, by its number. -/
  tables : Option Nat := none
  /-- How many collections have been made. -/
  made : Nat := 0

namespace Session

def onConnection {α : Type} (action : Action Connection α) : Action Session α :=
  action.within (·.connection) fun connection session => { session with connection }

/-! ### The collections -/

/-- Makes a collection with a cache or without. -/
def makeRoutines (cache : Option Cache) : Action Session Routines := do
  let number := (← Action.state).made
  Action.change fun session => { session with made := number + 1 }
  return { number, cache }

/-- The cache that the settings ask for: a text names a directory, anything else that counts as true
asks for one in memory. -/
def makeCache (setting : Value) : Action Session (Option Cache) :=
  if !setting.truthy then return none
  else
    match setting with
    | .text path => return some (.files (shortestPath path))
    | _ => return some (← Cache.openMemory)

/-- Makes a collection the current one. -/
def install (routines : Routines) : Action Session Unit :=
  Action.change fun session => { session with routines := some routines }

/-- The current collection, made on first use. -/
def currentRoutines : Action Session Routines := do
  match (← Action.state).routines with
  | some routines => return routines
  | none =>
    let cache ← makeCache (← Action.state).connection.settings.cacheMetadata
    let routines ← makeRoutines cache
    install routines
    return routines

/-- Changes the cache setting; collection and aliases are made anew on next use. -/
def cacheMetadata (setting : Value) : Action Session Unit :=
  Action.change fun session =>
    { session with
      connection := session.connection.withCacheMetadata setting
      routines := none
      aliases := none }

/-- An action of the current collection. -/
def onRoutines {α : Type} (action : Routines → Action Connection α) : Action Session α := do
  onConnection (action (← currentRoutines))

/-- The collection of tables, made on first use. -/
def currentTables : Action Session Nat := do
  match (← Action.state).tables with
  | some number => return number
  | none =>
    let number := (← Action.state).made
    Action.change fun session => { session with tables := some number, made := number + 1 }
    return number

/-! ### The aliases -/

/-- The current aliases, made on first use. -/
def currentAliases : Action Session Aliases := do
  match (← Action.state).aliases with
  | some aliases => return aliases
  | none =>
    let aliases : Aliases := { routines := ← currentRoutines }
    Action.change fun session => { session with aliases := some aliases }
    return aliases

/-- Makes other aliases the current ones and tells those before. -/
def swap (aliases : Aliases) : Action Session Aliases := do
  let before ← currentAliases
  Action.change fun session => { session with aliases := some aliases }
  return before

def changeAliases (f : Aliases → Except Error Aliases) : Action Session Unit := do
  let aliases ← Action.ofExcept (f (← currentAliases))
  Action.change fun session => { session with aliases := some aliases }

/-- The description under an alias. -/
def routineOf (key : String) (given : Value) : Action Session Routine := do
  let aliases ← currentAliases
  let describe (name : Value) : Action Connection Routine := aliases.routines.describe name false
  (Aliases.get describe key given).within (fun session => (aliases, session.connection))
    fun (aliases, connection) session => { session with connection, aliases := some aliases }

end Session

end OracleCatalog
