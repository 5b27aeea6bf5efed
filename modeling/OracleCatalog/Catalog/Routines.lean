import OracleCatalog.Cache.Access
import OracleCatalog.Catalog.Query
import OracleCatalog.Query.Listing
import OracleCatalog.Routine.Document
import OracleCatalog.Row.Parameter

/-!
# Routines of the catalog

A routine is described by a listing query, which has to find it, and an argument query. A collection
may have a cache of descriptions; then a description is taken from there, unless a fresh one is
asked for, and every description that was made from the catalog is kept there.
-/

namespace OracleCatalog

/-- A collection of routines. -/
structure Routines where
  /-- Collections are told apart by their numbers. -/
  number : Nat := 0
  cache : Option Cache := none
  deriving DecidableEq, Inhabited

namespace Routines

def channel (routines : Routines) : Channel :=
  match routines.cache with
  | none => .routines
  | some _ => .cachedRoutines

/-- Lists the object names that the settings select, with another routine in them if one is
given. -/
def listing (routines : Routines) (name : Option Value) : Action Connection (List Value) := do
  let connection ← Action.state
  let settings := connection.settings
  let settings := match name with
    | some objectName => { settings with objectName }
    | none => settings
  Catalog.firstColumn routines.channel
    (← Action.ofExcept (Query.routines connection.dialect.folding settings))

/-- The object names of every routine. -/
def list (routines : Routines) : Action Connection (List Value) := routines.listing none

def find (routines : Routines) (name : Value) : Action Connection (List Value) :=
  routines.listing (some name)

/-- Folds the rows of the argument query. -/
def foldParameters (routines : Routines) (name : Value) : Action Connection RoutineBuilder := do
  let target ← Action.ofExcept ((name.asText "split").map RoutineName.ofText)
  Catalog.withQuery routines.channel (Query.parameters target) do
    let rows ← Catalog.fetchRows
    Action.ofNoted (rows.foldlM RoutineBuilder.addParameterRow { name })

/-- The description of an object as the catalog has it. -/
def describeFresh (routines : Routines) (name : Value) : Action Connection Routine := do
  if (← routines.find name).isEmpty then throw (.noSuchRoutine name.toText)
  return (← routines.foldParameters name).build

/-- The key of a description: the schema or else the user, and the name, in small letters. -/
def cacheKey (settings : Settings) (name : Value) : String :=
  let owner := settings.schema.orElse (settings.user.orElse (.text "default"))
  Text.lower (owner.toText ++ "_" ++ name.toText)

/-- The description in a cache, if there is one. -/
def cached? (cache : Cache) (key : String) (name : Value) : Action Connection (Option Routine) := do
  let found ← cache.get key
  if found.truthy then
    Action.note .cachedRoutines .debug ("Method metadata for " ++ name.toText ++ " read from cache")
    return some (← Action.ofExcept (Routine.ofDocument found))
  else return none

/-- The description of an object, kept in the cache when it comes from the catalog. -/
def describeAndKeep (routines : Routines) (cache : Cache) (key : String) (name : Value) :
    Action Connection Routine := do
  let routine ← routines.describeFresh name
  cache.set key routine.toDocument
  return routine

/-- The description of an object; `fresh` keeps it from being taken out of the cache. -/
def describe (routines : Routines) (name : Value) (fresh : Bool) : Action Connection Routine := do
  match routines.cache with
  | none => routines.describeFresh name
  | some cache =>
    let key := cacheKey (← Action.state).settings name
    match ← (if fresh then pure none else cached? cache key name) with
    | some routine => return routine
    | none => routines.describeAndKeep cache key name

end Routines

end OracleCatalog
