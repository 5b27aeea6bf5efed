import OracleCatalog.Error

/-!
# Journal

Every part of the library writes records to a channel of its own; answers carry the records in the
order in which they were written. What was written before a failure stays written.
-/

namespace OracleCatalog

/-- Who writes a record. -/
inductive Channel where
  | dialect
  | connection
  | driver
  | aliases
  | routines
  | cachedRoutines
  | tables
  | preparedStatement
  | settings
  | cache
  /-- The statement log of the given name. -/
  | statements (name : String)
  deriving DecidableEq, Inhabited

/-- How urgent a record is. -/
inductive Level where
  | debug | info | warning | error
  deriving DecidableEq, Inhabited

/-- One record. -/
structure Record where
  channel : Channel
  level : Level
  text : String
  deriving DecidableEq, Inhabited

/-- A computation that may fail and that writes records on the way. -/
abbrev Noted (α : Type) := ExceptT Error (StateM (List Record)) α

namespace Noted

/-- Writes one record. -/
def note (channel : Channel) (level : Level) (text : String) : Noted Unit :=
  modify (· ++ [{ channel, level, text }])

/-- An outcome without records. -/
def ofExcept {α : Type} (outcome : Except Error α) : Noted α := ExceptT.mk (pure outcome)

def outcome {α : Type} (noted : Noted α) : Except Error α × List Record := noted.run.run []

end Noted

end OracleCatalog
