import OracleCatalog.Journal
import OracleCatalog.Session.Lob

/-!
# The environment of a session

What a session meets: the database with its answers, the clock, the large objects and the places
where values are cached. Everything that a session does to the database is kept as an event, and
everything that it notes as a record.
-/

namespace OracleCatalog

/-! ### The database -/

/-- A failure that fetching runs into once a number of rows has been fetched. -/
structure FetchFailure where
  after : Nat
  fault : Fault
  deriving Inhabited

/-- How the database answers one execution. -/
structure Reply where
  /-- The names of the columns, none where the answer has no description. -/
  columns : Option (List Value) := none
  rows : List (List Value) := []
  rowCount : Value := .null
  /-- The error that the execution raises. -/
  failure : Option Fault := none
  fetchFailure : Option FetchFailure := none
  deriving Inhabited

/-- How the database answers executions. -/
inductive Answering where
  /-- With one reply after the other; behind the last one replies are empty. -/
  | inTurn (replies : List Reply)
  /-- To the same statement with the same parameters always in the same way. -/
  | fixed (reply : String → Value → Reply)

instance : Inhabited Answering := ⟨.inTurn []⟩

namespace Answering

/-- The reply to a statement with its parameters, and how later ones are answered. -/
def reply (sql : String) (parameters : Value) : Answering → Reply × Answering
  | .inTurn [] => ({}, .inTurn [])
  | .inTurn (reply :: replies) => (reply, .inTurn replies)
  | .fixed f => (f sql parameters, .fixed f)

end Answering

/-- What happens when a connection is opened. -/
inductive Opening where
  | succeeds
  /-- The database driver is not there. -/
  | missing
  /-- The database refuses. -/
  | refused
  deriving DecidableEq, Inhabited

/-- What a session does to the database. Connections and cursors are numbered in the order in which
they are opened. -/
inductive Event where
  /-- A connection is asked for; a refused one has no number. -/
  | connect (link : Option Nat) (user password target : Value)
  | cursor (link cursor : Nat)
  | execute (cursor : Nat) (sql : String) (parameters : Value)
  | fetchOne (cursor : Nat)
  | fetchAll (cursor : Nat)
  | close (cursor : Nat)
  | disconnect (link : Nat)
  deriving Inhabited

/-! ### The clock -/

/-- A reading of the clock, in seconds. -/
inductive Instant where
  | whole (seconds : Int)
  | binary (seconds : Float)
  deriving Inhabited

namespace Instant

/-- The reading as a binary number. -/
def toFloat : Instant → Except Error Float
  | .whole seconds => Binary64.ofInteger seconds
  | .binary seconds => .ok seconds

/-- The milliseconds between two readings, an integer between whole ones. -/
def elapsed : Instant → Instant → Except Error Value
  | .whole start, .whole stop => .ok (.int ((stop - start) * 1000))
  | start, stop => do return .float (((← stop.toFloat) - (← start.toFloat)) * 1000)

end Instant

/-! ### Files -/

/-- The texts of the files of a directory by name. -/
abbrev Directory := OrderedMap String String

/-! ### Everything together -/

/-- What a session meets. -/
structure Environment where
  answering : Answering := default
  opening : Opening := .succeeds
  /-- Whether the next requests for a cursor fail, and how; later ones succeed. -/
  cursorFaults : List (Option Fault) := []
  /-- The readings of the clock to come. -/
  clock : List Instant := []
  shelf : Shelf := []
  /-- The directories that are there, by path. -/
  directories : OrderedMap String Directory := []
  /-- The caches in memory by number. -/
  memories : List (OrderedMap String Value) := []
  events : List Event := []
  records : List Record := []
  /-- How many connections have been opened. -/
  links : Nat := 0
  /-- How many cursors have been opened. -/
  cursors : Nat := 0
  deriving Inhabited

namespace Environment

def observe (event : Event) (env : Environment) : Environment :=
  { env with events := env.events ++ [event] }

/-- Keeps a record. -/
def note (channel : Channel) (level : Level) (text : String) (env : Environment) : Environment :=
  { env with records := env.records ++ [{ channel, level, text }] }

/-- The environment at the start of the next step: events and records so far are done with. -/
def nextStep (env : Environment) : Environment := { env with events := [], records := [] }

/-- The reply of the database to an execution. -/
def takeReply (sql : String) (parameters : Value) (env : Environment) : Reply × Environment :=
  let (reply, answering) := env.answering.reply sql parameters
  (reply, { env with answering })

/-- What the next request for a cursor comes to. -/
def takeCursorFault (env : Environment) : Option Fault × Environment :=
  match env.cursorFaults with
  | [] => (none, env)
  | fault :: cursorFaults => (fault, { env with cursorFaults })

/-- The next reading of the clock; zero when there is none left. -/
def takeTime (env : Environment) : Instant × Environment :=
  match env.clock with
  | [] => (.binary 0, env)
  | time :: clock => (time, { env with clock })

end Environment

end OracleCatalog
