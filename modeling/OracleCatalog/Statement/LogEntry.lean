import OracleCatalog.Journal
import OracleCatalog.Statement.Placeholder

/-!
# The statement log

Every execution of a prepared statement makes one entry of the statement log: how long it took, how
many rows it touched, the statement with its values in place, and its error. Values that cannot be
put in place leave the statement as it is.
-/

namespace OracleCatalog

open OracleCatalog.Text

/-- What the log keeps of one execution of a prepared statement. -/
structure LogEntry where
  statement : String
  bound : Entries := []
  /-- In milliseconds. -/
  took : Value := .float 0
  rows : Value := .int 0
  failure : Option Error := none
  deriving Inhabited

/-- A number with one place behind the point. -/
def onePlaceText (v : Value) : Except Error String :=
  let ofNumber (x : Float) : String :=
    match Binary64.read x with
    | .finite negative m e =>
      Binary64.onePlace negative (Binary64.fraction m e).1 (Binary64.fraction m e).2
    | .infinite negative => if negative then "-inf" else "inf"
    | .nan => "nan"
  match v with
  | .float x => .ok (ofNumber x)
  | .int i => (Binary64.ofInteger i).map ofNumber
  | .bool b => (Binary64.ofInteger b.toNat).map ofNumber
  | .decimal d => .ok d.onePlace
  | .text _ => .error (.refused (.placesOf v.kind))
  | v => .error (.wrongKind ("unsupported format of '" ++ v.kind ++ "'"))

namespace LogEntry

/-- The statement with the bound values in the place of its placeholders. -/
def interpolated (entry : LogEntry) : Except Error String :=
  (Substitution.ofBound entry.bound).map (·.interpolate entry.statement)

/-- The statement as the log shows it; values that cannot be put in place are warned of. -/
def shown (log : String) (entry : LogEntry) : Noted String :=
  if entry.bound.isEmpty then return entry.statement
  else
    match entry.interpolated with
    | .ok text => return text
    | .error _ => do
      Noted.note (.statements log) .warning "Could not interpolate statement parameters: "
      return entry.statement

/-- The error part of a record. -/
def failureText (entry : LogEntry) : String :=
  match entry.failure with
  | some e => " error=" ++ e.message
  | none => ""

/-- Writes an entry to the log of a name and tells how the statement is shown. -/
def log (log : String) (entry : LogEntry) : Noted String := do
  let text ← entry.shown log
  let took ← Noted.ofExcept (onePlaceText entry.took)
  Noted.note (.statements log) .debug
    ("duration=" ++ took ++ "ms rows=" ++ entry.rows.toText ++ " " ++ text ++
      entry.failureText)
  return text

end LogEntry

/-- The log that statements are written to unless another one is installed. -/
def defaultLog : String := "queriesLog"

end OracleCatalog
