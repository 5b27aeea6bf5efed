import OracleCatalog.Error

/-!
# Large objects

A row may hold handles of large objects. A handle is worth nothing once the session moves on, so the
objects of a row are read as soon as the row is there. The shelf knows what each handle holds and
how often it has been read.
-/

namespace OracleCatalog

/-- A large object. -/
structure Lob where
  content : Value
  /-- Why reading fails, where it does. -/
  failure : Option String := none
  reads : Nat := 0
  deriving Inhabited

/-- The large objects of a session by handle. -/
abbrev Shelf := List Lob

/-- A computation that reads large objects; failing, it keeps the reads made so far. -/
abbrev Reading (α : Type) := ExceptT Error (StateM Shelf) α

namespace Lob

def outcome (lob : Lob) : Except Error Value :=
  match lob.failure with
  | none => .ok lob.content
  | some text => .error (.lobUnreadable text)

def read (lob : Lob) : Lob := { lob with reads := lob.reads + 1 }

end Lob

namespace Shelf

/-- Puts an object on the shelf; its handle is the number of objects before it. -/
def place (shelf : Shelf) (lob : Lob) : Nat × Shelf := (shelf.length, shelf ++ [lob])

def read (handle : Nat) : Reading Value := ExceptT.mk do
  let shelf ← get
  match shelf[handle]? with
  | some lob =>
    set (shelf.set handle lob.read)
    return lob.outcome
  | none => return .error (.lobUnreadable "")

end Shelf

namespace Value

/-- A value in whose place the content stands if it is a large object. -/
def readLob : Value → Reading Value
  | .lob handle => Shelf.read handle
  | v => pure v

/-- A row in which every large object has been read, from left to right. Objects deeper inside are
left alone. -/
def readLobs : Value → Reading Value
  | .list items => return .list (← items.mapM readLob)
  | .tuple items => return .tuple (← items.mapM readLob)
  | .map entries => return .map (← entries.mapM fun (key, v) => return (key, ← v.readLob))
  | v => pure v

end Value

end OracleCatalog
