import OracleCatalog.Proofs.OrderedMap
import OracleCatalog.Proofs.Session.Lob
import OracleCatalog.Proofs.Success
import OracleCatalog.Statement.Buffered

/-!
# The rows that a cursor hands out

Fetching takes the rows of a cursor one after the other. Where none of them is without columns and
all their large objects can be read, they are the same whenever they are fetched.
-/

namespace OracleCatalog

/-- The row of a cursor as a buffer keeps it: in a shape, with its large objects read. -/
def Shelf.kept (shelf : Shelf) (shape : RowShape) (columns row : List Value) :
    Except Error Value :=
  ((shape.row columns row).readLobs.run.run shelf).1

/-- What is kept does not depend on what has been read before. -/
theorem Shelf.Alike.kept_eq {shelf shelf' : Shelf} (h : shelf.Alike shelf') (shape : RowShape)
    (columns row : List Value) :
    shelf.kept shape columns row = shelf'.kept shape columns row :=
  (Value.repeatable_readLobs (shape.row columns row) shelf shelf' h).1

/-- A row with columns, which have names where these are handed out. -/
def RowShape.HasColumns (shape : RowShape) (columns row : List Value) : Prop :=
  row ≠ [] ∧ (shape = .keyed → columns ≠ [])

/-- A row with columns does not count as the end. -/
theorem RowShape.HasColumns.truthy {shape : RowShape} {columns row : List Value}
    (h : shape.HasColumns columns row) : (shape.row columns row).truthy = true := by
  obtain ⟨hrow, hcolumns⟩ := h
  obtain ⟨v, row', rfl⟩ := List.exists_cons_of_ne_nil hrow
  cases shape with
  | sequence => rfl
  | other => rfl
  | keyed =>
    obtain ⟨name, columns', rfl⟩ := List.exists_cons_of_ne_nil (hcolumns rfl)
    have hne : OrderedMap.ofEntries ((name :: columns').zip (v :: row')) ≠ [] :=
      OrderedMap.update_ne_nil (OrderedMap.put_ne_nil name v []) (columns'.zip row')
    show (!(OrderedMap.ofEntries ((name :: columns').zip (v :: row'))).isEmpty) = true
    rw [List.isEmpty_eq_false_iff.2 hne]
    rfl

/-- Fetching hands out these rows: it does not fail, every row has columns, and all large objects
can be read. -/
structure Cursor.Scripts (cursor : Cursor) (shape : RowShape) (shelf : Shelf)
    (script : List Value) : Prop where
  failure_eq : cursor.failure = none
  hasColumns : ∀ row ∈ cursor.rows, shape.HasColumns cursor.columns row
  kept : cursor.rows.mapM (shelf.kept shape cursor.columns) = .ok script

namespace Cursor.Scripts

variable {cursor : Cursor} {shape : RowShape} {shelf shelf' : Shelf} {script : List Value}

theorem length_eq (h : cursor.Scripts shape shelf script) : cursor.rows.length = script.length :=
  Error.length_of_mapM h.kept

theorem of_alike (h : cursor.Scripts shape shelf script) (halike : shelf.Alike shelf') :
    cursor.Scripts shape shelf' script := by
  have hkept : shelf.kept shape cursor.columns = shelf'.kept shape cursor.columns :=
    funext (halike.kept_eq shape cursor.columns)
  exact ⟨h.failure_eq, h.hasColumns, hkept ▸ h.kept⟩

theorem eq_nil (h : cursor.Scripts shape shelf script) (hrows : cursor.rows = []) :
    script = [] := by
  have hkept := h.kept
  rw [hrows] at hkept
  cases hkept
  rfl

theorem cases_cons (h : cursor.Scripts shape shelf script) {row : List Value}
    {rest : List (List Value)} (hrows : cursor.rows = row :: rest) :
    ∃ r left shelf', script = r :: left ∧
      (shape.row cursor.columns row).readLobs.run.run shelf = (.ok r, shelf') ∧
      Scripts { cursor with rows := rest, fetched := cursor.fetched + 1 } shape shelf' left := by
  obtain ⟨hfailure, hcolumns, hkept⟩ := h
  rw [hrows] at hkept
  obtain ⟨r, left, hr, hleft, rfl⟩ := Error.ok_of_mapM_cons hkept
  obtain ⟨-, halike⟩ :=
    Value.repeatable_readLobs (shape.row cursor.columns row) shelf shelf (Shelf.Alike.refl shelf)
  have hbehind : Scripts { cursor with rows := rest, fetched := cursor.fetched + 1 } shape shelf
      left :=
    ⟨hfailure, fun row' hrow' => hcolumns row' (hrows ▸ List.mem_cons_of_mem row hrow'), hleft⟩
  exact ⟨r, left, _, rfl, Prod.ext hr rfl, hbehind.of_alike halike⟩

end Cursor.Scripts

/-- A row that has been kept in a shape is handed out again in that shape as it is. -/
theorem Buffer.reshaped_of_kept {shape : RowShape} {shelf : Shelf} {columns row : List Value}
    {r : Value} (h : shelf.kept shape columns row = .ok r) : Buffer.reshaped shape r = r := by
  cases shape with
  | sequence =>
    obtain ⟨items, shelf', -, hr⟩ := Reading.ok_of_bind (Prod.ext h rfl)
    cases hr
    rfl
  | keyed => cases r <;> rfl
  | other => cases r <;> rfl

theorem Cursor.Scripts.reshaped {cursor : Cursor} {shape : RowShape} {shelf : Shelf}
    {script : List Value} (h : cursor.Scripts shape shelf script) :
    ∀ r ∈ script, Buffer.reshaped shape r = r := by
  intro r hr
  obtain ⟨row, -, hrow⟩ := Error.mem_of_mapM h.kept hr
  exact Buffer.reshaped_of_kept hrow

end OracleCatalog
