import OracleCatalog.Session.Lob

/-!
# Reading large objects again

Reading a large object is counted on the shelf and changes nothing that a later reading gives. So
what the large objects of a row hold does not depend on what has been read before.
-/

namespace OracleCatalog

variable {α β : Type}

/-! ### Shelves that read the same -/

/-- Every handle reads the same on both shelves. -/
def Shelf.Alike (a b : Shelf) : Prop :=
  ∀ handle : Nat, a[handle]?.map Lob.outcome = b[handle]?.map Lob.outcome

namespace Shelf

variable {a b c : Shelf}

theorem Alike.refl (a : Shelf) : Alike a a := fun _ => rfl

theorem Alike.symm (h : Alike a b) : Alike b a := fun handle => (h handle).symm

theorem Alike.trans (h : Alike a b) (h' : Alike b c) : Alike a c := fun handle =>
  (h handle).trans (h' handle)

theorem alike_set_read {handle : Nat} {lob : Lob} (h : a[handle]? = some lob) :
    Alike a (a.set handle lob.read) := by
  intro other
  rw [List.getElem?_set]
  split
  · rename_i heq
    subst heq
    obtain ⟨hlt, -⟩ := List.getElem?_eq_some_iff.1 h
    rw [if_pos hlt, h]
    rfl
  · rfl

end Shelf

/-! ### Readings that give the same again -/

/-- The reading gives the same on shelves that read the same, and leaves such a shelf behind. -/
def Reading.Repeatable (reading : Reading α) : Prop :=
  ∀ a b, Shelf.Alike a b →
    (reading.run.run a).1 = (reading.run.run b).1 ∧ Shelf.Alike a (reading.run.run a).2

namespace Reading

theorem run_bind (reading : Reading α) (next : α → Reading β) (shelf : Shelf) :
    (reading >>= next).run.run shelf =
      match reading.run.run shelf with
      | (.ok x, left) => (next x).run.run left
      | (.error e, left) => (.error e, left) := by
  unfold ExceptT.run StateT.run
  simp only [bind, ExceptT.bind, ExceptT.mk, StateT.bind, ExceptT.bindCont]
  cases reading shelf with
  | mk result left => cases result <;> rfl

theorem ok_of_bind {reading : Reading α} {next : α → Reading β} {shelf left : Shelf} {y : β}
    (h : (reading >>= next).run.run shelf = (.ok y, left)) :
    ∃ x shelf', reading.run.run shelf = (.ok x, shelf') ∧
      (next x).run.run shelf' = (.ok y, left) := by
  rw [run_bind] at h
  cases hr : reading.run.run shelf with
  | mk result shelf' =>
    rw [hr] at h
    cases result with
    | ok x => exact ⟨x, shelf', rfl, h⟩
    | error e => cases h

theorem repeatable_pure (x : α) : Repeatable (pure x) := fun a _ _ => ⟨rfl, Shelf.Alike.refl a⟩

theorem repeatable_bind {reading : Reading α} {next : α → Reading β} (h : reading.Repeatable)
    (hnext : ∀ x, (next x).Repeatable) : Repeatable (reading >>= next) := by
  intro a b hab
  obtain ⟨hsame, ha⟩ := h a b hab
  obtain ⟨-, hb⟩ := h b a hab.symm
  rw [run_bind, run_bind]
  cases hra : reading.run.run a with
  | mk result left =>
    cases hrb : reading.run.run b with
    | mk result' left' =>
      rw [hra, hrb] at hsame
      rw [hra] at ha
      rw [hrb] at hb
      obtain rfl : result = result' := hsame
      cases result with
      | error e => exact ⟨rfl, ha⟩
      | ok x =>
        -- what is left of both shelves reads as before, so the rest is read alike
        have hleft : Shelf.Alike left left' := ha.symm.trans (hab.trans hb)
        obtain ⟨hx, hrest⟩ := hnext x left left' hleft
        exact ⟨hx, ha.trans hrest⟩

theorem repeatable_mapM {f : α → Reading β} (h : ∀ x, (f x).Repeatable) (xs : List α) :
    (xs.mapM f).Repeatable := by
  induction xs with
  | nil =>
    rw [List.mapM_nil]
    exact repeatable_pure []
  | cons x xs ih =>
    rw [List.mapM_cons]
    exact repeatable_bind (h x) fun _ => repeatable_bind ih fun _ => repeatable_pure _

theorem run_read_of_some {shelf : Shelf} {handle : Nat} {lob : Lob}
    (h : shelf[handle]? = some lob) :
    (Shelf.read handle).run.run shelf = (lob.outcome, shelf.set handle lob.read) := by
  unfold Shelf.read
  simp only [ExceptT.run_mk, StateT.run_bind, StateT.run_get, pure_bind, h]
  rfl

theorem run_read_of_none {shelf : Shelf} {handle : Nat} (h : shelf[handle]? = none) :
    (Shelf.read handle).run.run shelf = (.error (.lobUnreadable ""), shelf) := by
  unfold Shelf.read
  simp only [ExceptT.run_mk, StateT.run_bind, StateT.run_get, pure_bind, h]
  rfl

theorem repeatable_read (handle : Nat) : (Shelf.read handle).Repeatable := by
  intro a b hab
  have hsame := hab handle
  cases ha : a[handle]? with
  | none =>
    cases hb : b[handle]? with
    | none =>
      rw [run_read_of_none ha, run_read_of_none hb]
      exact ⟨rfl, Shelf.Alike.refl a⟩
    | some lob => rw [ha, hb] at hsame; cases hsame
  | some lob =>
    cases hb : b[handle]? with
    | none => rw [ha, hb] at hsame; cases hsame
    | some lob' =>
      rw [ha, hb] at hsame
      rw [run_read_of_some ha, run_read_of_some hb]
      exact ⟨Option.some.inj hsame, Shelf.alike_set_read ha⟩

end Reading

/-! ### Rows -/

namespace Value

theorem repeatable_readLob (v : Value) : v.readLob.Repeatable := by
  cases v with
  | lob handle => exact Reading.repeatable_read handle
  | _ => exact Reading.repeatable_pure _

/-- The large objects of a row read the same again. -/
theorem repeatable_readLobs (v : Value) : v.readLobs.Repeatable := by
  cases v with
  | list items =>
    exact Reading.repeatable_bind (Reading.repeatable_mapM repeatable_readLob items)
      fun _ => Reading.repeatable_pure _
  | tuple items =>
    exact Reading.repeatable_bind (Reading.repeatable_mapM repeatable_readLob items)
      fun _ => Reading.repeatable_pure _
  | map entries =>
    have hentry : ∀ entry : Value × Value,
        Reading.Repeatable (do return (entry.1, ← entry.2.readLob)) := fun entry =>
      Reading.repeatable_bind (repeatable_readLob entry.2) fun _ => Reading.repeatable_pure _
    exact Reading.repeatable_bind (Reading.repeatable_mapM hentry entries)
      fun _ => Reading.repeatable_pure _
  | _ => exact Reading.repeatable_pure _

end Value

end OracleCatalog
