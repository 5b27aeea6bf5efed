import Mathlib.Data.List.Nodup
import OracleCatalog.Proofs.Statement.Shapes

/-!
# How often large objects are read

Reading the large objects of a row reads each of them once more and nothing else. The row that comes
of it holds none, so that reading it again reads nothing.
-/

namespace OracleCatalog

/-! ### Handles and values -/

namespace Value

/-- The handle of a large object. -/
def lob? : Value → Option Nat
  | .lob handle => some handle
  | _ => none

/-- The values of a row that is handed out. -/
def rowValues : Value → List Value
  | .list items => items
  | .tuple items => items
  | .map entries => OrderedMap.values entries
  | _ => []

/-- No value of the row is a large object. -/
def LobFree (r : Value) : Prop := ∀ v ∈ r.rowValues, v.lob? = none

theorem lobFree_null : LobFree .null := nofun

end Value

/-- The handles of the large objects in some rows. -/
def lobHandles (rows : List (List Value)) : List Nat := rows.flatten.filterMap Value.lob?

theorem lobHandles_append (rows more : List (List Value)) :
    lobHandles (rows ++ more) = lobHandles rows ++ lobHandles more := by
  unfold lobHandles
  rw [List.flatten_append, List.filterMap_append]

theorem lobHandles_singleton (row : List Value) :
    lobHandles [row] = row.filterMap Value.lob? := by
  unfold lobHandles
  rw [List.flatten_singleton]

theorem RowShape.rowValues_rowOf (shape : RowShape) {columns values : List Value}
    (h : values.length = columns.length) : (shape.rowOf columns values).rowValues = values := by
  cases shape with
  | sequence => rfl
  | other => rfl
  | keyed => exact values_zip h

/-- Handing a row out again changes no value of it. -/
theorem Buffer.rowValues_reshaped (shape : RowShape) (r : Value) :
    (reshaped shape r).rowValues = r.rowValues := by
  cases r with
  | map entries => cases shape <;> rfl
  | _ => rfl

/-! ### Reading again what has been read -/

theorem Value.readLob_of_lob?_eq_none {v : Value} (h : v.lob? = none) : v.readLob = pure v := by
  cases v with
  | lob handle => cases h
  | _ => rfl

theorem Reading.mapM_eq_pure {α : Type} {f : α → Reading α} {as : List α}
    (h : ∀ a ∈ as, f a = pure a) : as.mapM f = pure as := by
  induction as with
  | nil => rw [List.mapM_nil]
  | cons a rest ih =>
    obtain ⟨hfirst, hrest⟩ := List.forall_mem_cons.1 h
    rw [List.mapM_cons, hfirst, ih hrest, pure_bind, pure_bind]

/-- A row without large objects is read without reading any. -/
theorem Value.LobFree.readLobs_eq {r : Value} (h : r.LobFree) : r.readLobs = pure r := by
  have hvalues : ∀ v ∈ r.rowValues, v.readLob = pure v := fun v hv =>
    readLob_of_lob?_eq_none (h v hv)
  cases r with
  | list items =>
    have hitems : items.mapM readLob = pure items := Reading.mapM_eq_pure hvalues
    show items.mapM readLob >>= (fun items => pure (list items)) = _
    rw [hitems, pure_bind]
  | tuple items =>
    have hitems : items.mapM readLob = pure items := Reading.mapM_eq_pure hvalues
    show items.mapM readLob >>= (fun items => pure (tuple items)) = _
    rw [hitems, pure_bind]
  | map entries =>
    have hentries : ∀ entry ∈ entries,
        (do return (entry.1, ← entry.2.readLob) : Reading (Value × Value)) = pure entry := by
      intro entry hentry
      rw [hvalues entry.2 (List.mem_map_of_mem hentry), pure_bind]
    show (entries.mapM fun entry => do return (entry.1, ← entry.2.readLob) :
      Reading (List (Value × Value))) >>= _ = _
    rw [Reading.mapM_eq_pure hentries, pure_bind]
  | _ => rfl

/-! ### Counting -/

namespace Shelf

/-- How often a large object has been read. -/
def reads (shelf : Shelf) (handle : Nat) : Nat := (shelf[handle]?.map Lob.reads).getD 0

/-- The value is no large object, or one that can be read and does not hold another one. -/
def Readable (shelf : Shelf) (v : Value) : Prop :=
  ∃ content, (v.readLob.run.run shelf).1 = .ok content ∧ content.lob? = none

theorem Readable.of_alike {shelf left : Shelf} {v : Value} (h : shelf.Readable v)
    (halike : shelf.Alike left) : left.Readable v := by
  obtain ⟨content, hread, hnone⟩ := h
  obtain ⟨hsame, -⟩ := v.repeatable_readLob shelf left halike
  exact ⟨content, hsame.symm.trans hread, hnone⟩

theorem reads_set_read {shelf : Shelf} {handle : Nat} {lob : Lob} (h : shelf[handle]? = some lob)
    (other : Nat) :
    reads (shelf.set handle lob.read) other = shelf.reads other + [handle].count other := by
  obtain ⟨hlt, -⟩ := List.getElem?_eq_some_iff.1 h
  unfold reads
  rw [List.getElem?_set, List.count_singleton]
  by_cases heq : handle = other
  · subst heq
    rw [if_pos rfl, if_pos hlt, h, beq_self_eq_true, if_pos rfl]
    rfl
  · rw [if_neg heq, beq_eq_false_iff_ne.2 heq, if_neg Bool.false_ne_true, Nat.add_zero]

theorem reads_readLob {shelf : Shelf} {v content : Value}
    (h : (v.readLob.run.run shelf).1 = .ok content) (handle : Nat) :
    (v.readLob.run.run shelf).2.reads handle =
      shelf.reads handle + ([v].filterMap Value.lob?).count handle := by
  cases v with
  | lob n =>
    change ((read n).run.run shelf).1 = .ok content at h
    show ((read n).run.run shelf).2.reads handle = shelf.reads handle + [n].count handle
    cases hlob : shelf[n]? with
    | none =>
      rw [Reading.run_read_of_none hlob] at h
      cases h
    | some lob =>
      rw [Reading.run_read_of_some hlob]
      exact reads_set_read hlob handle
  | _ => rfl

/-- Reading a row reads each large object as often as the row holds it. -/
theorem reads_mapM_readLob {shelf : Shelf} {row values : List Value}
    (h : shelf.values row = .ok values) (handle : Nat) :
    ((row.mapM Value.readLob).run.run shelf).2.reads handle =
      shelf.reads handle + (row.filterMap Value.lob?).count handle := by
  induction row generalizing shelf values with
  | nil =>
    rw [List.mapM_nil]
    rfl
  | cons v rest ih =>
    unfold Shelf.values at h
    rw [List.mapM_cons] at h ⊢
    obtain ⟨content, middle, hread, hbehind⟩ := Reading.ok_of_bind (Prod.ext h rfl)
    obtain ⟨others, left, hrest, -⟩ := Reading.ok_of_bind hbehind
    have hfirst := reads_readLob (congrArg Prod.fst hread) handle
    have hothers := ih (congrArg Prod.fst hrest)
    rw [hread] at hfirst
    rw [Reading.run_bind, hread]
    dsimp only
    rw [Reading.run_bind]
    rw [hrest] at hothers ⊢
    dsimp only at hfirst hothers ⊢
    have hhandles : (v :: rest).filterMap Value.lob? =
        [v].filterMap Value.lob? ++ rest.filterMap Value.lob? :=
      (congrArg (List.filterMap Value.lob?) List.singleton_append.symm).trans
        List.filterMap_append
    show reads left handle = _
    rw [hothers, hfirst, hhandles, List.count_append, Nat.add_assoc]

/-- The values of a row whose large objects can be read are none. -/
theorem exists_values {shelf : Shelf} {row : List Value} (h : ∀ v ∈ row, shelf.Readable v) :
    ∃ values, shelf.values row = .ok values ∧ ∀ v ∈ values, v.lob? = none := by
  induction row generalizing shelf with
  | nil =>
    refine ⟨[], ?_, nofun⟩
    unfold Shelf.values
    rw [List.mapM_nil]
    rfl
  | cons v rest ih =>
    obtain ⟨⟨content, hread, hnone⟩, hrest⟩ := List.forall_mem_cons.1 h
    obtain ⟨-, halike⟩ := v.repeatable_readLob shelf shelf (Alike.refl _)
    have hbehind := fun v hv => (hrest v hv).of_alike halike
    obtain ⟨others, hvalues, hothers⟩ := ih hbehind
    refine ⟨content :: others, ?_, List.forall_mem_cons.2 ⟨hnone, hothers⟩⟩
    have hfirst : v.readLob.run.run shelf = (.ok content, (v.readLob.run.run shelf).2) :=
      Prod.ext hread rfl
    unfold Shelf.values at hvalues ⊢
    rw [List.mapM_cons, Reading.run_bind, hfirst]
    dsimp only
    rw [Reading.run_bind]
    generalize (rest.mapM Value.readLob).run.run (v.readLob.run.run shelf).2 = reached at hvalues ⊢
    obtain ⟨result, left⟩ := reached
    obtain rfl : result = .ok others := hvalues
    rfl

end Shelf

/-! ### Rows that have been read -/

/-- The rows of a cursor have a value for each column, the columns have different names, each large
object stands in one place, and it can be read and does not hold another one. -/
structure Cursor.HoldsReadable (cursor : Cursor) (shelf : Shelf) : Prop where
  texts : ∀ name ∈ cursor.columns, name.IsText
  distinct : cursor.columns.Nodup
  width : ∀ row ∈ cursor.rows, row.length = cursor.columns.length
  once : (lobHandles cursor.rows).Nodup
  readable : ∀ row ∈ cursor.rows, ∀ v ∈ row, shelf.Readable v

namespace Shelf

/-- Since the start the large objects of these rows have been read, each as often as it stands
there, and no others. -/
structure HasRead (start shelf : Shelf) (rows : List (List Value)) : Prop where
  alike : start.Alike shelf
  reads_eq : ∀ handle, shelf.reads handle = start.reads handle + (lobHandles rows).count handle

/-- Since the start each large object of these rows has been read so many times. -/
def ReadTimes (start shelf : Shelf) (times : Nat) (rows : List (List Value)) : Prop :=
  ∀ handle ∈ lobHandles rows, shelf.reads handle = start.reads handle + times

/-- The row has the values of one of these rows, with what its large objects hold in their place. -/
def Shows (start : Shelf) (rows : List (List Value)) (r : Value) : Prop :=
  ∃ row ∈ rows, start.values row = .ok r.rowValues

variable {held : Cursor} {start shelf : Shelf} {taken : List (List Value)} {shape : RowShape}

theorem HasRead.nothing (shelf : Shelf) : shelf.HasRead shelf [] := ⟨Alike.refl _, fun _ => rfl⟩

/-- Where each large object stands in one place, those of the rows that have been read are read once
and those of the others are not. -/
theorem HasRead.readTimes {rows later : List (List Value)} (h : start.HasRead shelf rows)
    (once : (lobHandles (rows ++ later)).Nodup) :
    start.ReadTimes shelf 1 rows ∧ start.ReadTimes shelf 0 later := by
  rw [lobHandles_append] at once
  obtain ⟨hrows, -, hdisjoint⟩ := List.nodup_append.1 once
  constructor
  · intro handle hmem
    rw [h.reads_eq, List.count_eq_one_of_mem hrows hmem]
  · intro handle hmem
    rw [h.reads_eq, List.count_eq_zero.2 fun hread => hdisjoint _ hread _ hmem rfl]

theorem Shows.mono {more : List (List Value)} {r : Value} (h : start.Shows taken r)
    (hsubset : taken ⊆ more) : start.Shows more r := by
  obtain ⟨row, hrow, hvalues⟩ := h
  exact ⟨row, hsubset hrow, hvalues⟩

theorem Shows.lobFree {r : Value} (h : start.Shows taken r) (readable : held.HoldsReadable start)
    (hsubset : taken ⊆ held.rows) : r.LobFree := by
  obtain ⟨row, hrow, hvalues⟩ := h
  obtain ⟨values, hvalues', hnone⟩ := exists_values (readable.readable row (hsubset hrow))
  obtain rfl := Except.ok.inj (hvalues'.symm.trans hvalues)
  exact hnone

/-- Reading one more row. -/
theorem HasRead.readRow (h : start.HasRead shelf taken) (readable : held.HoldsReadable start)
    {row : List Value} (hrow : row ∈ held.rows) (shape : RowShape) :
    let read := (shape.row held.columns row).readLobs.run.run shelf
    ∃ r, read.1 = .ok r ∧ start.Shows (taken ++ [row]) r ∧
      start.HasRead read.2 (taken ++ [row]) := by
  have width := readable.width row hrow
  obtain ⟨values, hvalues, -⟩ := exists_values (readable.readable row hrow)
  have hrepeat := Reading.repeatable_mapM Value.repeatable_readLob row
  have hsame : shelf.values row = .ok values :=
    (hrepeat start shelf h.alike).1.symm.trans hvalues
  have hreads := reads_mapM_readLob hsame
  have hleft := (hrepeat shelf shelf (Alike.refl _)).2
  have hlength := (length_values hvalues).trans width
  dsimp only
  rw [shape.readLobs_row readable.texts readable.distinct width, Reading.run_bind]
  unfold Shelf.values at hsame
  generalize (row.mapM Value.readLob).run.run shelf = read at hsame hreads hleft
  obtain ⟨result, left⟩ := read
  obtain rfl : result = .ok values := hsame
  have hmem : row ∈ taken ++ [row] := List.mem_append_right _ List.mem_cons_self
  refine ⟨shape.rowOf held.columns values, rfl, ⟨row, hmem, ?_⟩, h.alike.trans hleft,
    fun handle => ?_⟩
  · rw [shape.rowValues_rowOf hlength]
    exact hvalues
  · show reads left handle = _
    rw [hreads, h.reads_eq, lobHandles_append, lobHandles_singleton, List.count_append,
      Nat.add_assoc]

theorem HasRead.readRows (h : start.HasRead shelf taken) (readable : held.HoldsReadable start)
    {rows : List (List Value)} (hrows : rows ⊆ held.rows) (shape : RowShape) :
    let read := ((rows.map (shape.row held.columns)).mapM Value.readLobs).run.run shelf
    ∃ rs, read.1 = .ok rs ∧ (∀ r ∈ rs, start.Shows (taken ++ rows) r) ∧
      start.HasRead read.2 (taken ++ rows) := by
  induction rows generalizing shelf taken with
  | nil =>
    rw [List.map_nil, List.mapM_nil, List.append_nil]
    exact ⟨[], rfl, nofun, h⟩
  | cons row rest ih =>
    obtain ⟨hrow, hrest⟩ := List.cons_subset.1 hrows
    obtain ⟨r, hr, hshows, hread⟩ := h.readRow readable hrow shape
    obtain ⟨rs, hrs, hothers, hall⟩ := ih hread hrest
    dsimp only at hr hrs hall ⊢
    rw [List.append_cons, List.map_cons, List.mapM_cons, Reading.run_bind]
    generalize (shape.row held.columns row).readLobs.run.run shelf = read at *
    obtain ⟨result, left⟩ := read
    obtain rfl : result = .ok r := hr
    dsimp only at hrs hall ⊢
    rw [Reading.run_bind]
    generalize ((rest.map (shape.row held.columns)).mapM Value.readLobs).run.run left = read at *
    obtain ⟨result, left⟩ := read
    obtain rfl : result = .ok rs := hrs
    have hfirst := hshows.mono (List.subset_append_left _ rest)
    exact ⟨r :: rs, rfl, List.forall_mem_cons.2 ⟨hfirst, hothers⟩, hall⟩

end Shelf

end OracleCatalog
