import Mathlib.Data.List.Nodup
import OracleCatalog.Proofs.Statement.Log
import OracleCatalog.Proofs.Statement.Placing

/-!
# Calls that bind positions

A call whose placeholders are positions binds each of its values as many positions further on as
values have been bound at positions before, and never fails once its types can read the values.
-/

namespace OracleCatalog

theorem Value.lawfulOn_isPosition : OrderedMap.LawfulOn Value.IsPosition := by
  rintro _ _ ⟨i, rfl⟩ ⟨j, rfl⟩
  simp only [Value.int_beq, beq_iff_eq, Value.int.injEq]

/-- On the cursor, positions go to the values at positions. -/
theorem Bindings.bindAll_positions {values : Entries}
    (h : OrderedMap.KeysIn Value.IsPosition values) (bindings : Bindings) :
    bindings.bindAll values =
      .ok { bindings with positional := bindings.positional.update values } := by
  induction values generalizing bindings with
  | nil => rfl
  | cons value rest ih =>
    obtain ⟨placeholder, value⟩ := value
    obtain ⟨⟨i, rfl⟩, hrest⟩ := OrderedMap.keysIn_cons.1 h
    have hbind : bindings.bind (.int i) value =
        .ok { bindings with positional := bindings.positional.put (.int i) value } := rfl
    rw [bindAll_cons hbind, ih hrest]
    rfl

/-! ### Values for positions -/

/-- What becomes of a value of a call under the types of the call. -/
def readUnder (types : Value) (placement : Value × Value) : Except Error Value :=
  typeFor types placement.1 >>= fun type => PreparedStatement.typed type placement.2

/-- A value for a position of its call, and what is bound for it. -/
structure Placed where
  position : Nat
  given : Value
  taken : Value

namespace Placed

def entry (value : Placed) : Value × Value := (.int value.position, value.given)

/-- What is bound behind so many positions. -/
def behind (offset : Nat) (value : Placed) : Value × Value :=
  (.int (value.position + offset : Nat), value.taken)

theorem keysIn_behind (offset : Nat) (values : List Placed) :
    OrderedMap.KeysIn Value.IsPosition (values.map (behind offset)) := by
  intro k hk
  obtain ⟨entry, hentry, rfl⟩ := List.mem_map.1 hk
  obtain ⟨value, -, rfl⟩ := List.mem_map.1 hentry
  exact ⟨_, rfl⟩

end Placed

/-! ### Values in a row -/

/-- The value is a list or a tuple of these values. -/
inductive Value.Lists : Value → List Value → Prop where
  | list (values : List Value) : Lists (.list values) values
  | tuple (values : List Value) : Lists (.tuple values) values

theorem Value.Lists.placements_eq {v : Value} {values : List Value} (h : v.Lists values) :
    v.placements = .ok (enumerated 0 values) := by
  cases h <;> rfl

theorem Value.Lists.truthy_iff {v : Value} {values : List Value} (h : v.Lists values) :
    v.truthy = true ↔ values ≠ [] := by
  cases h <;> cases values <;> simp [Value.truthy]

/-- Values for the positions from `index` on, which their types leave as they are. -/
def listed (index : Nat) : List Value → List Placed
  | [] => []
  | v :: vs => ⟨index, v, v⟩ :: listed (index + 1) vs

theorem map_entry_listed (index : Nat) (values : List Value) :
    (listed index values).map Placed.entry = enumerated index values := by
  induction values generalizing index with
  | nil => rfl
  | cons v vs ih => exact congrArg ((Value.int index, v) :: ·) (ih (index + 1))

theorem map_behind_listed (offset index : Nat) (values : List Value) :
    (listed index values).map (Placed.behind offset) = enumerated (index + offset) values := by
  induction values generalizing index with
  | nil => rfl
  | cons v vs ih =>
    have hrest := ih (index + 1)
    rw [Nat.add_right_comm] at hrest
    exact congrArg ((Value.int (index + offset : Nat), v) :: ·) hrest

theorem length_listed (index : Nat) (values : List Value) :
    (listed index values).length = values.length := by
  induction values generalizing index with
  | nil => rfl
  | cons v vs ih => exact congrArg (· + 1) (ih (index + 1))

/-- Without types, values are left as they are. -/
theorem readUnder_null_of_mem_listed {index : Nat} {values : List Value} {value : Placed}
    (h : value ∈ listed index values) : readUnder .null value.entry = .ok value.taken := by
  induction values generalizing index with
  | nil => cases h
  | cons v vs ih =>
    rcases List.mem_cons.1 h with rfl | h
    · rfl
    · exact ih h

theorem enumerated_append (index : Nat) (first second : List Value) :
    enumerated index (first ++ second) =
      enumerated index first ++ enumerated (index + first.length) second := by
  induction first generalizing index with
  | nil => rfl
  | cons v vs ih =>
    have hrest := ih (index + 1)
    rw [Nat.add_assoc, Nat.add_comm 1] at hrest
    exact congrArg ((Value.int index, v) :: ·) hrest

theorem values_enumerated (index : Nat) (values : List Value) :
    OrderedMap.values (enumerated index values) = values := by
  induction values generalizing index with
  | nil => rfl
  | cons v vs ih => exact congrArg (v :: ·) (ih (index + 1))

theorem keys_enumerated (index : Nat) (values : List Value) :
    OrderedMap.keys (enumerated index values) =
      (List.range' index values.length).map fun (p : Nat) => Value.int p := by
  induction values generalizing index with
  | nil => rfl
  | cons v vs ih => exact congrArg (Value.int index :: ·) (ih (index + 1))

theorem keysIn_enumerated (index : Nat) (values : List Value) :
    OrderedMap.KeysIn Value.IsPosition (enumerated index values) := by
  intro k hk
  rw [keys_enumerated] at hk
  obtain ⟨p, -, rfl⟩ := List.mem_map.1 hk
  exact ⟨p, rfl⟩

theorem nodup_keys_enumerated (index : Nat) (values : List Value) :
    (OrderedMap.keys (enumerated index values)).Nodup := by
  rw [keys_enumerated]
  exact List.Nodup.map (fun _ _ heq => Int.ofNat.inj (Value.int.inj heq)) List.nodup_range'

theorem update_enumerated (first second : List Value) :
    OrderedMap.update (enumerated 0 first) (enumerated first.length second) =
      enumerated 0 (first ++ second) := by
  have happend := enumerated_append 0 first second
  rw [Nat.zero_add] at happend
  rw [happend]
  refine OrderedMap.update_of_nodup Value.lawfulOn_isPosition (keysIn_enumerated 0 first)
    (keysIn_enumerated _ second) ?_
  rw [← happend]
  exact nodup_keys_enumerated 0 _

theorem sorted_enumerated (index : Nat) (values : List Value) :
    (enumerated index values).mergeSort Bindings.inOrder = enumerated index values := by
  refine List.mergeSort_of_pairwise ?_
  have hkeys : (OrderedMap.keys (enumerated index values)).Pairwise
      fun a b => (a.position?.getD 0) ≤ (b.position?.getD 0) := by
    rw [keys_enumerated, List.pairwise_map]
    exact List.pairwise_le_range'.imp Int.ofNat_le.2
  refine (List.pairwise_map.1 hkeys).imp fun h => ?_
  exact decide_eq_true h

/-! ### Calls -/

namespace PreparedStatement

variable {parameters types : Value} {values : List Placed} {bindings : Bindings} {offset : Nat}
  {s : PreparedStatement}

theorem placed_of_position (h : s.placeholders = []) {value : Placed}
    (hread : readUnder types value.entry = .ok value.taken) :
    s.placed true types value.entry = .ok (value.behind s.offset) := by
  obtain ⟨type, htype, hread⟩ := Error.ok_of_bind hread
  have hrenamed : s.renamed (.int (value.position + s.offset : Nat)) =
      .ok (.int (value.position + s.offset : Nat)) := by
    unfold renamed
    rw [h]
    rfl
  have hbehind : value.entry.1.behind s.offset = .ok (.int (value.position + s.offset : Nat)) := by
    rw [Int.natCast_add]
    rfl
  unfold placed
  rw [htype, Error.ok_bind, if_pos rfl, hbehind, Error.ok_bind]
  unfold placedUnder
  rw [hrenamed, Error.ok_bind, hread]
  rfl

theorem mapM_placed_of_positions (h : s.placeholders = [])
    (hread : ∀ value ∈ values, readUnder types value.entry = .ok value.taken) :
    (values.map Placed.entry).mapM (s.placed true types) =
      .ok (values.map (Placed.behind s.offset)) := by
  induction values with
  | nil => rfl
  | cons value rest ih =>
    obtain ⟨hvalue, hrest⟩ := List.forall_mem_cons.1 hread
    exact Error.mapM_cons_ok (placed_of_position h hvalue) (ih hrest)

/-- The bindings on the cursor, with the number of positions that later calls come behind, where no
placeholder stands for another one. -/
structure Holds (bindings : Bindings) (offset : Nat) (s : PreparedStatement) : Prop where
  placeholders_eq : s.placeholders = []
  offset_eq : s.offset = offset
  bindings_eq : s.inner.base.bindings = bindings

/-- A call binds all its values behind the positions of earlier calls. -/
theorem Holds.exists_bind_perform (h : s.Holds bindings offset)
    (htruthy : parameters.truthy = true)
    (hplacements : parameters.placements = .ok (values.map Placed.entry)) (nonempty : values ≠ [])
    (hread : ∀ value ∈ values, readUnder types value.entry = .ok value.taken) (env : Environment) :
    ∃ reached, (bind parameters types).perform s env =
        { result := .ok (), state := reached, environment := env } ∧
      reached.bound = s.bound.update (values.map (Placed.behind offset)) ∧
      reached.Holds
        { bindings with
          positional := bindings.positional.update (values.map (Placed.behind offset)) }
        (offset + values.length) := by
  obtain ⟨hplaceholders, rfl, rfl⟩ := h
  have hpositions : arePositions (values.map Placed.entry) = true := by
    obtain ⟨value, rest, rfl⟩ := List.exists_cons_of_ne_nil nonempty
    rfl
  have hbound := Bindings.bindAll_positions (Placed.keysIn_behind s.offset values)
    s.inner.base.bindings
  refine ⟨_, bind_perform_positions htruthy hplacements hpositions
    (mapM_placed_of_positions hplaceholders hread) hbound env, rfl, hplaceholders, ?_, ?_⟩
  · exact congrArg (s.offset + ·) (List.length_map _)
  · exact bindings_holding s (values.map (Placed.behind s.offset)) _

end PreparedStatement

end OracleCatalog
