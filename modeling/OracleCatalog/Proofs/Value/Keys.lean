import OracleCatalog.Proofs.OrderedMap
import OracleCatalog.Proofs.Value.Sameness
import OracleCatalog.Value.Members

/-!
# Keys of one class

Keys of different kinds can be the same, and a key that is no number is not even the same as itself.
Comparing keys is still symmetric and transitive, and this is enough: an entry that is written under
a key takes the place of the one that was there, and it is found under every key that is the same.

Where entries are written under their own names, they are also found by their names among the values
of the map alone.
-/

namespace OracleCatalog

/-! ### Writing under keys -/

namespace OrderedMap

variable {κ α : Type} [BEq κ] {P : κ → Prop}

/-- Of keys of the class, those that are the same as a third one are the same. -/
structure CoherentOn (P : κ → Prop) : Prop where
  symm : ∀ {a b : κ}, P a → P b → (a == b) = true → (b == a) = true
  trans : ∀ {a b c : κ}, P a → P b → (a == b) = true → (b == c) = true → (a == c) = true

theorem CoherentOn.beq_congr (coherent : CoherentOn P) {a b c : κ} (ha : P a) (hb : P b) (hc : P c)
    (h : (a == b) = true) : (c == a) = (c == b) := by
  rw [Bool.eq_iff_iff]
  exact ⟨fun hca => coherent.trans hc ha hca h,
    fun hcb => coherent.trans hc hb hcb (coherent.symm ha hb h)⟩

/-- What entries give last under a key. -/
def last? (key : κ) (entries : List (κ × α)) : Option α :=
  (entries.filterMap fun entry => if key == entry.1 then some entry.2 else none).getLast?

theorem last?_cons (key k : κ) (v : α) (rest : List (κ × α)) :
    last? key ((k, v) :: rest) = (last? key rest).or (if key == k then some v else none) := by
  unfold last?
  rw [List.filterMap_cons]
  cases key == k with
  | false => simp
  | true =>
    simp only [↓reduceIte, List.getLast?_cons]
    cases (List.filterMap _ rest).getLast? <;> rfl

theorem get?_put_of_coherent (coherent : CoherentOn P) {map : OrderedMap κ α} (h : KeysIn P map)
    {key other : κ} (hkey : P key) (hother : P other) (value : α) :
    get? other (put key value map) = if other == key then some value else get? other map := by
  induction map with
  | nil => rfl
  | cons entry rest ih =>
    obtain ⟨k, v⟩ := entry
    obtain ⟨hk, hrest⟩ := keysIn_cons.1 h
    cases hput : key == k with
    | true =>
      have halike := coherent.beq_congr hkey hk hother hput
      simp only [put, hput, ↓reduceIte, get?, halike]
      split <;> rfl
    | false =>
      have hapart (hsame : (other == key) = true) : (other == k) = false := by
        refine Bool.eq_false_iff.2 fun hthird => ?_
        have hkeys := coherent.trans hkey hother (coherent.symm hother hkey hsame) hthird
        rw [hput] at hkeys
        cases hkeys
      simp only [put, hput, Bool.false_eq_true, ↓reduceIte, get?, ih hrest]
      cases hsame : other == key with
      | true => simp [hapart hsame]
      | false => rfl

theorem get?_update_of_coherent (coherent : CoherentOn P) {map entries : OrderedMap κ α}
    (hmap : KeysIn P map) (hentries : KeysIn P entries) {key : κ} (hkey : P key) :
    get? key (update map entries) = (last? key entries).or (get? key map) := by
  induction entries generalizing map with
  | nil => rfl
  | cons entry rest ih =>
    obtain ⟨k, v⟩ := entry
    obtain ⟨hk, hrest⟩ := keysIn_cons.1 hentries
    have hput := get?_put_of_coherent coherent hmap hk hkey v
    have hstep : update map ((k, v) :: rest) = update (put k v map) rest := rfl
    rw [hstep, ih (keysIn_put hmap hk v) hrest, hput, last?_cons]
    cases last? key rest <;> cases key == k <;> rfl

/-! ### Values under their own names -/

section Names

variable {name : α → κ} {map entries : OrderedMap κ α}

theorem CoherentOn.beq_comm (coherent : CoherentOn P) {a b : κ} (ha : P a) (hb : P b) :
    (a == b) = (b == a) := by
  rw [Bool.eq_iff_iff]
  exact ⟨coherent.symm ha hb, coherent.symm hb ha⟩

/-- A map in which no two keys are the same, and in which every value has a name that cannot be told
from its key. -/
structure Indexes (P : κ → Prop) (name : α → κ) (map : OrderedMap κ α) : Prop where
  keys : KeysIn P map
  apart : (OrderedMap.keys map).Pairwise fun a b => (a == b) = false
  names : ∀ entry ∈ map, P (name entry.2) ∧ ∀ k, P k → (k == name entry.2) = (k == entry.1)

theorem indexes_nil : Indexes P name ([] : OrderedMap κ α) :=
  ⟨keysIn_nil, .nil, fun _ h => absurd h List.not_mem_nil⟩

theorem indexes_cons {k : κ} {v : α} {rest : OrderedMap κ α} :
    Indexes P name ((k, v) :: rest) ↔
      (P k ∧ P (name v) ∧ (∀ other, P other → (other == name v) = (other == k)) ∧
        ∀ other ∈ OrderedMap.keys rest, (k == other) = false) ∧ Indexes P name rest := by
  constructor
  · rintro ⟨keys, apart, names⟩
    obtain ⟨hk, hkeys⟩ := keysIn_cons.1 keys
    obtain ⟨hapart, hrest⟩ := List.pairwise_cons.1 apart
    obtain ⟨⟨hv, halike⟩, hnames⟩ := List.forall_mem_cons.1 names
    exact ⟨⟨hk, hv, halike, hapart⟩, hkeys, hrest, hnames⟩
  · rintro ⟨⟨hk, hv, halike, hapart⟩, hkeys, hrest, hnames⟩
    exact ⟨keysIn_cons.2 ⟨hk, hkeys⟩, List.pairwise_cons.2 ⟨hapart, hrest⟩,
      List.forall_mem_cons.2 ⟨⟨hv, halike⟩, hnames⟩⟩

theorem eq_or_mem_of_mem_keys_put {key k : κ} {value : α} (h : k ∈ keys (put key value map)) :
    k = key ∨ k ∈ keys map := by
  induction map with
  | nil => exact .inl (List.mem_singleton.1 h)
  | cons entry rest ih =>
    obtain ⟨k', v⟩ := entry
    unfold put at h
    split at h
    · exact .inr h
    · rcases List.mem_cons.1 h with heq | hrest
      · exact .inr (heq ▸ List.mem_cons_self)
      · exact (ih hrest).imp_right (List.mem_cons_of_mem _)

/-- Writing a value under its name keeps a map indexed by names. -/
theorem Indexes.put (indexes : Indexes P name map) (coherent : CoherentOn P) {value : α}
    (hvalue : P (name value)) : Indexes P name (put (name value) value map) := by
  induction map with
  | nil => exact indexes_cons.2 ⟨⟨hvalue, hvalue, fun _ _ => rfl, nofun⟩, indexes_nil⟩
  | cons entry rest ih =>
    obtain ⟨k, v⟩ := entry
    obtain ⟨⟨hk, hv, halike, hapart⟩, hrest⟩ := indexes_cons.1 indexes
    unfold OrderedMap.put
    cases hput : name value == k with
    | true =>
      -- the key keeps its first spelling, which cannot be told from the name of the new value
      rw [if_pos rfl]
      exact indexes_cons.2 ⟨⟨hk, hvalue, fun other hother =>
        coherent.beq_congr hvalue hk hother hput, hapart⟩, hrest⟩
    | false =>
      rw [if_neg Bool.false_ne_true]
      refine indexes_cons.2 ⟨⟨hk, hv, halike, fun other hmem => ?_⟩, ih hrest⟩
      rcases eq_or_mem_of_mem_keys_put hmem with rfl | hold
      · rw [coherent.beq_comm hk hvalue]
        exact hput
      · exact hapart other hold

theorem Indexes.update (indexes : Indexes P name map) (coherent : CoherentOn P)
    (hentries : ∀ entry ∈ entries, P entry.1 ∧ name entry.2 = entry.1) :
    Indexes P name (update map entries) := by
  induction entries generalizing map with
  | nil => exact indexes
  | cons entry rest ih =>
    obtain ⟨⟨hkey, hname⟩, hrest⟩ := List.forall_mem_cons.1 hentries
    have hstep := indexes.put coherent (hname ▸ hkey)
    rw [hname] at hstep
    exact ih hstep hrest

/-- No two values have the same name. -/
theorem Indexes.pairwise_values (indexes : Indexes P name map) (coherent : CoherentOn P) :
    (values map).Pairwise fun a b => (name a == name b) = false := by
  induction map with
  | nil => exact .nil
  | cons entry rest ih =>
    obtain ⟨k, v⟩ := entry
    obtain ⟨⟨hk, hv, halike, hapart⟩, hrest⟩ := indexes_cons.1 indexes
    refine List.pairwise_cons.2 ⟨fun b hb => ?_, ih hrest⟩
    obtain ⟨⟨k', w⟩, hmem, rfl⟩ := List.mem_map.1 hb
    obtain ⟨hw, halike'⟩ := hrest.names _ hmem
    have hkey : k' ∈ OrderedMap.keys rest := List.mem_map_of_mem hmem
    have hk' := hrest.keys k' hkey
    rw [halike' _ hv, coherent.beq_comm hv hk', halike _ hk', coherent.beq_comm hk' hk]
    exact hapart k' hkey

/-- The first value of a name is the one under that name. -/
theorem Indexes.find?_values (indexes : Indexes P name map) (coherent : CoherentOn P) {k : κ}
    (hk : P k) : (values map).find? (fun value => name value == k) = get? k map := by
  induction map with
  | nil => rfl
  | cons entry rest ih =>
    obtain ⟨k', v⟩ := entry
    obtain ⟨⟨hk', hv, halike, -⟩, hrest⟩ := indexes_cons.1 indexes
    have hsame : (name v == k) = (k == k') := by
      rw [coherent.beq_comm hv hk]
      exact halike k hk
    rw [values, List.map_cons, List.find?_cons, get?, hsame]
    cases k == k' with
    | true => rfl
    | false => exact ih hrest

/-- A value is found under every key that is the same as its name. -/
theorem Indexes.find?_of_mem (indexes : Indexes P name map) (coherent : CoherentOn P) {value : α}
    (hvalue : value ∈ values map) {k : κ} (hk : P k) (hsame : (name value == k) = true) :
    (values map).find? (fun value => name value == k) = some value := by
  induction map with
  | nil => cases hvalue
  | cons entry rest ih =>
    obtain ⟨k', v⟩ := entry
    have hapart := (List.pairwise_cons.1 (indexes.pairwise_values coherent)).1
    obtain ⟨⟨-, hv, -, -⟩, hrest⟩ := indexes_cons.1 indexes
    rcases List.mem_cons.1 hvalue with rfl | hmem
    · exact List.find?_cons_of_pos hsame
    · obtain ⟨entry, hentry, rfl⟩ := List.mem_map.1 hmem
      have hother : (name v == k) = false := by
        refine Bool.eq_false_iff.2 fun hthird => ?_
        have hw := (hrest.names entry hentry).1
        have hnames := coherent.trans hv hk hthird (coherent.symm hw hk hsame)
        rw [hapart entry.2 hmem] at hnames
        cases hnames
      rw [values, List.map_cons, List.find?_cons, hother]
      exact ih hrest hmem

theorem last?_eq_none_iff {key : κ} :
    last? key entries = none ↔ ∀ entry ∈ entries, (key == entry.1) = false := by
  unfold last?
  rw [List.getLast?_eq_none_iff, List.filterMap_eq_nil_iff]
  refine forall₂_congr fun entry _ => ?_
  cases key == entry.1 <;> simp

end Names

end OrderedMap

/-- Whether the value can be a key of a map. -/
def Value.IsKey (v : Value) : Prop := v.isKey = true

theorem Value.coherentOn_isKey : OrderedMap.CoherentOn Value.IsKey :=
  ⟨fun ha _ => Value.same_symm ha, fun ha hb => Value.same_trans ha hb⟩

/-! ### Keys that can be written -/

namespace Value

mutual

theorem isKey_of_nonKey? {v : Value} (h : v.nonKey? = none) : v.IsKey := by
  cases v with
  | tuple xs => exact areKeys_of_firstNonKey h
  | _ =>
    unfold nonKey? at h
    split at h
    · assumption
    · cases h
termination_by sizeOf v

theorem areKeys_of_firstNonKey {xs : List Value} (h : firstNonKey xs = none) :
    areKeys xs = true := by
  cases xs with
  | nil => rfl
  | cons x xs =>
    obtain ⟨hx, hxs⟩ := Option.or_eq_none_iff.1 h
    exact Bool.and_eq_true_iff.2 ⟨isKey_of_nonKey? hx, areKeys_of_firstNonKey hxs⟩
termination_by sizeOf xs

end

theorem key_of_asKey {v key : Value} (h : v.asKey = .ok key) : key = v ∧ v.IsKey := by
  unfold asKey at h
  cases hpart : v.nonKey? with
  | some part =>
    rw [hpart] at h
    cases h
  | none =>
    rw [hpart] at h
    exact ⟨(Except.ok.inj h).symm, isKey_of_nonKey? hpart⟩

mutual

/-- Only a key is the same as a key. -/
theorem isKey_of_same {v key : Value} (hkey : key.IsKey) (h : same v key = true) : v.IsKey := by
  cases v with
  | list xs =>
    cases key with
    | list ys => cases hkey
    | _ => cases h
  | map es =>
    cases key with
    | map fs => cases hkey
    | _ => cases h
  | tuple xs =>
    cases key with
    | tuple ys => exact areKeys_of_sameAll hkey h
    | _ => cases h
  | decimal d =>
    cases d with
    | nan negative signaling payload =>
      have hnan : (decimal (.nan negative signaling payload)).number? = some .nan := rfl
      rw [same_of_number? hnan] at h
      cases hnumber : key.number? with
      | none =>
        rw [hnumber] at h
        cases h
      | some n =>
        rw [hnumber] at h
        cases n <;> cases h
    | _ => rfl
  | _ => rfl
termination_by sizeOf v

theorem areKeys_of_sameAll {xs ys : List Value} (hkeys : areKeys ys = true)
    (h : sameAll xs ys = true) : areKeys xs = true := by
  cases xs with
  | nil => rfl
  | cons x xs =>
    cases ys with
    | nil => cases h
    | cons y ys =>
      obtain ⟨hy, hys⟩ := Bool.and_eq_true_iff.1 hkeys
      obtain ⟨hhead, hrest⟩ := Bool.and_eq_true_iff.1 h
      exact Bool.and_eq_true_iff.2 ⟨isKey_of_same hy hhead, areKeys_of_sameAll hys hrest⟩
termination_by sizeOf xs

end

end Value

/-! ### Values that are found by their names -/

open OrderedMap (CoherentOn Indexes indexes_nil ofEntries values last?)

/-- Values are kept as they were written last, and found by their names: no two of them have the
same name, a name finds what was written last under a key that is the same, and nothing where
nothing was, and each value is found under every key that is the same as its name. -/
structure LastKept {α : Type} (name : α → Value) (find : Value → Option α)
    (written : List (Value × α)) (kept : List α) : Prop where
  apart : kept.Pairwise fun a b => (name a == name b) = false
  last : ∀ n, find n = last? n written
  absent : ∀ n, find n = none ↔ ∀ entry ∈ written, (n == entry.1) = false
  own : ∀ a ∈ kept, ∀ n, (name a == n) = true → find n = some a

theorem lastKept_of_names {α : Type} {name : α → Value} {written : List (Value × α)}
    (hwritten : ∀ entry ∈ written, entry.1.IsKey ∧ name entry.2 = entry.1) :
    LastKept name (fun n => (values (ofEntries written)).find? fun a => name a == n) written
      (values (ofEntries written)) := by
  have coherent := Value.coherentOn_isKey
  have indexes : Indexes Value.IsKey name (ofEntries written) :=
    indexes_nil.update coherent hwritten
  have hkeys : OrderedMap.KeysIn Value.IsKey written := by
    intro k hk
    obtain ⟨entry, hentry, rfl⟩ := List.mem_map.1 hk
    exact (hwritten entry hentry).1
  have hlast (n : Value) :
      (values (ofEntries written)).find? (fun a => name a == n) = last? n written := by
    by_cases hn : n.IsKey
    · rw [indexes.find?_values coherent hn]
      unfold ofEntries
      rw [OrderedMap.get?_update_of_coherent coherent OrderedMap.keysIn_nil hkeys hn]
      exact Option.or_none
    · -- what is no key is the same as no name and as no key
      have hnone : last? n written = none := OrderedMap.last?_eq_none_iff.2 fun entry hentry =>
        Bool.eq_false_iff.2 fun hsame => hn (Value.isKey_of_same (hwritten entry hentry).1 hsame)
      rw [hnone]
      refine List.find?_eq_none.2 fun a ha hsame => hn ?_
      obtain ⟨entry, hentry, rfl⟩ := List.mem_map.1 ha
      have hname := (indexes.names entry hentry).1
      exact Value.isKey_of_same hname (Value.same_symm hname hsame)
  refine ⟨indexes.pairwise_values coherent, hlast, fun n => ?_, fun a ha n hsame => ?_⟩
  · rw [hlast]
    exact OrderedMap.last?_eq_none_iff
  · obtain ⟨entry, hentry, rfl⟩ := List.mem_map.1 ha
    have hname := (indexes.names entry hentry).1
    have hn := Value.isKey_of_same hname (Value.same_symm hname hsame)
    exact indexes.find?_of_mem coherent ha hn hsame

end OracleCatalog
