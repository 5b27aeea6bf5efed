import OracleCatalog.OrderedMap

/-!
# Maps whose keys are of one kind

Comparing arbitrary values does not decide whether they are equal: a truth value is the same key as
a number. Among keys of one kind it often does, and then a map with keys of that kind obeys the laws
that one expects of a map.
-/

namespace OracleCatalog.OrderedMap

variable {κ α : Type} {P : κ → Prop}

/-- Every key of the map is of a kind. -/
def KeysIn (P : κ → Prop) (map : OrderedMap κ α) : Prop := ∀ k ∈ keys map, P k

theorem keysIn_nil : KeysIn P ([] : OrderedMap κ α) := by
  intro k hk
  cases hk

theorem keysIn_cons {k : κ} {v : α} {rest : OrderedMap κ α} :
    KeysIn P ((k, v) :: rest) ↔ P k ∧ KeysIn P rest := by
  simp only [KeysIn, keys, List.map_cons, List.mem_cons, forall_eq_or_imp]

theorem keysIn_append {map entries : OrderedMap κ α} :
    KeysIn P (map ++ entries) ↔ KeysIn P map ∧ KeysIn P entries := by
  simp only [KeysIn, keys, List.map_append, List.forall_mem_append]

variable [BEq κ]

/-- Among the keys of a kind, comparing decides equality. -/
def LawfulOn (P : κ → Prop) : Prop := ∀ a b, P a → P b → ((a == b) = true ↔ a = b)

theorem LawfulOn.beq_self (lawful : LawfulOn P) {key : κ} (hk : P key) : (key == key) = true :=
  (lawful key key hk hk).2 rfl

theorem LawfulOn.beq_eq_false (lawful : LawfulOn P) {a b : κ} (ha : P a) (hb : P b) (h : a ≠ b) :
    (a == b) = false := by
  cases hab : a == b with
  | false => rfl
  | true => exact absurd ((lawful a b ha hb).1 hab) h

theorem keysIn_put {map : OrderedMap κ α} (h : KeysIn P map) {key : κ} (hk : P key) (value : α) :
    KeysIn P (put key value map) := by
  induction map with
  | nil => exact keysIn_cons.2 ⟨hk, keysIn_nil⟩
  | cons entry rest ih =>
    obtain ⟨k, v⟩ := entry
    obtain ⟨hkey, hrest⟩ := keysIn_cons.1 h
    simp only [put]
    split
    · exact keysIn_cons.2 ⟨hkey, hrest⟩
    · exact keysIn_cons.2 ⟨hkey, ih hrest⟩

theorem get?_put (lawful : LawfulOn P) {map : OrderedMap κ α} (h : KeysIn P map) {key other : κ}
    (hk : P key) (ho : P other) (value : α) :
    get? other (put key value map) = if other == key then some value else get? other map := by
  induction map with
  | nil => simp only [put, get?]
  | cons entry rest ih =>
    obtain ⟨k, v⟩ := entry
    obtain ⟨hkey, hrest⟩ := keysIn_cons.1 h
    by_cases hput : key = k
    · subst hput
      simp only [put, get?, lawful.beq_self hk, ↓reduceIte]
      split <;> rfl
    · have hne : (key == k) = false := lawful.beq_eq_false hk hkey hput
      simp only [put, get?, hne, Bool.false_eq_true, ↓reduceIte, ih hrest]
      by_cases hok : other = k
      · subst hok
        have hko : (other == key) = false := lawful.beq_eq_false ho hk (Ne.symm hput)
        simp only [lawful.beq_self ho, hko, Bool.false_eq_true, ↓reduceIte]
      · simp only [lawful.beq_eq_false ho hkey hok, Bool.false_eq_true, ↓reduceIte]

/-- Writing a key again replaces what was written. -/
theorem put_put_self [LawfulBEq κ] (key : κ) (earlier value : α) (map : OrderedMap κ α) :
    put key value (put key earlier map) = put key value map := by
  induction map with
  | nil => simp only [put, BEq.rfl, ↓reduceIte]
  | cons entry rest ih =>
    obtain ⟨k, v⟩ := entry
    cases hkey : key == k with
    | true => simp only [put, hkey, ↓reduceIte]
    | false => simp only [put, hkey, Bool.false_eq_true, ↓reduceIte, ih]

theorem put_ne_nil (key : κ) (value : α) (map : OrderedMap κ α) : put key value map ≠ [] := by
  cases map with
  | nil => exact List.cons_ne_nil _ _
  | cons entry rest =>
    unfold put
    split
    · exact List.cons_ne_nil _ _
    · exact List.cons_ne_nil _ _

theorem update_ne_nil {map : OrderedMap κ α} (h : map ≠ []) (entries : OrderedMap κ α) :
    map.update entries ≠ [] := by
  unfold update
  induction entries generalizing map with
  | nil => exact h
  | cons entry rest ih => exact ih (put_ne_nil entry.1 entry.2 map)

theorem mem_values_put {map : OrderedMap κ α} {key : κ} {value v : α}
    (h : v ∈ values (put key value map)) : v = value ∨ v ∈ values map := by
  induction map with
  | nil => exact .inl (List.mem_singleton.1 h)
  | cons entry rest ih =>
    obtain ⟨k, v'⟩ := entry
    simp only [put] at h
    split at h
    · rcases List.mem_cons.1 h with hv | hv
      · exact .inl hv
      · exact .inr (List.mem_cons_of_mem _ hv)
    · rcases List.mem_cons.1 h with hv | hv
      · exact .inr (hv ▸ List.mem_cons_self)
      · exact (ih hv).imp_right (List.mem_cons_of_mem _)

theorem mem_values_of_get? {map : OrderedMap κ α} {key : κ} {value : α}
    (found : get? key map = some value) : value ∈ values map := by
  induction map with
  | nil => cases found
  | cons entry rest ih =>
    obtain ⟨k, v⟩ := entry
    simp only [get?] at found
    split at found
    · cases found
      exact List.mem_cons_self
    · exact List.mem_cons_of_mem _ (ih found)

theorem mem_keys_put (lawful : LawfulOn P) {map : OrderedMap κ α} (h : KeysIn P map) {key k : κ}
    (hk : P key) (value : α) : k ∈ keys (put key value map) ↔ k = key ∨ k ∈ keys map := by
  induction map with
  | nil => simp only [put, keys, List.map_cons, List.map_nil, List.mem_cons, List.not_mem_nil]
  | cons entry rest ih =>
    obtain ⟨k', v⟩ := entry
    obtain ⟨hkey, hrest⟩ := keysIn_cons.1 h
    have ih' := ih hrest
    simp only [keys] at ih' ⊢
    by_cases hput : key = k'
    · subst hput
      simp only [put, lawful.beq_self hk, ↓reduceIte, List.map_cons, List.mem_cons]
      exact ⟨.inr, fun hor => hor.elim .inl id⟩
    · simp only [put, lawful.beq_eq_false hk hkey hput, Bool.false_eq_true, ↓reduceIte,
        List.map_cons, List.mem_cons, ih']
      exact or_left_comm

theorem nodup_put (lawful : LawfulOn P) {map : OrderedMap κ α} (h : KeysIn P map) {key : κ}
    (hk : P key) (value : α) (distinct : (keys map).Nodup) :
    (keys (put key value map)).Nodup := by
  induction map with
  | nil => exact List.pairwise_singleton _ _
  | cons entry rest ih =>
    obtain ⟨k, v⟩ := entry
    obtain ⟨hkey, hrest⟩ := keysIn_cons.1 h
    obtain ⟨hnot, hd⟩ := List.nodup_cons.1 distinct
    by_cases hput : key = k
    · subst hput
      simp only [put, lawful.beq_self hk, ↓reduceIte]
      exact distinct
    · simp only [put, lawful.beq_eq_false hk hkey hput, Bool.false_eq_true, ↓reduceIte]
      refine List.nodup_cons.2 ⟨fun hmem => ?_, ih hrest hd⟩
      rcases (mem_keys_put lawful hrest hk value).1 hmem with heq | hold
      · exact hput heq.symm
      · exact hnot hold

theorem mem_of_get? (lawful : LawfulOn P) {map : OrderedMap κ α} (h : KeysIn P map) {key : κ}
    (hk : P key) {value : α} (found : get? key map = some value) : (key, value) ∈ map := by
  induction map with
  | nil => cases found
  | cons entry rest ih =>
    obtain ⟨k, v⟩ := entry
    obtain ⟨hkey, hrest⟩ := keysIn_cons.1 h
    simp only [get?] at found
    split at found
    · rename_i heq
      obtain rfl := (lawful key k hk hkey).1 heq
      cases found
      exact List.mem_cons_self
    · exact List.mem_cons_of_mem _ (ih hrest found)

theorem mem_keys_of_has (lawful : LawfulOn P) {map : OrderedMap κ α} (h : KeysIn P map) {key : κ}
    (hk : P key) (hhas : has key map = true) : key ∈ keys map := by
  obtain ⟨value, hvalue⟩ := Option.isSome_iff_exists.1 hhas
  exact List.mem_map.2 ⟨_, mem_of_get? lawful h hk hvalue, rfl⟩

theorem get?_of_mem (lawful : LawfulOn P) {map : OrderedMap κ α} (h : KeysIn P map)
    (distinct : (keys map).Nodup) {key : κ} {value : α} (hmem : (key, value) ∈ map) :
    get? key map = some value := by
  induction map with
  | nil => cases hmem
  | cons entry rest ih =>
    obtain ⟨k, v⟩ := entry
    obtain ⟨hkey, hrest⟩ := keysIn_cons.1 h
    obtain ⟨hnot, hd⟩ := List.nodup_cons.1 distinct
    rcases List.mem_cons.1 hmem with heq | hold
    · cases heq
      simp only [get?, lawful.beq_self hkey, ↓reduceIte]
    · have hkm : key ∈ keys rest := List.mem_map.2 ⟨_, hold, rfl⟩
      have hne : key ≠ k := fun heq => hnot (heq ▸ hkm)
      simp only [get?, lawful.beq_eq_false (hrest key hkm) hkey hne, Bool.false_eq_true,
        ↓reduceIte]
      exact ih hrest hd hold

/-- The values of a map are what can be found under its keys. -/
theorem mem_values (lawful : LawfulOn P) {map : OrderedMap κ α} (h : KeysIn P map)
    (distinct : (keys map).Nodup) {value : α} :
    value ∈ values map ↔ ∃ key, P key ∧ get? key map = some value := by
  constructor
  · intro hv
    obtain ⟨⟨key, v⟩, hmem, rfl⟩ := List.mem_map.1 hv
    exact ⟨key, h key (List.mem_map.2 ⟨_, hmem, rfl⟩), get?_of_mem lawful h distinct hmem⟩
  · rintro ⟨key, hk, found⟩
    exact List.mem_map.2 ⟨_, mem_of_get? lawful h hk found, rfl⟩

/-! ### Gathering -/

section Gathering

variable {ι : Type} {key : ι → κ} {join : Option α → ι → α} {map : OrderedMap κ α} {items : List ι}

/-- Puts an item behind what its key holds. -/
def gather (key : ι → κ) (join : Option α → ι → α) (map : OrderedMap κ α) (item : ι) :
    OrderedMap κ α :=
  put (key item) (join (get? (key item) map) item) map

theorem keysIn_gather (hkeys : KeysIn P map) {item : ι} (hitem : P (key item)) :
    KeysIn P (gather key join map item) :=
  keysIn_put hkeys hitem _

theorem keysIn_foldl_gather (hkeys : KeysIn P map) (hitems : ∀ item ∈ items, P (key item)) :
    KeysIn P (items.foldl (gather key join) map) := by
  induction items generalizing map with
  | nil => exact hkeys
  | cons item rest ih =>
    obtain ⟨hitem, hrest⟩ := List.forall_mem_cons.1 hitems
    exact ih (keysIn_gather hkeys hitem) hrest

theorem nodup_foldl_gather (lawful : LawfulOn P) (hkeys : KeysIn P map)
    (distinct : (keys map).Nodup) (hitems : ∀ item ∈ items, P (key item)) :
    (keys (items.foldl (gather key join) map)).Nodup := by
  induction items generalizing map with
  | nil => exact distinct
  | cons item rest ih =>
    obtain ⟨hitem, hrest⟩ := List.forall_mem_cons.1 hitems
    exact ih (keysIn_gather hkeys hitem) (nodup_put lawful hkeys hitem _ distinct) hrest

/-- A key holds what the items of that key come to. -/
theorem get?_foldl_gather (lawful : LawfulOn P) (hkeys : KeysIn P map)
    (hitems : ∀ item ∈ items, P (key item)) {k : κ} (hk : P k) :
    get? k (items.foldl (gather key join) map) =
      (items.filter fun item => k == key item).foldl (fun earlier item => some (join earlier item))
        (get? k map) := by
  -- for any map, as each item leaves another one behind
  induction items generalizing map with
  | nil => rfl
  | cons item rest ih =>
    obtain ⟨hitem, hrest⟩ := List.forall_mem_cons.1 hitems
    have hput : get? k (gather key join map item) =
        if k == key item then some (join (get? (key item) map) item) else get? k map :=
      get?_put lawful hkeys hitem hk _
    rw [List.foldl_cons, ih (keysIn_gather hkeys hitem) hrest, hput, List.filter_cons]
    by_cases heq : k = key item
    · subst heq
      simp only [lawful.beq_self hk, ↓reduceIte, List.foldl_cons]
    · simp only [lawful.beq_eq_false hk hitem heq, Bool.false_eq_true, ↓reduceIte]

theorem mem_keys_foldl_gather (lawful : LawfulOn P) (hkeys : KeysIn P map)
    (hitems : ∀ item ∈ items, P (key item)) {k : κ} :
    k ∈ keys (items.foldl (gather key join) map) ↔ k ∈ keys map ∨ k ∈ items.map key := by
  induction items generalizing map with
  | nil => exact (or_iff_left List.not_mem_nil).symm
  | cons item rest ih =>
    obtain ⟨hitem, hrest⟩ := List.forall_mem_cons.1 hitems
    rw [List.foldl_cons, ih (keysIn_gather hkeys hitem) hrest, gather,
      mem_keys_put lawful hkeys hitem, List.map_cons, List.mem_cons, or_assoc]
    exact or_left_comm

theorem has_put (lawful : LawfulOn P) (hkeys : KeysIn P map) {k other : κ} (hk : P k)
    (ho : P other) (value : α) : has other (put k value map) = (other == k || has other map) := by
  unfold has
  rw [get?_put lawful hkeys hk ho]
  cases other == k <;> rfl

theorem keys_put_eq (lawful : LawfulOn P) (hkeys : KeysIn P map) {k : κ} (hk : P k) (value : α) :
    keys (put k value map) = if has k map then keys map else keys map ++ [k] := by
  induction map with
  | nil => rfl
  | cons entry rest ih =>
    obtain ⟨k', v⟩ := entry
    obtain ⟨hkey, hrest⟩ := keysIn_cons.1 hkeys
    have ih' := ih hrest
    unfold has at ih' ⊢
    by_cases hput : k = k'
    · subst hput
      simp only [put, get?, lawful.beq_self hk, ↓reduceIte, Option.isSome_some, keys, List.map_cons]
    · simp only [put, get?, lawful.beq_eq_false hk hkey hput, Bool.false_eq_true, ↓reduceIte]
      unfold keys at ih' ⊢
      rw [List.map_cons, ih', List.map_cons]
      split <;> rfl

/-- A key that is new goes to the end. -/
theorem put_of_not_mem (lawful : LawfulOn P) (hkeys : KeysIn P map) {k : κ} (hk : P k)
    (fresh : k ∉ keys map) (value : α) : put k value map = map ++ [(k, value)] := by
  induction map with
  | nil => rfl
  | cons entry rest ih =>
    obtain ⟨k', v⟩ := entry
    obtain ⟨hkey, hrest⟩ := keysIn_cons.1 hkeys
    obtain ⟨hne, hnot⟩ := List.ne_and_not_mem_of_not_mem_cons fresh
    rw [put, lawful.beq_eq_false hk hkey hne, if_neg Bool.false_ne_true, ih hrest hnot]
    rfl

/-- The keys of the items follow those of the map, in the order of their first items. -/
theorem keys_foldl_gather (lawful : LawfulOn P) (hkeys : KeysIn P map)
    (hitems : ∀ item ∈ items, P (key item)) :
    keys (items.foldl (gather key join) map) =
      keys map ++ ((items.map key).filter fun k => !has k map).eraseDups := by
  induction items generalizing map with
  | nil => exact (List.append_nil _).symm
  | cons item rest ih =>
    obtain ⟨hitem, hrest⟩ := List.forall_mem_cons.1 hitems
    have hnew : ∀ k ∈ rest.map key, (!has k (gather key join map item)) =
        !(k == key item || has k map) := fun k hmem =>
      congrArg (!·) (has_put lawful hkeys hitem (List.forall_mem_map.2 hrest k hmem) _)
    rw [List.foldl_cons, ih (keysIn_gather hkeys hitem) hrest, List.filter_congr hnew,
      List.map_cons, List.filter_cons, gather, keys_put_eq lawful hkeys hitem]
    cases hold : has (key item) map with
    | true =>
      have hsame : ∀ k ∈ rest.map key, (!(k == key item || has k map)) = !has k map := by
        intro k hmem
        by_cases heq : k = key item
        · rw [heq, hold, Bool.or_true]
        · rw [lawful.beq_eq_false (List.forall_mem_map.2 hrest k hmem) hitem heq, Bool.false_or]
      rw [List.filter_congr hsame]
      rfl
    | false =>
      rw [Bool.not_false, if_pos rfl, if_neg Bool.false_ne_true, List.eraseDups_cons,
        List.filter_filter, List.append_assoc, List.singleton_append]
      simp only [Bool.not_or]

theorem keys_foldl_gather_nil (lawful : LawfulOn P) (hitems : ∀ item ∈ items, P (key item)) :
    keys (items.foldl (gather key join) []) = (items.map key).eraseDups := by
  have hfresh : ((items.map key).filter fun k => !has k ([] : OrderedMap κ α)) = items.map key :=
    List.filter_eq_self.2 fun _ _ => rfl
  rw [keys_foldl_gather lawful keysIn_nil hitems, hfresh]
  rfl

omit [BEq κ] in
theorem exists_of_foldl_join {earlier : Option α} {value : α}
    (h : items.foldl (fun earlier item => some (join earlier item)) earlier = some value) :
    earlier = some value ∧ items = [] ∨
      ∃ before last, last ∈ items ∧ value = join before last := by
  induction items generalizing earlier with
  | nil => exact .inl ⟨h, rfl⟩
  | cons item rest ih =>
    right
    rcases ih h with ⟨hlast, -⟩ | ⟨before, last, hmem, hvalue⟩
    · exact ⟨earlier, item, List.mem_cons_self, (Option.some.inj hlast).symm⟩
    · exact ⟨before, last, List.mem_cons_of_mem _ hmem, hvalue⟩

omit [BEq κ] in
/-- What grows with each item grows by the parts of all items in order. -/
theorem foldl_join_append {β : Type} {whole : Option α → List β} {part : ι → List β}
    (hjoin : ∀ earlier item, whole (some (join earlier item)) = whole earlier ++ part item)
    (items : List ι) (earlier : Option α) :
    whole (items.foldl (fun earlier item => some (join earlier item)) earlier) =
      whole earlier ++ items.flatMap part := by
  induction items generalizing earlier with
  | nil => exact (List.append_nil _).symm
  | cons item rest ih => rw [List.foldl_cons, ih, hjoin, List.flatMap_cons, List.append_assoc]

/-! ### Values that know their keys -/

variable {name : α → κ}

/-- Every value of the map names the key that it is under. -/
def NamedBy (name : α → κ) (map : OrderedMap κ α) : Prop := ∀ entry ∈ map, name entry.2 = entry.1

omit [BEq κ] in
theorem namedBy_nil : NamedBy name ([] : OrderedMap κ α) := by
  intro entry hmem
  cases hmem

theorem NamedBy.put (named : NamedBy name map) (lawful : LawfulOn P) (hkeys : KeysIn P map) {k : κ}
    (hk : P k) {value : α} (hvalue : name value = k) : NamedBy name (put k value map) := by
  induction map with
  | nil => exact List.forall_mem_singleton.2 hvalue
  | cons entry rest ih =>
    obtain ⟨k', v⟩ := entry
    obtain ⟨hkey, hrest⟩ := keysIn_cons.1 hkeys
    obtain ⟨hentry, hnamed⟩ := List.forall_mem_cons.1 named
    by_cases hput : k = k'
    · subst hput
      simp only [OrderedMap.put, lawful.beq_self hk, ↓reduceIte]
      exact List.forall_mem_cons.2 ⟨hvalue, hnamed⟩
    · simp only [OrderedMap.put, lawful.beq_eq_false hk hkey hput, Bool.false_eq_true, ↓reduceIte]
      exact List.forall_mem_cons.2 ⟨hentry, ih hnamed hrest⟩

theorem namedBy_foldl_gather (lawful : LawfulOn P) (hkeys : KeysIn P map)
    (named : NamedBy name map) (hitems : ∀ item ∈ items, P (key item))
    (hjoin : ∀ earlier item, name (join earlier item) = key item) :
    NamedBy name (items.foldl (gather key join) map) := by
  induction items generalizing map with
  | nil => exact named
  | cons item rest ih =>
    obtain ⟨hitem, hrest⟩ := List.forall_mem_cons.1 hitems
    exact ih (keysIn_gather hkeys hitem) (named.put lawful hkeys hitem (hjoin _ item)) hrest

omit [BEq κ] in
theorem NamedBy.map_values (named : NamedBy name map) : (values map).map name = keys map := by
  unfold values keys
  rw [List.map_map]
  exact List.map_congr_left named

/-- What is gathered from items alone has the keys of the items as names, each of them once and in
the order of their first items. -/
theorem gathered_names (lawful : LawfulOn P) (hitems : ∀ item ∈ items, P (key item))
    (hjoin : ∀ earlier item, name (join earlier item) = key item) :
    (values (items.foldl (gather key join) [])).map name = (items.map key).eraseDups ∧
      ((values (items.foldl (gather key join) [])).map name).Nodup ∧
      ∀ k, k ∈ (values (items.foldl (gather key join) [])).map name ↔ k ∈ items.map key := by
  have named := namedBy_foldl_gather lawful keysIn_nil namedBy_nil hitems hjoin
  rw [named.map_values]
  refine ⟨keys_foldl_gather_nil lawful hitems, ?_, fun k => ?_⟩
  · exact nodup_foldl_gather lawful keysIn_nil List.nodup_nil hitems
  · rw [mem_keys_foldl_gather lawful keysIn_nil hitems]
    exact or_iff_right List.not_mem_nil

theorem NamedBy.get?_of_mem_values (named : NamedBy name map) (lawful : LawfulOn P)
    (hkeys : KeysIn P map) (distinct : (keys map).Nodup) {value : α} (h : value ∈ values map) :
    P (name value) ∧ get? (name value) map = some value := by
  obtain ⟨⟨k, v⟩, hmem, rfl⟩ := List.mem_map.1 h
  have hname : name v = k := named _ hmem
  rw [hname]
  exact ⟨hkeys k (List.mem_map.2 ⟨_, hmem, rfl⟩), get?_of_mem lawful hkeys distinct hmem⟩

theorem NamedBy.find?_values (named : NamedBy name map) (lawful : LawfulOn P)
    (hkeys : KeysIn P map) {k : κ} (hk : P k) :
    (values map).find? (fun value => name value == k) = get? k map := by
  induction map with
  | nil => rfl
  | cons entry rest ih =>
    obtain ⟨k', v⟩ := entry
    obtain ⟨hkey, hrest⟩ := keysIn_cons.1 hkeys
    obtain ⟨hentry, hnamed⟩ := List.forall_mem_cons.1 named
    have hvalue : name v = k' := hentry
    rw [values, List.map_cons, List.find?_cons, hvalue, get?]
    by_cases heq : k = k'
    · rw [heq, lawful.beq_self hkey]
      rfl
    · rw [lawful.beq_eq_false hkey hk (Ne.symm heq), lawful.beq_eq_false hk hkey heq]
      exact ih hnamed hrest

end Gathering

/-! ### Writing several entries -/

section Updating

variable {map entries : OrderedMap κ α}

theorem update_append (first second : OrderedMap κ α) :
    update map (first ++ second) = update (update map first) second :=
  List.foldl_append

/-- Entries of new keys, each written once, go to the end. -/
theorem update_of_nodup (lawful : LawfulOn P) (hmap : KeysIn P map) (hentries : KeysIn P entries)
    (distinct : (keys (map ++ entries)).Nodup) : update map entries = map ++ entries := by
  induction entries generalizing map with
  | nil => exact (List.append_nil map).symm
  | cons entry rest ih =>
    obtain ⟨k, v⟩ := entry
    obtain ⟨hkey, hrest⟩ := keysIn_cons.1 hentries
    have hkeys : keys (map ++ (k, v) :: rest) = keys map ++ k :: keys rest := List.map_append
    have fresh : k ∉ keys map := by
      rw [hkeys] at distinct
      exact fun hk => (List.nodup_append.1 distinct).2.2 k hk k List.mem_cons_self rfl
    have hput : put k v map = map ++ [(k, v)] := put_of_not_mem lawful hmap hkey fresh v
    have hassoc : map ++ (k, v) :: rest = map ++ [(k, v)] ++ rest := List.append_cons _ _ _
    have hstep := ih (hput ▸ keysIn_put hmap hkey v) hrest (hassoc ▸ distinct)
    rw [← hput] at hstep
    rw [hassoc, ← hput]
    exact hstep

theorem nodup_ofEntries (lawful : LawfulOn P) (hentries : KeysIn P entries) :
    (keys (ofEntries entries)).Nodup := by
  have hgather : ofEntries entries = entries.foldl (gather Prod.fst fun _ entry => entry.2) [] := rfl
  rw [hgather]
  exact nodup_foldl_gather lawful keysIn_nil List.nodup_nil fun entry hentry =>
    hentries _ (List.mem_map_of_mem hentry)

/-- Every entry counts exactly when no key is written twice. -/
theorem ofEntries_eq_self_iff (lawful : LawfulOn P) (hentries : KeysIn P entries) :
    ofEntries entries = entries ↔ (keys entries).Nodup := by
  refine ⟨fun heq => heq ▸ nodup_ofEntries lawful hentries, fun distinct => ?_⟩
  exact update_of_nodup lawful keysIn_nil hentries distinct

end Updating

/-! ### Taking entries out -/

section Removal

variable [LawfulBEq κ] {map : OrderedMap κ α}

theorem get?_eq_none {key : κ} (h : key ∉ keys map) : get? key map = none := by
  induction map with
  | nil => rfl
  | cons entry rest ih =>
    obtain ⟨k, v⟩ := entry
    obtain ⟨hne, hrest⟩ := not_or.1 fun hmem => h (List.mem_cons.2 hmem)
    rw [get?, if_neg fun heq => hne (eq_of_beq heq), ih hrest]

omit [LawfulBEq κ] in
theorem keys_erase_sublist (key : κ) (map : OrderedMap κ α) :
    List.Sublist (keys (erase key map)) (keys map) := by
  induction map with
  | nil => exact List.Sublist.refl _
  | cons entry rest ih =>
    obtain ⟨k, v⟩ := entry
    unfold erase
    split
    · exact List.sublist_cons_self k (keys rest)
    · exact ih.cons_cons k

theorem get?_erase_of_ne {key other : κ} (h : other ≠ key) (map : OrderedMap κ α) :
    get? other (erase key map) = get? other map := by
  induction map with
  | nil => rfl
  | cons entry rest ih =>
    obtain ⟨k, v⟩ := entry
    by_cases hkey : key = k
    · subst hkey
      simp [erase, get?, h]
    · by_cases hother : other = k <;> simp [erase, get?, hkey, hother, ih]

/-- Of pairwise different keys, the one that is taken out is gone, and the others stay. -/
theorem get?_erase (distinct : (keys map).Nodup) (key other : κ) :
    get? other (erase key map) = if other == key then none else get? other map := by
  induction map with
  | nil => exact (ite_self none).symm
  | cons entry rest ih =>
    obtain ⟨k, v⟩ := entry
    obtain ⟨hnot, hrest⟩ := List.nodup_cons.1 distinct
    by_cases hkey : key = k
    · subst hkey
      rw [erase, if_pos BEq.rfl]
      by_cases hother : other = key
      · rw [if_pos (beq_iff_eq.2 hother), hother, get?_eq_none hnot]
      · have hne : ¬(other == key) = true := fun heq => hother (eq_of_beq heq)
        rw [if_neg hne, get?, if_neg hne]
    · rw [erase, if_neg fun heq => hkey (eq_of_beq heq), get?, get?, ih hrest]
      by_cases hother : other = k
      · have hne : ¬(other == key) = true := fun heq => hkey ((eq_of_beq heq).symm.trans hother)
        rw [if_pos (beq_iff_eq.2 hother), if_neg hne, if_pos (beq_iff_eq.2 hother)]
      · have hne : ¬(other == k) = true := fun heq => hother (eq_of_beq heq)
        rw [if_neg hne, if_neg hne]

theorem get?_filter (p : κ → Bool) (key : κ) (map : OrderedMap κ α) :
    get? key (map.filter fun entry => p entry.1) = if p key then get? key map else none := by
  induction map with
  | nil => exact (ite_self none).symm
  | cons entry rest ih =>
    obtain ⟨k, v⟩ := entry
    rw [List.filter_cons]
    by_cases hother : key = k
    · subst hother
      cases hp : p key with
      | true => simp only [↓reduceIte, get?, BEq.rfl]
      | false =>
        rw [hp] at ih
        simp only [Bool.false_eq_true, ↓reduceIte] at ih ⊢
        exact ih
    · have hne : ¬(key == k) = true := fun heq => hother (eq_of_beq heq)
      rw [get?, if_neg hne, ← ih]
      split
      · rw [get?, if_neg hne]
      · rfl

end Removal

/-! ### Renaming keys -/

section Renaming

variable {β : Type} {f : κ → κ} {g : α → β} {map : OrderedMap κ α}

def rename (f : κ → κ) (g : α → β) (map : OrderedMap κ α) : OrderedMap κ β :=
  map.map fun entry => (f entry.1, g entry.2)

omit [BEq κ] in
theorem values_rename (map : OrderedMap κ α) : values (rename f g map) = (values map).map g := by
  unfold values rename
  rw [List.map_map, List.map_map]
  rfl

omit [BEq κ] in
theorem keys_rename (map : OrderedMap κ α) : keys (rename f g map) = (keys map).map f := by
  unfold keys rename
  rw [List.map_map, List.map_map]
  rfl

theorem get?_rename {k : κ} (hf : ∀ k' ∈ keys map, (f k == f k') = (k == k')) :
    get? (f k) (rename f g map) = (get? k map).map g := by
  induction map with
  | nil => rfl
  | cons entry rest ih =>
    obtain ⟨hentry, hrest⟩ := List.forall_mem_cons.1 hf
    have ih' := ih hrest
    unfold rename at ih' ⊢
    rw [List.map_cons, get?, get?, hentry, ih']
    split <;> rfl

theorem put_rename {k : κ} (hf : ∀ k' ∈ keys map, (f k == f k') = (k == k')) (value : α) :
    rename f g (put k value map) = put (f k) (g value) (rename f g map) := by
  induction map with
  | nil => rfl
  | cons entry rest ih =>
    obtain ⟨hentry, hrest⟩ := List.forall_mem_cons.1 hf
    have ih' := ih hrest
    unfold rename at ih' ⊢
    rw [List.map_cons, put, put, hentry, ← ih']
    split <;> rfl

/-- Gathering commutes with a renaming that keeps the key of the item apart from the others. -/
theorem gather_rename {ι ι' : Type} {key : ι → κ} {join : Option α → ι → α} {key' : ι' → κ}
    {join' : Option β → ι' → β} {item : ι} {item' : ι'}
    (hf : ∀ k' ∈ keys map, (f (key item) == f k') = (key item == k'))
    (hkey : key' item' = f (key item))
    (hjoin : ∀ earlier : Option α, join' (earlier.map g) item' = g (join earlier item)) :
    gather key' join' (rename f g map) item' = rename f g (gather key join map item) := by
  unfold gather
  rw [hkey, get?_rename hf, hjoin, put_rename hf]

end Renaming

end OracleCatalog.OrderedMap
