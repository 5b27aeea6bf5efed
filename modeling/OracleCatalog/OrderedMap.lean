/-!
# Maps in insertion order

A map is a list of entries whose keys are pairwise different. A new key goes to the end; writing a
key again keeps its place and its first spelling and replaces the value.
-/

namespace OracleCatalog

/-- Entries in the order in which their keys were first written. -/
abbrev OrderedMap (κ α : Type) := List (κ × α)

namespace OrderedMap

variable {κ α : Type} [BEq κ]

/-- The value stored under the key. -/
def get? (key : κ) : OrderedMap κ α → Option α
  | [] => none
  | (k, v) :: rest => if key == k then some v else get? key rest

def put (key : κ) (value : α) : OrderedMap κ α → OrderedMap κ α
  | [] => [(key, value)]
  | (k, v) :: rest => if key == k then (k, value) :: rest else (k, v) :: put key value rest

def erase (key : κ) : OrderedMap κ α → OrderedMap κ α
  | [] => []
  | (k, v) :: rest => if key == k then rest else (k, v) :: erase key rest

def has (key : κ) (map : OrderedMap κ α) : Bool := (get? key map).isSome

/-- The first map with every entry of the second written into it. -/
def update (map entries : OrderedMap κ α) : OrderedMap κ α :=
  entries.foldl (fun map entry => put entry.1 entry.2 map) map

/-- The map that arises from writing the entries one after the other. -/
def ofEntries (entries : List (κ × α)) : OrderedMap κ α := update [] entries

def keys (map : OrderedMap κ α) : List κ := map.map (·.1)

def values (map : OrderedMap κ α) : List α := map.map (·.2)

/-! ### Laws -/

section Laws

variable {κ α : Type} [BEq κ] [LawfulBEq κ]

@[simp] theorem get?_put_self (key : κ) (value : α) (map : OrderedMap κ α) :
    get? key (put key value map) = some value := by
  induction map with
  | nil => simp [put, get?]
  | cons entry rest ih =>
    obtain ⟨k, v⟩ := entry
    by_cases h : key == k <;> simp [put, get?, h, ih]

theorem get?_put_of_ne {key other : κ} (h : other ≠ key) (value : α) (map : OrderedMap κ α) :
    get? other (put key value map) = get? other map := by
  induction map with
  | nil => simp [put, get?, h]
  | cons entry rest ih =>
    obtain ⟨k, v⟩ := entry
    by_cases hk : key = k
    · subst hk
      simp [put, get?, h]
    · by_cases ho : other = k <;> simp [put, get?, hk, ho, ih]

theorem keys_put (key : κ) (value : α) (map : OrderedMap κ α) :
    keys (put key value map) = if key ∈ keys map then keys map else keys map ++ [key] := by
  induction map with
  | nil => simp [put, keys]
  | cons entry rest ih =>
    obtain ⟨k, v⟩ := entry
    by_cases hk : key = k
    · subst hk
      simp [put, keys]
    · have ih' : List.map (·.1) (put key value rest) =
          if key ∈ List.map (·.1) rest then List.map (·.1) rest
          else List.map (·.1) rest ++ [key] := ih
      by_cases hm : key ∈ List.map (·.1) rest
      · have hm' : ∃ x, (key, x) ∈ rest := by simpa using hm
        simp [put, keys, hk, ih', hm']
      · have hm' : ∀ x, (key, x) ∉ rest := by simpa using hm
        simp [put, keys, hk, ih', hm']

/-- Writing keeps the keys pairwise different. -/
theorem nodup_keys_put {map : OrderedMap κ α} (h : (keys map).Nodup) (key : κ) (value : α) :
    (keys (put key value map)).Nodup := by
  rw [keys_put]
  split
  · exact h
  · rename_i hk
    refine List.nodup_append.2 ⟨h, List.pairwise_singleton _ _, ?_⟩
    intro a ha b hb
    rw [List.mem_singleton] at hb
    intro hab
    exact hk (hb ▸ hab ▸ ha)

end Laws

end OrderedMap

end OracleCatalog
