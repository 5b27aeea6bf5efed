import OracleCatalog.Proofs.Name
import OracleCatalog.Toml.Reader

/-!
# Tables of a document

A key gets one value, so that the keys of every table of a document are pairwise different texts, at
every level. Each step of the reader that changes a table keeps this.
-/

namespace OracleCatalog.Toml

variable {α β : Type}

/-! ### Answers of the reader -/

/-- What the outcome answers, if it does, is as it should be. -/
def OnAnswer (outcome : Except Failure α) (good : α → Prop) : Prop :=
  ∀ a, outcome = .ok a → good a

section Outcomes

variable {good : α → Prop}

theorem onAnswer_ok {a : α} (h : good a) : OnAnswer (.ok a) good := by
  intro b hb
  cases hb
  exact h

theorem onAnswer_error (failure : Failure) : OnAnswer (.error failure) good := nofun

theorem onAnswer_any (outcome : Except Failure α) : OnAnswer outcome fun _ => True :=
  fun _ _ => trivial

theorem onAnswer_lift {read? : Option α} (h : ∀ a, read? = some a → good a) :
    OnAnswer (Failure.lift read?) good := by
  cases read? with
  | none => exact onAnswer_error _
  | some a => exact onAnswer_ok (h a rfl)

theorem onAnswer_bind {outcome : Except Failure α} {next : α → Except Failure β}
    {good' : β → Prop} (h : OnAnswer outcome good) (hnext : ∀ a, good a → OnAnswer (next a) good') :
    OnAnswer (outcome >>= next) good' := by
  cases outcome with
  | error failure => exact onAnswer_error failure
  | ok a => exact hnext a (h a rfl)

end Outcomes

/-! ### Values with keys -/

/-- The keys of every table in the value are pairwise different texts. -/
inductive WellKeyed : Value → Prop where
  | table {entries : Entries} (texts : OrderedMap.KeysIn Value.IsText entries)
      (distinct : (OrderedMap.keys entries).Nodup)
      (inner : ∀ v ∈ OrderedMap.values entries, WellKeyed v) : WellKeyed (.map entries)
  | list {items : List Value} (inner : ∀ v ∈ items, WellKeyed v) : WellKeyed (.list items)
  | single {v : Value} (h : Draft.seals v = false) : WellKeyed v

theorem wellKeyed_nil : WellKeyed (.map []) :=
  .table OrderedMap.keysIn_nil List.nodup_nil nofun

namespace WellKeyed

variable {entries : Entries} {v : Value}

theorem texts_of_table (h : WellKeyed (.map entries)) : OrderedMap.KeysIn Value.IsText entries := by
  cases h with
  | table texts => exact texts
  | single h => cases h

theorem distinct_of_table (h : WellKeyed (.map entries)) : (OrderedMap.keys entries).Nodup := by
  cases h with
  | table texts distinct => exact distinct
  | single h => cases h

theorem of_mem_values (h : WellKeyed (.map entries)) (hv : v ∈ OrderedMap.values entries) :
    WellKeyed v := by
  cases h with
  | table texts distinct inner => exact inner v hv
  | single h => cases h

theorem of_mem_items {items : List Value} (h : WellKeyed (.list items)) (hv : v ∈ items) :
    WellKeyed v := by
  cases h with
  | list inner => exact inner v hv
  | single h => cases h

theorem put (h : WellKeyed (.map entries)) (key : String) (hv : WellKeyed v) :
    WellKeyed (.map (entries.put (.text key) v)) := by
  have hkey := Value.isText_text key
  have htexts := h.texts_of_table
  refine .table (OrderedMap.keysIn_put htexts hkey v)
    (OrderedMap.nodup_put Value.lawfulOn_isText htexts hkey v h.distinct_of_table) ?_
  intro w hw
  rcases OrderedMap.mem_values_put hw with rfl | hold
  · exact hv
  · exact h.of_mem_values hold

theorem concat {items : List Value} (h : ∀ w ∈ items, WellKeyed w) (hv : WellKeyed v) :
    WellKeyed (.list (items ++ [v])) := by
  apply WellKeyed.list
  intro w hw
  rcases List.mem_append.1 hw with hold | hnew
  · exact h w hold
  · rw [List.mem_singleton.1 hnew]
    exact hv

end WellKeyed

/-! ### Changes of tables -/

theorem wellKeyed_changeAt {change : Entries → Option Entries}
    (hchange : ∀ table changed, WellKeyed (.map table) → change table = some changed →
      WellKeyed (.map changed)) {path : Path} {table changed : Entries}
    (h : WellKeyed (.map table)) (hchanged : changeAt change path table = some changed) :
    WellKeyed (.map changed) := by
  induction path generalizing table changed with
  | nil => exact hchange table changed h hchanged
  | cons key path ih =>
    -- The path goes on in a new table, in the one that is there, or in the last item of a list.
    unfold changeAt at hchanged
    split at hchanged
    · obtain ⟨inner, hinner, rfl⟩ := Option.map_eq_some_iff.1 hchanged
      exact h.put key (ih wellKeyed_nil hinner)
    · rename_i inner hfound
      have hold := h.of_mem_values (OrderedMap.mem_values_of_get? hfound)
      obtain ⟨inner', hinner, rfl⟩ := Option.map_eq_some_iff.1 hchanged
      exact h.put key (ih hold hinner)
    · rename_i items hfound
      have hitems := h.of_mem_values (OrderedMap.mem_values_of_get? hfound)
      split at hchanged
      · rename_i inner hlast
        have hold := hitems.of_mem_items (List.mem_of_getLast? hlast)
        obtain ⟨inner', hinner, rfl⟩ := Option.map_eq_some_iff.1 hchanged
        refine h.put key (WellKeyed.concat (fun w hw => ?_) (ih hold hinner))
        exact hitems.of_mem_items ((List.dropLast_sublist items).subset hw)
      · cases hchanged
    · cases hchanged

theorem wellKeyed_addEntry {key : String} {v : Value} (hv : WellKeyed v) {table changed : Entries}
    (h : WellKeyed (.map table)) (hchanged : addEntry key v table = some changed) :
    WellKeyed (.map changed) := by
  unfold addEntry at hchanged
  split at hchanged
  · cases hchanged
  · cases hchanged
    exact h.put key hv

theorem wellKeyed_addTable {key : String} {table changed : Entries}
    (h : WellKeyed (.map table)) (hchanged : addTable key table = some changed) :
    WellKeyed (.map changed) := by
  unfold addTable at hchanged
  split at hchanged
  · cases hchanged
    exact h.put key (.list (List.forall_mem_singleton.2 wellKeyed_nil))
  · rename_i items hfound
    have hitems := h.of_mem_values (OrderedMap.mem_values_of_get? hfound)
    cases hchanged
    exact h.put key (WellKeyed.concat (fun w hw => hitems.of_mem_items hw) wellKeyed_nil)
  · cases hchanged

namespace Draft

variable {draft changed : Draft}

theorem wellKeyed_openTable {path : Path} (h : WellKeyed (.map draft.root))
    (hchanged : draft.openTable path = some changed) : WellKeyed (.map changed.root) := by
  unfold openTable at hchanged
  dsimp only at hchanged
  split at hchanged
  · cases hchanged
  · obtain ⟨root, hroot, rfl⟩ := Option.map_eq_some_iff.1 hchanged
    refine wellKeyed_changeAt (fun table changed htable hsame => ?_) h hroot
    cases hsame
    exact htable

theorem wellKeyed_openItem {path : Path} (h : WellKeyed (.map draft.root))
    (hchanged : draft.openItem path = some changed) : WellKeyed (.map changed.root) := by
  unfold openItem at hchanged
  dsimp only at hchanged
  split at hchanged
  · cases hchanged
  · obtain ⟨root, hroot, rfl⟩ := Option.map_eq_some_iff.1 hchanged
    exact wellKeyed_changeAt (fun _ _ => wellKeyed_addTable) h hroot

theorem wellKeyed_put {header path : Path} {v : Value} (hv : WellKeyed v)
    (h : WellKeyed (.map draft.root)) (hchanged : draft.put header path v = some changed) :
    WellKeyed (.map changed.root) := by
  unfold put at hchanged
  dsimp only at hchanged
  split at hchanged
  · cases hchanged
  · obtain ⟨root, hroot, rfl⟩ := Option.map_eq_some_iff.1 hchanged
    exact wellKeyed_changeAt (fun _ _ => wellKeyed_addEntry hv) h hroot

end Draft

/-! ### Reading -/

theorem single_of_based {cs rest : List Char} {v : Value} (h : based cs = some (v, rest)) :
    Draft.seals v = false := by
  unfold based at h
  split at h
  · rename_i mark cs
    dsimp only at h
    generalize (if mark = 'x' then 16 else if mark = 'o' then 8 else if mark = 'b' then 2 else 0) =
      base at h
    split at h
    · cases h
    · obtain ⟨digits, -, hdigits⟩ := Option.map_eq_some_iff.1 h
      cases hdigits
      rfl
  · cases h

theorem single_of_decimal (sign cs : List Char) :
    OnAnswer (decimal sign cs) fun read => Draft.seals read.1 = false := by
  unfold decimal
  refine onAnswer_bind (onAnswer_any _) fun whole _ => ?_
  dsimp only
  split
  · unfold integer
    split
    · exact onAnswer_error _
    · exact onAnswer_ok rfl
  · exact onAnswer_bind (onAnswer_any _) fun x _ => onAnswer_ok rfl

theorem wellKeyed_text (cs : List Char) :
    OnAnswer (Failure.lift ((text cs).map fun (s, rest) => (Value.text s, rest))) fun read =>
      WellKeyed read.1 := by
  apply onAnswer_lift
  intro read hread
  obtain ⟨found, -, rfl⟩ := Option.map_eq_some_iff.1 hread
  exact .single rfl

theorem wellKeyed_number (cs : List Char) : OnAnswer (number cs) fun read => WellKeyed read.1 := by
  unfold number
  dsimp only
  split
  · rename_i read _ hbased
    exact onAnswer_ok (.single (single_of_based hbased))
  · exact onAnswer_ok (.single rfl)
  · exact onAnswer_ok (.single rfl)
  · intro read hread
    exact .single (single_of_decimal _ _ read hread)

/-- What is read with some fuel, of a value, of the items of a list behind earlier ones and of the
entries of a table behind those of a draft. -/
structure ReadsWellKeyed (fuel : Nat) : Prop where
  value : ∀ cs, OnAnswer (value fuel cs) fun read => WellKeyed read.1
  items : ∀ earlier cs, (∀ v ∈ earlier, WellKeyed v) →
    OnAnswer (items fuel earlier cs) fun read => WellKeyed read.1
  entries : ∀ draft cs, WellKeyed (.map draft.root) →
    OnAnswer (entries fuel draft cs) fun read => WellKeyed read.1

-- The three readers call each other with less fuel, so that one induction has to carry all of them.
theorem readsWellKeyed (fuel : Nat) : ReadsWellKeyed fuel := by
  induction fuel with
  | zero =>
    refine ⟨fun cs => ?_, fun earlier cs _ => ?_, fun draft cs _ => ?_⟩
    · exact onAnswer_error _
    · exact onAnswer_error _
    · exact onAnswer_error _
  | succ fuel ih =>
    refine ⟨fun cs => ?_, fun earlier cs hearlier => ?_, fun draft cs hdraft => ?_⟩
    · unfold value
      split
      · exact wellKeyed_text _
      · exact wellKeyed_text _
      · exact onAnswer_ok (.single rfl)
      · exact onAnswer_ok (.single rfl)
      · refine onAnswer_bind (onAnswer_any _) fun rest _ => ?_
        exact ih.items [] rest nofun
      · split
        · exact onAnswer_ok wellKeyed_nil
        · exact ih.entries {} _ wellKeyed_nil
      · exact wellKeyed_number _
    · unfold items
      split
      · exact onAnswer_ok (.list fun v hv => hearlier v (List.mem_reverse.1 hv))
      · refine onAnswer_bind (ih.value _) fun read hread => ?_
        have hmore : ∀ v ∈ read.1 :: earlier, WellKeyed v :=
          List.forall_mem_cons.2 ⟨hread, hearlier⟩
        refine onAnswer_bind (onAnswer_any _) fun rest _ => ?_
        split
        · exact onAnswer_ok (.list fun v hv => hmore v (List.mem_reverse.1 hv))
        · refine onAnswer_bind (onAnswer_any _) fun rest _ => ?_
          exact ih.items _ rest hmore
        · exact onAnswer_error _
    · unfold entries
      refine onAnswer_bind (onAnswer_any _) fun start _ => ?_
      refine onAnswer_bind (ih.value _) fun read hread => ?_
      have hput : ∀ changed,
          Draft.put { draft with opened := [] } [] start.1 read.1 = some changed →
            WellKeyed (.map changed.root) := by
        intro changed
        exact Draft.wellKeyed_put hread hdraft
      refine onAnswer_bind (onAnswer_lift hput) fun changed hchanged => ?_
      split
      · exact onAnswer_ok hchanged
      · exact ih.entries changed _ hchanged
      · exact onAnswer_error _

theorem wellKeyed_statement {draft : Draft} (h : WellKeyed (.map draft.root)) (under : Path)
    (cs : List Char) :
    OnAnswer (statement draft under cs) fun read => WellKeyed (.map read.1.1.root) := by
  unfold statement
  split
  · refine onAnswer_bind (onAnswer_any _) fun header _ => ?_
    refine onAnswer_bind (onAnswer_lift fun _ => Draft.wellKeyed_openItem h) fun changed hroot => ?_
    exact onAnswer_ok hroot
  · refine onAnswer_bind (onAnswer_any _) fun header _ => ?_
    refine onAnswer_bind (onAnswer_lift fun _ => Draft.wellKeyed_openTable h) fun changed hroot => ?_
    exact onAnswer_ok hroot
  · exact onAnswer_ok h
  · exact onAnswer_ok h
  · exact onAnswer_ok h
  · refine onAnswer_bind (onAnswer_any _) fun start _ => ?_
    refine onAnswer_bind ((readsWellKeyed _).value _) fun read hread => ?_
    refine onAnswer_bind (onAnswer_lift fun _ => Draft.wellKeyed_put hread h) fun changed hroot => ?_
    exact onAnswer_ok hroot

theorem wellKeyed_lines (fuel : Nat) {draft : Draft} (h : WellKeyed (.map draft.root))
    (under : Path) (cs : List Char) :
    OnAnswer (lines fuel draft under cs) fun tables => WellKeyed (.map tables) := by
  induction fuel generalizing draft under cs with
  | zero => exact onAnswer_error _
  | succ fuel ih =>
    unfold lines
    refine onAnswer_bind (wellKeyed_statement h under _) fun read hread => ?_
    refine onAnswer_bind (onAnswer_any _) fun rest _ => ?_
    split
    · exact onAnswer_ok hread
    · exact ih hread _ _
    · exact onAnswer_error _

/-- The keys of every table of a document are pairwise different texts. -/
theorem wellKeyed_read {content : String} {tables : Entries} (h : read content = .ok tables) :
    WellKeyed (.map tables) :=
  wellKeyed_lines _ wellKeyed_nil [] _ tables h

end OracleCatalog.Toml
