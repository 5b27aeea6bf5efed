import OracleCatalog.Proofs.Refusal
import OracleCatalog.Proofs.Settings.Loading
import OracleCatalog.Proofs.Toml.Tables

/-!
# Connections of a file

A file has a table for the library, and that has one connection for every name or a table of
connections by name. The entries of a connection name no text twice, whether they stand in a table
or in a list of pairs.
-/

namespace OracleCatalog

def connectionTables (connection : Value) : Entries :=
  [(.text "tool", .map [(.text "oradialect", .map [(.text "connection", connection)])])]

/-- The table under a key, an empty one where the key is missing; none where something else is
there. -/
def table? (key : String) (entries : Entries) : Option Entries :=
  match fieldOr (.map []) key entries with
  | .map inner => some inner
  | _ => none

/-- The library's own table among the tables of a file. -/
def ownTable? (tables : Entries) : Option Entries :=
  (table? "tool" tables).bind (table? "oradialect")

/-- What the own table has for the connection of a name. -/
def connection? (own : Entries) (name : String) : Option Value :=
  (OrderedMap.get? (.text "connection") own).or
    ((table? "connections" own).bind (OrderedMap.get? (.text name)))

theorem fieldOr_of_table? {key : String} {entries inner : Entries}
    (h : table? key entries = some inner) : fieldOr (.map []) key entries = .map inner := by
  unfold table? at h
  split at h
  · cases h
    assumption
  · cases h

theorem connectionEntries_of_own {tables own : Entries} (h : ownTable? tables = some own)
    (name : String) :
    connectionEntries tables (.text name) =
      match connection? own name with
      | some v => v.toEntries.map some
      | none => .ok none := by
  obtain ⟨tool, htool, hown⟩ := Option.bind_eq_some_iff.1 h
  replace htool := fieldOr_of_table? htool
  replace hown := fieldOr_of_table? hown
  unfold connectionEntries connection?
  simp only [tableUnder, htool, hown, Error.ok_bind, holdsText, underKey, OrderedMap.has,
    Value.field]
  cases hconnection : OrderedMap.get? (Value.text "connection") own with
  | some v =>
    simp only [Option.isSome_some, ↓reduceIte, Error.ok_bind, Option.some_or]
    cases v.toEntries <;> rfl
  | none =>
    simp only [Option.isSome_none, Bool.false_eq_true, ↓reduceIte, Option.none_or, table?]
    cases hconnections : fieldOr (.map []) "connections" own with
    | map connections =>
      have hkey : (Value.text name).asKey = .ok (.text name) := rfl
      simp only [hkey, Error.ok_bind, Option.bind_some]
      cases OrderedMap.get? (Value.text name) connections with
      | some v => cases v.toEntries <;> rfl
      | none => rfl
    | _ => rfl

theorem answersOrRefuses_tableUnder {key : String} {v : Value} {good : Value → Prop} :
    AnswersOrRefuses (tableUnder key v) good ↔
      ∃ entries, v = .map entries ∧ good (fieldOr (.map []) key entries) := by
  cases v with
  | map entries => simp [tableUnder]
  | _ => simp [tableUnder, AnswersOrRefuses, Error.IsRefusal]

/-- Where the own table is no table, looking into it fails for another reason than a refusal. -/
theorem connectionEntries_of_no_own {tables : Entries} (h : ownTable? tables = none)
    (name : String) : ¬AnswersOrRefuses (connectionEntries tables (.text name)) fun _ => True := by
  unfold connectionEntries
  rw [answersOrRefuses_bind, answersOrRefuses_tableUnder]
  rintro ⟨_, ⟨⟩, hrest⟩
  rw [answersOrRefuses_bind, answersOrRefuses_tableUnder] at hrest
  obtain ⟨tool, htool, hrest⟩ := hrest
  cases hown : fieldOr (.map []) "oradialect" tool with
  | map own => simp [ownTable?, table?, htool, hown] at h
  | list items =>
    rw [hown, answersOrRefuses_bind, holdsText, answersOrRefuses_ok] at hrest
    split at hrest <;> exact hrest
  | text t =>
    rw [hown, answersOrRefuses_bind, holdsText, answersOrRefuses_ok] at hrest
    split at hrest <;> exact hrest
  | _ =>
    rw [hown] at hrest
    exact hrest

/-- A connection is read or refused where the own table is one and what it has for the connection
can be read as a map or is refused. -/
theorem answersOrRefuses_connectionEntries {tables : Entries} {name : String}
    {good : Option Entries → Prop} :
    AnswersOrRefuses (connectionEntries tables (.text name)) good ↔
      ∃ own, ownTable? tables = some own ∧
        match connection? own name with
        | some v => v.Mappable ∧ ∀ entries, v.toEntries = .ok entries → good (some entries)
        | none => good none := by
  cases hown : ownTable? tables with
  | none =>
    simp only [reduceCtorEq, false_and, exists_false, iff_false]
    intro h
    exact connectionEntries_of_no_own hown name (answersOrRefuses_iff.1 h).1
  | some own =>
    simp only [Option.some.injEq, exists_eq_left', connectionEntries_of_own hown]
    cases connection? own name with
    | some v =>
      rw [answersOrRefuses_map, answersOrRefuses_iff, Value.answersOrRefuses_toEntries]
    | none => rfl

/-! ### Texts that are named once -/

-- Pairs may have keys that are no texts, and of those nothing is needed.
/-- No text is a key of the map twice. -/
def NamedOnce (entries : Entries) : Prop :=
  (OrderedMap.keys entries).Pairwise fun key key' => ∀ s, key = .text s → key' ≠ .text s

theorem namedOnce_nil : NamedOnce [] := List.Pairwise.nil

theorem namedOnce_of_nodup {entries : Entries} (h : (OrderedMap.keys entries).Nodup) :
    NamedOnce entries := by
  apply List.Pairwise.imp _ h
  intro key key' hne s hkey hkey'
  exact hne (hkey.trans hkey'.symm)

theorem NamedOnce.ne_of_mem {before after : Entries} {s : String} {u : Value}
    (h : NamedOnce (before ++ (.text s, u) :: after)) {entry : Value × Value}
    (hmem : entry ∈ before ∨ entry ∈ after) : entry.1 ≠ .text s := by
  unfold NamedOnce OrderedMap.keys at h
  rw [List.map_append, List.map_cons, List.pairwise_append] at h
  obtain ⟨-, hafter, hbefore⟩ := h
  rcases hmem with hmem | hmem
  · intro heq
    exact hbefore _ (List.mem_map_of_mem hmem) _ List.mem_cons_self s heq rfl
  · exact (List.pairwise_cons.1 hafter).1 _ (List.mem_map_of_mem hmem) s rfl

theorem namedOnce_put {entries : Entries} (h : NamedOnce entries) (key v : Value) :
    NamedOnce (entries.put key v) := by
  induction entries with
  | nil => exact List.pairwise_singleton _ _
  | cons entry rest ih =>
    obtain ⟨k, w⟩ := entry
    obtain ⟨hfirst, hrest⟩ := List.pairwise_cons.1 h
    unfold OrderedMap.put
    split
    · exact h
    · rename_i hne
      have hkey : ∀ s, k = .text s → key ≠ .text s := by
        intro s hk hkey
        subst hk hkey
        exact hne ((Value.text_beq s s).trans BEq.rfl)
      exact List.pairwise_cons.2 ⟨OrderedMap.keysIn_put hfirst hkey v, ih hrest⟩

theorem namedOnce_putPairs {members : List Value} {index : Nat} {entries reached : Entries}
    (h : NamedOnce entries) (hreached : Value.putPairs index entries members = .ok reached) :
    NamedOnce reached := by
  induction members generalizing index entries with
  | nil =>
    cases hreached
    exact h
  | cons member rest ih =>
    unfold Value.putPairs at hreached
    split at hreached
    · exact ih (namedOnce_put h _ _) hreached
    · cases hreached

theorem namedOnce_toEntries {v : Value} (hv : Toml.WellKeyed v) {entries : Entries}
    (h : v.toEntries = .ok entries) : NamedOnce entries := by
  unfold Value.toEntries at h
  split at h
  · cases h
    exact namedOnce_of_nodup hv.distinct_of_table
  · split at h
    · exact namedOnce_putPairs namedOnce_nil h
    · cases h

/-! ### What a file that was read holds -/

theorem wellKeyed_of_table? {key : String} {entries inner : Entries}
    (hentries : Toml.WellKeyed (.map entries)) (h : table? key entries = some inner) :
    Toml.WellKeyed (.map inner) := by
  have hfield := fieldOr_of_table? h
  unfold fieldOr at hfield
  cases hfound : OrderedMap.get? (Value.text key) entries with
  | none =>
    rw [hfound] at hfield
    cases hfield
    exact Toml.wellKeyed_nil
  | some v =>
    rw [hfound] at hfield
    cases hfield
    exact hentries.of_mem_values (OrderedMap.mem_values_of_get? hfound)

theorem wellKeyed_of_ownTable? {tables own : Entries} (htables : Toml.WellKeyed (.map tables))
    (h : ownTable? tables = some own) : Toml.WellKeyed (.map own) := by
  obtain ⟨tool, htool, hown⟩ := Option.bind_eq_some_iff.1 h
  exact wellKeyed_of_table? (wellKeyed_of_table? htables htool) hown

theorem wellKeyed_of_connection? {own : Entries} (hown : Toml.WellKeyed (.map own)) {name : String}
    {v : Value} (h : connection? own name = some v) : Toml.WellKeyed v := by
  rcases Option.or_eq_some_iff.1 h with hfound | ⟨-, hfound⟩
  · exact hown.of_mem_values (OrderedMap.mem_values_of_get? hfound)
  · obtain ⟨connections, hconnections, hfound⟩ := Option.bind_eq_some_iff.1 hfound
    have hinner := wellKeyed_of_table? hown hconnections
    exact hinner.of_mem_values (OrderedMap.mem_values_of_get? hfound)

theorem SettingsFile.wellKeyed_tables {file : SettingsFile} {tables : Entries}
    (h : file.tables = .ok tables) : Toml.WellKeyed (.map tables) := by
  unfold SettingsFile.tables at h
  split at h
  · split at h
    · rename_i hread
      cases h
      exact Toml.wellKeyed_read hread
    · cases h
      exact Toml.wellKeyed_nil
    · cases h
  · cases h
    exact Toml.wellKeyed_nil

/-- The entries that a file has for a connection name no text twice. -/
theorem SettingsFile.namedOnce_entries {file : SettingsFile} {name : String} {entries : Entries}
    (h : (file.entries (.text name)).outcome.1 = .ok entries) : NamedOnce entries := by
  rw [result_entries] at h
  obtain ⟨tables, htables, h⟩ := Error.ok_of_bind h
  obtain ⟨found, hfound, rfl⟩ := Error.ok_of_map h
  cases hown : ownTable? tables with
  | none =>
    have hfails := connectionEntries_of_no_own hown name
    rw [hfound] at hfails
    exact absurd trivial hfails
  | some own =>
    have hwell := wellKeyed_of_ownTable? (wellKeyed_tables htables) hown
    rw [connectionEntries_of_own hown] at hfound
    cases hconnection : connection? own name with
    | none =>
      rw [hconnection] at hfound
      cases hfound
      exact namedOnce_nil
    | some v =>
      rw [hconnection] at hfound
      obtain ⟨entries, hentries, rfl⟩ := Error.ok_of_map hfound
      exact namedOnce_toEntries (wellKeyed_of_connection? hwell hconnection) hentries

end OracleCatalog
