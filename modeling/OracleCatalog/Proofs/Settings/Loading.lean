import OracleCatalog.Proofs.Settings.Spelling
import OracleCatalog.Settings.Source

/-!
# What loading settings comes to

Loading reads a map of entries and a map of variables, writes the second over the first, and reads
settings from the result. Each setting that is named gets the last value that the map has for it,
where a port may still have to be read as a number.
-/

namespace OracleCatalog

open OracleCatalog.Settings (Collected)

variable {setting : Setting}

/-! ### Settings of a map -/

namespace Setting

theorem isText_extra_of_ofKey? {key : Value} (h : key.isText "extra" = true) :
    ofKey? key = some .extra := by
  cases key with
  | text s =>
    obtain rfl : s = "extra" := eq_of_beq h
    exact ofKey?_name .extra
  | _ => cases h

/-- The value of a setting that a map gives in writing. -/
def read (setting : Setting) (v : Value) : Except Error Value :=
  match setting with
  | .port => Settings.readPort v
  | _ => .ok v

theorem read_of_ne_port (h : setting ≠ .port) (v : Value) : setting.read v = .ok v := by
  cases setting with
  | port => exact absurd rfl h
  | _ => rfl

end Setting

namespace Settings

theorem get?_values_add (h : setting ≠ .extra) (collected : Collected) (entry : Value × Value) :
    OrderedMap.get? setting (collected.add entry).values =
      if Setting.ofKey? entry.1 = some setting then some entry.2
      else OrderedMap.get? setting collected.values := by
  unfold Collected.add
  by_cases hextra : entry.1.isText "extra" = true
  · have hkey := Setting.isText_extra_of_ofKey? hextra
    simp [hextra, hkey, Ne.symm h]
  · simp only [hextra, Bool.false_eq_true, ↓reduceIte]
    cases hkey : Setting.ofKey? entry.1 with
    | none => simp
    | some other =>
      by_cases heq : other = setting
      · subst heq
        simp
      · simp [heq, OrderedMap.get?_put_of_ne (Ne.symm heq)]

theorem get?_values_collected (h : setting ≠ .extra) (entries : Entries) (collected : Collected) :
    OrderedMap.get? setting (entries.foldl Collected.add collected).values =
      (setting.last? entries).or (OrderedMap.get? setting collected.values) := by
  induction entries generalizing collected with
  | nil => rfl
  | cons entry rest ih =>
    rw [List.foldl_cons, ih, get?_values_add h, Setting.last?_cons]
    by_cases hkey : Setting.ofKey? entry.1 = some setting <;> simp [hkey]

end Settings

theorem CaseFolding.toValue_of_ofValue {option : Value} {folding : CaseFolding}
    (h : CaseFolding.ofValue option = .ok folding) : folding.toValue = option := by
  unfold CaseFolding.ofValue at h
  split at h <;> cases h <;> rfl

namespace Settings

theorem get?_toValues_of_ofValues {values : OrderedMap Setting Value} {settings : Settings}
    (h : ofValues values = .ok settings) {v : Value}
    (hv : OrderedMap.get? setting values = some v) :
    OrderedMap.get? setting settings.toValues = some v := by
  obtain ⟨folding, hfolding, h⟩ := Error.ok_of_bind h
  obtain ⟨_, -, h⟩ := Error.ok_of_bind h
  cases h
  have hcase := CaseFolding.toValue_of_ofValue hfolding
  cases setting <;> simp_all [toValues, OrderedMap.get?]

/-- The values that are collected, with the port read as a number. -/
def Collected.read (collected : Collected) : Except Error (OrderedMap Setting Value) :=
  match OrderedMap.get? .port collected.values with
  | some port => (readPort port).map fun port => collected.values.put .port port
  | none => .ok collected.values

def Collected.extraValue (collected : Collected) : Value :=
  if collected.extra.isEmpty then .null else .map collected.extra

theorem ofEntries_eq (entries : Entries) :
    ofEntries entries =
      ((Value.fieldOrNull "extra" entries).orElse (.map [])).toEntries >>= fun given =>
        (entries.foldl Collected.add { extra := given }).read >>= fun values =>
          ofValues (values.put .extra
            (entries.foldl Collected.add { extra := given }).extraValue) := by
  unfold ofEntries Collected.read Collected.extraValue
  apply bind_congr
  intro given
  dsimp only
  cases OrderedMap.get? .port (entries.foldl Collected.add { extra := given }).values <;> rfl

theorem Collected.read_ok (hne : setting ≠ .extra) {collected : Collected}
    {values : OrderedMap Setting Value} (h : collected.read = .ok values) {w : Value}
    (hw : OrderedMap.get? setting collected.values = some w) :
    ∃ v, setting.read w = .ok v ∧ OrderedMap.get? setting values = some v := by
  unfold Collected.read at h
  by_cases hport : setting = .port
  · subst hport
    rw [hw] at h
    obtain ⟨v, hv, rfl⟩ := Error.ok_of_map h
    exact ⟨v, hv, OrderedMap.get?_put_self _ _ _⟩
  · refine ⟨w, Setting.read_of_ne_port hport w, ?_⟩
    cases hgiven : OrderedMap.get? Setting.port collected.values with
    | none =>
      rw [hgiven] at h
      cases h
      exact hw
    | some port =>
      rw [hgiven] at h
      obtain ⟨v, -, rfl⟩ := Error.ok_of_map h
      rw [OrderedMap.get?_put_of_ne hport, hw]

/-- Settings read from a map hold the last value that the map has for a setting. -/
theorem read_of_ofEntries (hne : setting ≠ .extra) {entries : Entries} {settings : Settings}
    (h : ofEntries entries = .ok settings) {w : Value} (hlast : setting.last? entries = some w) :
    ∃ v, setting.read w = .ok v ∧ OrderedMap.get? setting settings.toValues = some v := by
  rw [ofEntries_eq] at h
  obtain ⟨given, -, h⟩ := Error.ok_of_bind h
  obtain ⟨values, hvalues, h⟩ := Error.ok_of_bind h
  have hcollected := get?_values_collected hne entries { extra := given }
  rw [hlast, Option.some_or] at hcollected
  obtain ⟨v, hread, hv⟩ := Collected.read_ok hne hvalues hcollected
  have hfinal := get?_toValues_of_ofValues h ((OrderedMap.get?_put_of_ne hne _ _).trans hv)
  exact ⟨v, hread, hfinal⟩

end Settings

/-! ### Settings of variables -/

namespace Variables

variable {vars : Variables}

/-- What one variable gives: a setting under its name, with the value that the text stands for. -/
def entry? (vars : Variables) (named : String × Setting) : Except Error (Option (Value × Value)) :=
  match OrderedMap.get? (variableStem ++ named.1) vars with
  | some s => (named.2.ofVariable s).map fun v => some (Value.text named.2.name, v)
  | none => .ok none

theorem entries_eq (vars : Variables) :
    vars.entries = (Setting.variableNames.mapM vars.entry?).map (·.filterMap id) := by
  have hentries : vars.entries =
      Setting.variableNames.mapM vars.entry? >>= fun given => pure (given.filterMap id) := rfl
  rw [hentries]
  cases Setting.variableNames.mapM vars.entry? <;> rfl

theorem entries_nil : entries [] = .ok [] := rfl

/-- The settings that some of the variables give, with their values. -/
structure Gives (vars : Variables) (names : List (String × Setting))
    (values : OrderedMap Setting Value) : Prop where
  keys : (OrderedMap.keys values).Sublist (names.map (·.2))
  ofSet : ∀ named ∈ names, ∀ s, OrderedMap.get? (variableStem ++ named.1) vars = some s →
    ∃ v, named.2.ofVariable s = .ok v ∧ OrderedMap.get? named.2 values = some v
  ofGiven : ∀ setting v, OrderedMap.get? setting values = some v →
    ∃ s, setting.ofVariable s = .ok v

theorem Gives.skip {first : String × Setting} {rest : List (String × Setting)}
    {values : OrderedMap Setting Value} (gives : vars.Gives rest values)
    (hunset : OrderedMap.get? (variableStem ++ first.1) vars = none) :
    vars.Gives (first :: rest) values := by
  refine ⟨gives.keys.cons _, ?_, gives.ofGiven⟩
  intro named hmem s hs
  rcases List.mem_cons.1 hmem with rfl | hmem
  · rw [hunset] at hs
    cases hs
  · exact gives.ofSet named hmem s hs

theorem Gives.cons {first : String × Setting} {rest : List (String × Setting)}
    {values : OrderedMap Setting Value} (gives : vars.Gives rest values)
    (hnot : first.2 ∉ rest.map (·.2)) {s : String} {v : Value}
    (hset : OrderedMap.get? (variableStem ++ first.1) vars = some s)
    (hv : first.2.ofVariable s = .ok v) : vars.Gives (first :: rest) ((first.2, v) :: values) := by
  refine ⟨gives.keys.cons_cons _, ?_, ?_⟩
  · intro named hmem t ht
    rcases List.mem_cons.1 hmem with rfl | hmem
    · obtain rfl := Option.some.inj (hset.symm.trans ht)
      exact ⟨v, hv, by simp [OrderedMap.get?]⟩
    · obtain ⟨w, hw, hget⟩ := gives.ofSet named hmem t ht
      have hne : named.2 ≠ first.2 := fun heq => hnot (List.mem_map.2 ⟨named, hmem, heq⟩)
      exact ⟨w, hw, by simp [OrderedMap.get?, hne, hget]⟩
  · intro setting w hw
    by_cases heq : setting = first.2
    · subst heq
      simp only [OrderedMap.get?, BEq.rfl, ↓reduceIte, Option.some.injEq] at hw
      exact ⟨s, hw ▸ hv⟩
    · simp only [OrderedMap.get?, beq_iff_eq, heq, ↓reduceIte] at hw
      exact gives.ofGiven setting w hw

theorem gives_of_mapM {names : List (String × Setting)} (distinct : (names.map (·.2)).Nodup)
    {given : List (Option (Value × Value))} (h : names.mapM vars.entry? = .ok given) :
    ∃ values, vars.Gives names values ∧ given.filterMap id = Setting.named values := by
  induction names generalizing given with
  | nil =>
    cases h
    exact ⟨[], ⟨List.Sublist.slnil, nofun, nofun⟩, rfl⟩
  | cons first rest ih =>
    obtain ⟨hnot, hrest⟩ := List.nodup_cons.1 distinct
    obtain ⟨part, parts, hpart, hparts, rfl⟩ := Error.ok_of_mapM_cons h
    obtain ⟨values, gives, hnamed⟩ := ih hrest hparts
    unfold entry? at hpart
    cases hvariable : OrderedMap.get? (variableStem ++ first.1) vars with
    | none =>
      rw [hvariable] at hpart
      cases hpart
      exact ⟨values, gives.skip hvariable, hnamed⟩
    | some s =>
      rw [hvariable] at hpart
      obtain ⟨v, hv, rfl⟩ := Error.ok_of_map hpart
      refine ⟨(first.2, v) :: values, gives.cons hnot hvariable hv, ?_⟩
      rw [List.filterMap_cons, hnamed]
      rfl

theorem distinct_variableNames : (Setting.variableNames.map (·.2)).Nodup := by decide

theorem extra_not_mem_variableNames : Setting.extra ∉ Setting.variableNames.map (·.2) := by decide

/-- What variables give is a map of settings by name. -/
theorem gives_of_entries {given : Entries} (h : vars.entries = .ok given) :
    ∃ values, vars.Gives Setting.variableNames values ∧ given = Setting.named values := by
  rw [entries_eq] at h
  obtain ⟨parts, hparts, rfl⟩ := Error.ok_of_map h
  exact gives_of_mapM distinct_variableNames hparts

theorem Gives.distinct {values : OrderedMap Setting Value}
    (gives : vars.Gives Setting.variableNames values) : (OrderedMap.keys values).Nodup :=
  gives.keys.nodup distinct_variableNames

theorem Gives.extra_not_mem {values : OrderedMap Setting Value}
    (gives : vars.Gives Setting.variableNames values) : Setting.extra ∉ OrderedMap.keys values :=
  fun hmem => extra_not_mem_variableNames (gives.keys.subset hmem)

end Variables

/-! ### Files -/

/-- The tables of a file; none where there is no file that can be read. -/
def SettingsFile.tables (file : SettingsFile) : Except Error Entries :=
  match file with
  | .text content =>
    match Toml.read content with
    | .ok tables => .ok tables
    | .error .malformed => .ok []
    | .error (.tooLong digits) => .error (.refused (.numeralTooLong digits))
  | _ => .ok []

theorem SettingsFile.result_entries (file : SettingsFile) (name : String) :
    (file.entries (.text name)).outcome.1 =
      file.tables >>= fun tables =>
        (connectionEntries tables (.text name)).map fun entries => entries.getD [] := by
  cases file with
  | absent => rfl
  | unreadable => rfl
  | text content =>
    unfold SettingsFile.entries SettingsFile.tables? SettingsFile.tables
    dsimp only
    cases Toml.read content with
    | error failure => cases failure <;> rfl
    | ok tables =>
      rw [Error.ok_bind, pure_bind]
      dsimp only
      cases connectionEntries tables (.text name) with
      | error e => rfl
      | ok entries => cases entries <;> rfl

theorem SettingsFile.result_entries_text {content : String} {tables : Entries}
    (h : Toml.read content = .ok tables) (name : String) :
    ((SettingsFile.text content).entries (.text name)).outcome.1 =
      (connectionEntries tables (.text name)).map fun entries => entries.getD [] := by
  have htables : (SettingsFile.text content).tables = .ok tables := by
    simp only [SettingsFile.tables, h]
  rw [result_entries, htables, Error.ok_bind]

theorem Settings.result_load (file : SettingsFile) (vars : Variables) (name : Value) :
    (load file vars name).outcome.1 =
      (file.entries name).outcome.1 >>= fun entries =>
        vars.entries >>= fun given => ofEntries (OrderedMap.update entries given) :=
  Noted.result_bind_ofExcept _ _

end OracleCatalog
