import OracleCatalog.Proofs.Settings.Loading
import OracleCatalog.Proofs.Value.Keys

/-!
# Settings that are kept

No entry of a map that settings are read from is lost, and none counts for something that it does
not name: it is what its setting holds, or it stands among the extra settings. Settings written as
a map are read back.
-/

namespace OracleCatalog

/-! ### What entries say -/

namespace Setting

/-- The value that a setting takes from a given one: the integer that it writes for a port given as
digits, else the given one. -/
def Takes (setting : Setting) (given taken : Value) : Prop :=
  match setting, given with
  | .port, .text s =>
    Text.allDigits s = true ∧ ∃ i, Text.readInteger s = .integer i ∧ taken = .int i
  | _, _ => taken = given

theorem takes_of_read {setting : Setting} {given taken : Value}
    (h : setting.read given = .ok taken) : setting.Takes given taken := by
  cases setting with
  | port =>
    cases given with
    | text s =>
      unfold read Settings.readPort at h
      dsimp only at h
      split at h
      · cases h
      · rename_i hdigits
        obtain ⟨i, hi, rfl⟩ := Error.ok_of_map h
        unfold Value.whole Value.wholeOfText at hi
        cases hread : Text.readInteger s with
        | integer j =>
          simp only [hread, Except.ok.injEq] at hi
          subst hi
          exact ⟨by simpa using hdigits, j, hread, rfl⟩
        | malformed =>
          simp only [hread] at hi
          cases hi
        | tooLong digits =>
          simp only [hread] at hi
          cases hi
    | _ => exact (Except.ok.inj h).symm
  | _ => exact (Except.ok.inj h).symm

/-- The entries that name no setting. -/
def others (entries : Entries) : Entries := entries.filter fun entry => (ofKey? entry.1).isNone

theorem last?_named {values : OrderedMap Setting Value} (distinct : (OrderedMap.keys values).Nodup)
    (setting : Setting) : setting.last? (named values) = OrderedMap.get? setting values := by
  induction values with
  | nil => rfl
  | cons entry rest ih =>
    obtain ⟨other, v⟩ := entry
    obtain ⟨hnot, hrest⟩ := List.nodup_cons.1 distinct
    have hstep : named ((other, v) :: rest) = (.text other.name, v) :: named rest := rfl
    rw [hstep, last?_cons, ih hrest, ofKey?_name, OrderedMap.get?]
    by_cases heq : setting = other
    · subst heq
      simp [OrderedMap.get?_eq_none hnot]
    · have hne : ¬(setting == other) = true := fun h => heq (eq_of_beq h)
      simp [hne, Ne.symm heq]

theorem others_named (values : OrderedMap Setting Value) : others (named values) = [] := by
  unfold others named
  refine List.filter_eq_nil_iff.2 fun entry hentry => ?_
  obtain ⟨given, -, rfl⟩ := List.mem_map.1 hentry
  simp [ofKey?_name]

end Setting

namespace Settings

theorem Collected.extra_add (collected : Collected) (entry : Value × Value) :
    (collected.add entry).extra =
      if (Setting.ofKey? entry.1).isNone then collected.extra.put entry.1 entry.2
      else collected.extra := by
  unfold Collected.add
  by_cases hextra : entry.1.isText "extra" = true
  · simp [hextra, Setting.isText_extra_of_ofKey? hextra]
  · simp only [hextra, Bool.false_eq_true, ↓reduceIte]
    cases Setting.ofKey? entry.1 <;> rfl

/-- Everything that names no setting is written over the given extra settings. -/
theorem extra_collected (entries : Entries) (collected : Collected) :
    (entries.foldl Collected.add collected).extra =
      OrderedMap.update collected.extra (Setting.others entries) := by
  induction entries generalizing collected with
  | nil => rfl
  | cons entry rest ih =>
    rw [List.foldl_cons, ih, Collected.extra_add]
    unfold Setting.others
    rw [List.filter_cons]
    split <;> rfl

variable {setting : Setting} {values : OrderedMap Setting Value} {settings : Settings}

theorem get?_toValues_of_none (h : ofValues values = .ok settings)
    (hnone : OrderedMap.get? setting values = none) :
    OrderedMap.get? setting settings.toValues =
      OrderedMap.get? setting ({} : Settings).toValues := by
  obtain ⟨folding, hfolding, h⟩ := Error.ok_of_bind h
  obtain ⟨_, -, h⟩ := Error.ok_of_bind h
  cases h
  have hcase := CaseFolding.toValue_of_ofValue hfolding
  cases setting <;> simp_all [toValues, OrderedMap.get?]
  rfl

theorem extra_of_ofValues {extra : Value} (h : ofValues (values.put .extra extra) = .ok settings) :
    settings.extra = extra := by
  have hget := get?_toValues_of_ofValues h (OrderedMap.get?_put_self .extra extra values)
  exact Option.some.inj hget

theorem checkPort_of_ofValues (h : ofValues values = .ok settings) :
    checkPort settings.port = .ok () := by
  obtain ⟨folding, -, h⟩ := Error.ok_of_bind h
  obtain ⟨_, hport, h⟩ := Error.ok_of_bind h
  cases h
  exact hport

theorem ofValues_congr {others : OrderedMap Setting Value}
    (h : ∀ setting, OrderedMap.get? setting values = OrderedMap.get? setting others) :
    ofValues values = ofValues others := by
  unfold ofValues
  simp only [h]

theorem ofValues_toValues (hport : checkPort settings.port = .ok ()) :
    ofValues settings.toValues = .ok settings := by
  have hfolding : CaseFolding.ofValue settings.folding.toValue = .ok settings.folding := by
    cases settings.folding <;> rfl
  have hcase : (OrderedMap.get? .case settings.toValues).getD .null =
      settings.folding.toValue := rfl
  have hgiven : (OrderedMap.get? .port settings.toValues).getD .null = settings.port := rfl
  unfold ofValues
  dsimp only
  rw [hcase, hfolding, hgiven, hport]
  rfl

/-! ### Reading back -/

theorem readPort_of_checkPort {port : Value} (h : checkPort port = .ok ()) :
    readPort port = .ok port := by
  cases port with
  | text s => cases h
  | _ => rfl

/-- The extra settings that a map gives: none, or those of a map. -/
def GivesExtra (entries given : Entries) : Prop :=
  Value.fieldOrNull "extra" entries = .null ∧ given = [] ∨
    Value.fieldOrNull "extra" entries = .map given

theorem GivesExtra.toEntries_eq {entries given : Entries} (h : GivesExtra entries given) :
    ((Value.fieldOrNull "extra" entries).orElse (.map [])).toEntries = .ok given := by
  obtain ⟨hnull, rfl⟩ | hmap := h
  · rw [hnull]
    rfl
  · rw [hmap]
    cases given <;> rfl

theorem nodup_keys_toValues (settings : Settings) :
    (OrderedMap.keys settings.toValues).Nodup := by
  have hkeys : OrderedMap.keys settings.toValues = Setting.all := rfl
  rw [hkeys]
  decide

theorem get?_collected_named (h : setting ≠ .extra) (given : Entries) :
    OrderedMap.get? setting
        ((Setting.named settings.toValues).foldl Collected.add { extra := given }).values =
      OrderedMap.get? setting settings.toValues := by
  rw [get?_values_collected h, Setting.last?_named (nodup_keys_toValues settings)]
  exact Option.or_none

/-- Settings whose port has been checked are read back from their own map. -/
theorem ofEntries_named (hport : checkPort settings.port = .ok ()) {given : Entries}
    (hextra : settings.extra = .null ∧ given = [] ∨ given ≠ [] ∧ settings.extra = .map given) :
    ofEntries (Setting.named settings.toValues) = .ok settings := by
  have hfield : Value.fieldOrNull "extra" (Setting.named settings.toValues) = settings.extra := rfl
  have hgiven : GivesExtra (Setting.named settings.toValues) given := by
    unfold GivesExtra
    rw [hfield]
    exact hextra.imp id And.right
  rw [ofEntries_eq, hgiven.toEntries_eq, Error.ok_bind]
  let collected := (Setting.named settings.toValues).foldl Collected.add { extra := given }
  have hvalues : ∀ setting ≠ .extra, OrderedMap.get? setting collected.values =
      OrderedMap.get? setting settings.toValues := fun setting h => get?_collected_named h given
  have hread : collected.read = .ok (collected.values.put .port settings.port) := by
    have hget : OrderedMap.get? .port collected.values = some settings.port :=
      hvalues .port (by decide)
    unfold Collected.read
    rw [hget]
    dsimp only
    rw [readPort_of_checkPort hport]
    rfl
  have hextraValue : collected.extraValue = settings.extra := by
    have hkept : collected.extra = given := by
      rw [extra_collected, Setting.others_named]
      rfl
    unfold Collected.extraValue
    rw [hkept]
    obtain ⟨hnull, rfl⟩ | ⟨hne, hmap⟩ := hextra
    · exact hnull.symm
    · rw [hmap, if_neg (by simpa using hne)]
  have hcollected : ∀ setting, OrderedMap.get? setting
      ((collected.values.put .port settings.port).put .extra settings.extra) =
        OrderedMap.get? setting settings.toValues := by
    intro setting
    by_cases hsetting : setting = .extra
    · subst hsetting
      exact OrderedMap.get?_put_self _ _ _
    · rw [OrderedMap.get?_put_of_ne hsetting]
      by_cases hport : setting = .port
      · subst hport
        exact OrderedMap.get?_put_self _ _ _
      · rw [OrderedMap.get?_put_of_ne hport, hvalues setting hsetting]
  change (collected.read >>= fun values => ofValues (values.put .extra collected.extraValue)) = _
  rw [hread, Error.ok_bind, hextraValue, ofValues_congr hcollected, ofValues_toValues hport]

/-- What settings have been read from: their port has been checked, and their extra settings are
null or a map that is not empty. -/
theorem sound_of_ofEntries {entries : Entries} (h : ofEntries entries = .ok settings) :
    checkPort settings.port = .ok () ∧
      (settings.extra = .null ∨ ∃ es, es ≠ [] ∧ settings.extra = .map es) := by
  rw [ofEntries_eq] at h
  obtain ⟨given, -, h⟩ := Error.ok_of_bind h
  obtain ⟨values, -, h⟩ := Error.ok_of_bind h
  refine ⟨checkPort_of_ofValues h, ?_⟩
  rw [extra_of_ofValues h]
  unfold Collected.extraValue
  split
  · exact .inl rfl
  · rename_i hne
    exact .inr ⟨_, by simpa using hne, rfl⟩

theorem ofValue_toDocument_iff (settings : Settings) :
    ofValue settings.toDocument = .ok settings ↔
      checkPort settings.port = .ok () ∧
        (settings.extra = .null ∨ ∃ es, es ≠ [] ∧ settings.extra = .map es) := by
  have hdocument : ofValue settings.toDocument = ofEntries (Setting.named settings.toValues) := rfl
  rw [hdocument]
  refine ⟨sound_of_ofEntries, fun ⟨hport, hextra⟩ => ?_⟩
  obtain hnull | ⟨es, hne, hmap⟩ := hextra
  · exact ofEntries_named hport (.inl ⟨hnull, rfl⟩)
  · exact ofEntries_named hport (.inr ⟨hne, hmap⟩)

/-! ### Nothing lost -/

/-- What is read from a map that gives extra settings, before it is checked. -/
theorem exists_values_of_ofEntries {entries given : Entries} (hgiven : GivesExtra entries given)
    (h : ofEntries entries = .ok settings) :
    ∃ values, (entries.foldl Collected.add { extra := given }).read = .ok values ∧
      ofValues (values.put .extra
        (entries.foldl Collected.add { extra := given }).extraValue) = .ok settings := by
  rw [ofEntries_eq, hgiven.toEntries_eq, Error.ok_bind] at h
  exact Error.ok_of_bind h

theorem get?_read_of_none {collected : Collected} (hread : collected.read = .ok values)
    (hnone : OrderedMap.get? setting collected.values = none) :
    OrderedMap.get? setting values = none := by
  unfold Collected.read at hread
  cases hport : OrderedMap.get? Setting.port collected.values with
  | none =>
    rw [hport] at hread
    cases hread
    exact hnone
  | some port =>
    rw [hport] at hread
    obtain ⟨taken, -, rfl⟩ := Error.ok_of_map hread
    have hne : setting ≠ .port := by
      rintro rfl
      rw [hport] at hnone
      cases hnone
    rw [OrderedMap.get?_put_of_ne hne, hnone]

/-- A setting that no entry names has its default. -/
theorem default_of_ofEntries (hne : setting ≠ .extra) {entries given : Entries}
    (hgiven : GivesExtra entries given) (h : ofEntries entries = .ok settings)
    (hlast : setting.last? entries = none) :
    OrderedMap.get? setting settings.toValues =
      OrderedMap.get? setting ({} : Settings).toValues := by
  obtain ⟨values, hread, h⟩ := exists_values_of_ofEntries hgiven h
  have hcollected := get?_values_collected hne entries { extra := given }
  rw [hlast] at hcollected
  refine get?_toValues_of_none h ?_
  rw [OrderedMap.get?_put_of_ne hne]
  exact get?_read_of_none hread hcollected

theorem extra_of_ofEntries {entries given : Entries} (hgiven : GivesExtra entries given)
    (h : ofEntries entries = .ok settings) :
    settings.extra =
      if (OrderedMap.update given (Setting.others entries)).isEmpty then .null
      else .map (OrderedMap.update given (Setting.others entries)) := by
  obtain ⟨values, -, h⟩ := exists_values_of_ofEntries hgiven h
  rw [extra_of_ofValues h]
  unfold Collected.extraValue
  rw [extra_collected]

/-- Settings are read back from a map of their own exactly when their port has been checked and
their extra settings are no empty map. Of any other map that they are read from, each setting has
what the last entry that names it says, or its default, and the extra settings have what the last
entry of a key that names none says, or what they were given. -/
theorem entries_kept :
    (∀ settings : Settings, ofValue settings.toDocument = .ok settings ↔
      checkPort settings.port = .ok () ∧
        (settings.extra = .null ∨ ∃ es, es ≠ [] ∧ settings.extra = .map es)) ∧
    ∀ (entries given : Entries) (settings : Settings),
      OrderedMap.KeysIn Value.IsKey entries → OrderedMap.KeysIn Value.IsKey given →
      GivesExtra entries given → ofEntries entries = .ok settings →
        (∀ setting : Setting, setting ≠ .extra →
          match setting.last? entries with
          | some v => ∃ taken, setting.Takes v taken ∧
              OrderedMap.get? setting settings.toValues = some taken
          | none => OrderedMap.get? setting settings.toValues =
              OrderedMap.get? setting ({} : Settings).toValues) ∧
        ∃ extra : Entries, settings.extra = (if extra.isEmpty then .null else .map extra) ∧
          ∀ key, Value.IsKey key → OrderedMap.get? key extra =
            (OrderedMap.last? key (Setting.others entries)).or (OrderedMap.get? key given) := by
  refine ⟨ofValue_toDocument_iff, fun entries given settings hkeys hgivenKeys hgiven h => ⟨?_, ?_⟩⟩
  · intro setting hne
    cases hlast : setting.last? entries with
    | none => exact default_of_ofEntries hne hgiven h hlast
    | some v =>
      obtain ⟨taken, hread, hget⟩ := read_of_ofEntries hne h hlast
      exact ⟨taken, Setting.takes_of_read hread, hget⟩
  · refine ⟨_, extra_of_ofEntries hgiven h, fun key hkey => ?_⟩
    have hothers : OrderedMap.KeysIn Value.IsKey (Setting.others entries) := by
      intro k hk
      exact hkeys k (((List.filter_sublist).map _).subset hk)
    exact OrderedMap.get?_update_of_coherent Value.coherentOn_isKey hgivenKeys hothers hkey

/-- Entries in second spellings, beside one that names nothing and that the given extra settings
have as well. -/
def spelledEntries : Entries := [(.text "objectName", .text "PKG.F"), (.text "port", .text "1521"),
  (.text "app", .text "x"), (.text "extra", .map [(.text "app", .text "y"), (.int 1, .null)])]

def spelledSettings : Settings :=
  { objectName := .text "PKG.F", port := .int 1521
    extra := .map [(.text "app", .text "x"), (.int 1, .null)] }

theorem spelledEntries_giveExtra :
    GivesExtra spelledEntries [(.text "app", .text "y"), (.int 1, .null)] := .inr rfl

theorem ofEntries_spelledEntries : ofEntries spelledEntries = .ok spelledSettings := by
  have hcollected : spelledEntries.foldl Collected.add
      { extra := [(.text "app", .text "y"), (.int 1, .null)] } =
        { values := [(.objectName, .text "PKG.F"), (.port, .text "1521")]
          extra := [(.text "app", .text "x"), (.int 1, .null)] } := rfl
  have hdigits : Text.allDigits "1521" = true := by decide +kernel
  have hnumeral : Text.readInteger "1521" = .integer 1521 := by decide +kernel
  have hport : readPort (.text "1521") = .ok (.int 1521) := by
    simp [readPort, hdigits, Value.whole, Value.wholeOfText, hnumeral, Except.map]
  have hread : Collected.read
      { values := [(.objectName, .text "PKG.F"), (.port, .text "1521")]
        extra := [(.text "app", .text "x"), (.int 1, .null)] } =
        .ok [(.objectName, .text "PKG.F"), (.port, .int 1521)] := by
    simp [Collected.read, OrderedMap.get?, hport, Except.map, OrderedMap.put]
  rw [ofEntries_eq, spelledEntries_giveExtra.toEntries_eq, Error.ok_bind, hcollected, hread]
  rfl

theorem spelledEntries_kept :
    ofValue spelledSettings.toDocument = .ok spelledSettings ∧
      OrderedMap.get? .user spelledSettings.toValues = some .null ∧
      ∃ extra : Entries, spelledSettings.extra = (if extra.isEmpty then .null else .map extra) ∧
        OrderedMap.get? (.text "app") extra = some (.text "x") ∧
        OrderedMap.get? (.bool true) extra = some .null := by
  have hkeys : OrderedMap.KeysIn Value.IsKey spelledEntries := by
    simp [OrderedMap.KeysIn, OrderedMap.keys, spelledEntries, Value.IsKey, Value.isKey]
  have hgivenKeys : OrderedMap.KeysIn Value.IsKey
      [(.text "app", Value.text "y"), (.int 1, .null)] := by
    simp [OrderedMap.KeysIn, OrderedMap.keys, Value.IsKey, Value.isKey]
  have hkept := entries_kept.2 spelledEntries _ spelledSettings hkeys hgivenKeys
    spelledEntries_giveExtra ofEntries_spelledEntries
  obtain ⟨hsettings, extra, hextra, hfound⟩ := hkept
  refine ⟨(entries_kept.1 spelledSettings).2 ⟨rfl, .inr ⟨_, by simp, rfl⟩⟩,
    hsettings .user (by decide), extra, hextra, ?_, ?_⟩
  · exact hfound (.text "app") rfl
  · exact hfound (.bool true) rfl

end Settings

end OracleCatalog
