import Mathlib
import OracleCatalog.Proofs.Settings.Connections

/-!
# Configurations that are refused

Loading checks the case option and the port, and a setting that fails its check is refused. Values
of a wrong kind are not checked for: a connection that is no map, a port that is a list and a table
that is no table end in other failures, and a port that is a fraction or a truth value is taken. The
main result says exactly when loading answers with sound settings or refuses.
-/

namespace OracleCatalog

/-! ### Ports -/

namespace Value

/-- A port as settings should have it: null or a whole number in range. -/
def IsPort : Value → Prop
  | .null => True
  | .int i => 1 ≤ i ∧ i ≤ 65535
  | _ => False

def Number.isInPortRange (n : Number) : Bool :=
  Number.atMost (.finite 1 1 0) n && n.atMost (.finite 65535 1 0)

/-- A port comes of the value, or the value is refused: what is neither null, whole nor a text has
to be a number out of range. -/
def SettlesAsPort : Value → Prop
  | .null | .int _ | .text _ => True
  | .decimal (.nan ..) => False
  | v => ∃ n, v.number? = some n ∧ n.isInPortRange = false

theorem magnitudeOrder_whole (a b : Nat) : magnitudeOrder a 0 b 0 = compare a b := by
  simp [magnitudeOrder, scaledOrder_eq]

theorem order_whole (i j : Int) :
    Number.order (.finite i 1 0) (.finite j 1 0) = some (compare i j) := by
  unfold Number.order
  simp only [Nat.mul_one, magnitudeOrder_whole, Option.some.injEq]
  simp only [compare, compareOfLessAndEq]
  split <;> split <;> grind [Ordering.swap]

theorem isInPortRange_whole (i : Int) :
    Number.isInPortRange (.finite i 1 0) = true ↔ 1 ≤ i ∧ i ≤ 65535 := by
  simp [Number.isInPortRange, Number.atMost, order_whole, Int.isLE_compare]

end Value

theorem checkPort_of_number {v : Value} {n : Value.Number} (hnull : v.isNull = false)
    (hnan : ∀ negative signaling payload, v ≠ .decimal (.nan negative signaling payload))
    (hnumber : v.number? = some n) :
    checkPort v = if n.isInPortRange then .ok () else .error (.refused .portRange) := by
  unfold checkPort
  rw [hnull, hnumber]
  simp only [Bool.false_eq_true, ↓reduceIte]
  rfl

theorem answersOrRefuses_checkPort_int (i : Int) :
    AnswersOrRefuses (checkPort (.int i)) fun _ => Value.IsPort (.int i) := by
  have hcheck : checkPort (.int i) =
      if Value.Number.isInPortRange (.finite i 1 0) then .ok () else .error (.refused .portRange) :=
    rfl
  rw [hcheck]
  split
  · rename_i hrange
    exact (Value.isInPortRange_whole i).1 hrange
  · trivial

theorem answersOrRefuses_checkPort_of_number {v : Value} {n : Value.Number}
    (hnull : v.isNull = false)
    (hnan : ∀ negative signaling payload, v ≠ .decimal (.nan negative signaling payload))
    (hnumber : v.number? = some n) :
    (AnswersOrRefuses (checkPort v) fun _ => False) ↔
      ∃ n, v.number? = some n ∧ n.isInPortRange = false := by
  rw [checkPort_of_number hnull hnan hnumber, hnumber]
  cases hrange : n.isInPortRange <;> simp [hrange]

theorem answersOrRefuses_whole (s : String) :
    AnswersOrRefuses (Value.text s).whole fun _ => True := by
  unfold Value.whole Value.wholeOfText
  dsimp only
  split <;> trivial

theorem answersOrRefuses_readPort (v : Value) :
    AnswersOrRefuses (Settings.readPort v) fun _ => True := by
  unfold Settings.readPort
  split
  · rename_i s
    split
    · trivial
    · exact answersOrRefuses_map.2 (answersOrRefuses_whole s)
  · trivial

theorem whole_of_readPort {s : String} {port : Value} (h : Settings.readPort (.text s) = .ok port) :
    ∃ i, port = .int i := by
  unfold Settings.readPort at h
  dsimp only at h
  split at h
  · cases h
  · obtain ⟨i, -, rfl⟩ := Error.ok_of_map h
    exact ⟨i, rfl⟩

/-- What is read as a port and checked is in order or refused exactly where it settles the port. -/
theorem answersOrRefuses_port (v : Value) :
    (AnswersOrRefuses (Settings.readPort v) fun port =>
      AnswersOrRefuses (checkPort port) fun _ => port.IsPort) ↔ v.SettlesAsPort := by
  -- Truth values and numbers of other kinds go through the range check, where those in range pass.
  cases v with
  | null => exact Iff.rfl
  | int i => exact ⟨fun _ => trivial, fun _ => answersOrRefuses_checkPort_int i⟩
  | text s =>
    refine ⟨fun _ => trivial, fun _ => ?_⟩
    rw [answersOrRefuses_iff]
    refine ⟨answersOrRefuses_readPort (.text s), fun port hport => ?_⟩
    obtain ⟨i, rfl⟩ := whole_of_readPort hport
    exact answersOrRefuses_checkPort_int i
  | bool b => exact answersOrRefuses_checkPort_of_number rfl nofun rfl
  | float x =>
    have hnumber : ∃ n, (Value.float x).number? = some n := by
      unfold Value.number?
      dsimp only
      split <;> exact ⟨_, rfl⟩
    obtain ⟨n, hn⟩ := hnumber
    exact answersOrRefuses_checkPort_of_number rfl nofun hn
  | decimal d =>
    cases d with
    | nan => exact Iff.rfl
    | _ => exact answersOrRefuses_checkPort_of_number rfl nofun rfl
  | _ => exact ⟨False.elim, nofun⟩

/-! ### Settings of a map -/

/-- What settings should be: the case option is unset or `lower`, and the port is a port. -/
structure Settings.IsSound (settings : Settings) : Prop where
  case : settings.folding.toValue = .null ∨ settings.folding.toValue = .text "lower"
  port : settings.port.IsPort

def Value.IsCaseOption (v : Value) : Prop := v = .null ∨ v = .text "lower"

theorem CaseFolding.toValue_isCaseOption (folding : CaseFolding) :
    folding.toValue.IsCaseOption := by
  cases folding with
  | asIs => exact .inl rfl
  | lower => exact .inr rfl

theorem answersOrRefuses_ofValue {option : Value} {good : Prop} :
    (AnswersOrRefuses (CaseFolding.ofValue option) fun _ => good) ↔
      (option.IsCaseOption → good) := by
  unfold CaseFolding.ofValue Value.IsCaseOption
  split
  · simp
  · simp
  · rename_i hnull hlower
    exact ⟨fun _ h => (h.elim hnull hlower).elim, fun _ => trivial⟩

/-- The extra settings of a map; what counts as false counts as none. -/
def Value.extraOf (entries : Entries) : Value :=
  (fieldOrNull "extra" entries).orElse (.map [])

namespace Settings

/-- Values make sound settings or are refused where this is so of the port; of a bad case option the
port does not matter any more. -/
theorem answersOrRefuses_ofValues (values : OrderedMap Setting Value) :
    AnswersOrRefuses (ofValues values) IsSound ↔
      (((OrderedMap.get? .case values).getD .null).IsCaseOption →
        AnswersOrRefuses (checkPort ((OrderedMap.get? .port values).getD .null)) fun _ =>
          ((OrderedMap.get? .port values).getD .null).IsPort) := by
  rw [← answersOrRefuses_ofValue]
  unfold ofValues
  rw [answersOrRefuses_bind]
  apply answersOrRefuses_congr
  intro folding
  rw [answersOrRefuses_bind]
  apply answersOrRefuses_congr
  intro _
  exact ⟨IsSound.port, fun hport => ⟨CaseFolding.toValue_isCaseOption folding, hport⟩⟩

/-- The entries settle the settings: the extra ones can be read or are refused, and if they are read
and the case option is one, a port that is given becomes a port or is refused. -/
structure Settles (entries : Entries) : Prop where
  extra : (Value.extraOf entries).Mappable
  port : ∀ given, (Value.extraOf entries).toEntries = .ok given →
    ((Setting.case.last? entries).getD .null).IsCaseOption →
    ∀ port, Setting.port.last? entries = some port → port.SettlesAsPort

theorem answersOrRefuses_collected (collected : Collected) :
    (AnswersOrRefuses collected.read fun values =>
      AnswersOrRefuses (ofValues (values.put .extra collected.extraValue)) IsSound) ↔
      (((OrderedMap.get? .case collected.values).getD .null).IsCaseOption →
        ∀ port, OrderedMap.get? .port collected.values = some port → port.SettlesAsPort) := by
  unfold Collected.read
  cases hport : OrderedMap.get? Setting.port collected.values with
  | none =>
    simp [answersOrRefuses_ofValues, OrderedMap.get?_put_of_ne, hport, checkPort, Value.isNull,
      Value.IsPort]
  | some port =>
    have hread := answersOrRefuses_readPort port
    simp [answersOrRefuses_map, answersOrRefuses_ofValues, OrderedMap.get?_put_of_ne,
      ← answersOrRefuses_port, answersOrRefuses_imp hread]

/-- Entries make sound settings or are refused exactly where they settle the settings. -/
theorem answersOrRefuses_ofEntries (entries : Entries) :
    AnswersOrRefuses (ofEntries entries) IsSound ↔ Settles entries := by
  have hlast (setting : Setting) (hne : setting ≠ .extra) (given : Entries) :
      OrderedMap.get? setting (entries.foldl Collected.add { extra := given }).values =
        setting.last? entries := by
    rw [get?_values_collected hne]
    exact Option.or_none
  rw [ofEntries_eq, answersOrRefuses_bind, answersOrRefuses_iff, Value.answersOrRefuses_toEntries]
  simp only [answersOrRefuses_bind, answersOrRefuses_collected, hlast .case nofun,
    hlast .port nofun]
  exact ⟨fun h => ⟨h.1, h.2⟩, fun h => ⟨h.extra, h.port⟩⟩

end Settings

/-! ### Variables -/

namespace Variables

variable {vars : Variables}

theorem answersOrRefuses_ofVariable (setting : Setting) (s : String) :
    AnswersOrRefuses (setting.ofVariable s) fun _ => True := by
  cases setting with
  | port =>
    unfold Setting.ofVariable
    dsimp only
    split
    · exact answersOrRefuses_map.2 (answersOrRefuses_whole s)
    · trivial
  | _ => trivial

theorem answersOrRefuses_entries (vars : Variables) :
    AnswersOrRefuses vars.entries fun _ => True := by
  rw [entries_eq, answersOrRefuses_map]
  apply answersOrRefuses_mapM
  intro named _
  unfold entry?
  split
  · exact answersOrRefuses_map.2 (answersOrRefuses_ofVariable _ _)
  · trivial

theorem settlesAsPort_of_ofVariable {s : String} {v : Value}
    (h : Setting.port.ofVariable s = .ok v) : v.SettlesAsPort := by
  unfold Setting.ofVariable at h
  dsimp only at h
  split at h
  · obtain ⟨i, -, rfl⟩ := Error.ok_of_map h
    trivial
  · cases h
    trivial

theorem settles_given {given : Entries} (h : vars.entries = .ok given) :
    Settings.Settles (OrderedMap.update [] given) := by
  obtain ⟨values, gives, rfl⟩ := gives_of_entries h
  have hextra : Value.extraOf (OrderedMap.update [] (Setting.named values)) = .map [] := by
    have hget := Setting.get?_update_named gives.extra_not_mem []
    unfold Setting.name at hget
    unfold Value.extraOf Value.fieldOrNull
    rw [hget]
    rfl
  refine ⟨hextra ▸ trivial, fun _ _ _ port hport => ?_⟩
  rw [Setting.last?_update gives.distinct] at hport
  cases hvalue : OrderedMap.get? Setting.port values with
  | none =>
    rw [hvalue] at hport
    cases hport
  | some v =>
    rw [hvalue] at hport
    cases hport
    obtain ⟨s, hs⟩ := gives.ofGiven .port port hvalue
    exact settlesAsPort_of_ofVariable hs

end Variables

/-! ### Loading -/

namespace Settings

/-- The tables of a file have one of the library, what that has for the connection can be read as a
map or is refused, and with the variables written over it the settings are settled. -/
def LoadsFrom (tables : Entries) (vars : Variables) (name : String) : Prop :=
  ∃ own, ownTable? tables = some own ∧
    ∀ v, connection? own name = some v →
      v.Mappable ∧ ∀ entries, v.toEntries = .ok entries → ∀ given, vars.entries = .ok given →
        Settles (OrderedMap.update entries given)

theorem answersOrRefuses_merged (entries : Entries) (vars : Variables) :
    (AnswersOrRefuses vars.entries fun given =>
      AnswersOrRefuses (ofEntries (OrderedMap.update entries given)) IsSound) ↔
      ∀ given, vars.entries = .ok given → Settles (OrderedMap.update entries given) := by
  rw [answersOrRefuses_iff, and_iff_right vars.answersOrRefuses_entries]
  simp only [answersOrRefuses_ofEntries]

theorem answersOrRefuses_load (file : SettingsFile) (vars : Variables) (name : String) :
    AnswersOrRefuses (load file vars (.text name)).outcome.1 IsSound ↔
      AnswersOrRefuses file.tables fun tables => LoadsFrom tables vars name := by
  rw [result_load, SettingsFile.result_entries, answersOrRefuses_bind, answersOrRefuses_bind]
  apply answersOrRefuses_congr
  intro tables
  simp only [answersOrRefuses_map, answersOrRefuses_connectionEntries, answersOrRefuses_bind,
    answersOrRefuses_merged]
  apply exists_congr
  intro own
  apply and_congr_right
  intro _
  cases connection? own name with
  | some v => simp only [Option.getD_some, Option.some.injEq, forall_eq']
  | none => exact ⟨fun _ => nofun, fun _ _ => Variables.settles_given⟩

theorem loadsFrom_nil (vars : Variables) (name : String) : LoadsFrom [] vars name :=
  ⟨[], rfl, nofun⟩

theorem read_port_zero :
    Toml.read "[tool.oradialect.connection]\nport = 0\n" =
      .ok (connectionTables (.map [(.text "port", .int 0)])) := by
  cbv

theorem read_connection_number :
    Toml.read "[tool.oradialect]\nconnection = 1\n" =
      .ok (connectionTables (.int 1)) := by
  cbv

end Settings

end OracleCatalog
