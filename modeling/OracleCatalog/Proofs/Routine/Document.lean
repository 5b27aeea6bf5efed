import OracleCatalog.Proofs.OrderedMap
import OracleCatalog.Proofs.Success
import OracleCatalog.Routine.Document
import OracleCatalog.Row.Parameter

/-!
# Descriptions of routines, written and read

A routine whose parameters may all be declared is what its description is read as. The rows of the
argument query only make such routines.
-/

namespace OracleCatalog

/-! ### Writing and reading -/

theorem AbstractType.ofValue_name (type : AbstractType) :
    AbstractType.ofValue (.text type.name) = .ok type := by
  unfold AbstractType.ofValue
  dsimp only
  rw [AbstractType.ofName?_name]

theorem Parameter.check_ok {parameter : Parameter} (h : parameter.isSound = true) :
    parameter.check = .ok parameter := by
  unfold check
  rw [h]
  rfl

theorem Parameter.of_check {parameter checked : Parameter} (h : parameter.check = .ok checked) :
    checked = parameter ∧ parameter.isSound = true := by
  unfold check at h
  split at h
  · rename_i hsound
    cases h
    exact ⟨rfl, hsound⟩
  · cases h

/-- A parameter that may be declared is what its description is read as. -/
theorem Parameter.ofDocument_toDocument {parameter : Parameter} (h : parameter.isSound = true) :
    Parameter.ofDocument parameter.toDocument = .ok parameter := by
  have htype := AbstractType.ofValue_name parameter.type
  show (AbstractType.ofValue (.text parameter.type.name) >>= fun type =>
    Parameter.check { parameter with type }) = _
  rw [htype]
  exact check_ok h

/-- A routine whose parameters may all be declared. -/
def Routine.IsSound (routine : Routine) : Prop := ∀ p ∈ routine.parameters, p.isSound = true

/-- A routine is what its description is read as. -/
theorem Routine.ofDocument_toDocument {routine : Routine} (h : routine.IsSound) :
    Routine.ofDocument routine.toDocument = .ok routine := by
  have hread : (routine.parameters.map Parameter.toDocument).mapM Parameter.ofDocument =
      .ok routine.parameters :=
    Error.mapM_map_ok fun p hp => Parameter.ofDocument_toDocument (h p hp)
  show ((routine.parameters.map Parameter.toDocument).mapM Parameter.ofDocument >>=
    fun parameters => Except.ok ({ routine with parameters } : Routine)) = _
  rw [hread]
  rfl

theorem Routine.truthy_toDocument (routine : Routine) : routine.toDocument.truthy = true := rfl

/-! ### Rows make routines that may be declared -/

namespace RoutineBuilder

/-- The parameters that have been added may all be declared. -/
def IsSound (builder : RoutineBuilder) : Prop :=
  ∀ p ∈ OrderedMap.values builder.parameters, p.isSound = true

theorem isSound_addParameter {builder after : RoutineBuilder} {parameter : Parameter}
    (h : builder.IsSound) (hadd : builder.addParameter parameter = .ok after) : after.IsSound := by
  obtain ⟨checked, hcheck, hadd⟩ := Error.ok_of_bind hadd
  obtain ⟨name, _, hadd⟩ := Error.ok_of_bind hadd
  cases hadd
  obtain ⟨rfl, hsound⟩ := Parameter.of_check hcheck
  intro p hp
  rcases OrderedMap.mem_values_put hp with rfl | hp
  · exact hsound
  · exact h p hp

theorem isSound_addParameterRow {builder after : RoutineBuilder} {row : Row}
    {before written : List Record} (h : builder.IsSound)
    (hadd : (builder.addParameterRow row).Gives before after written) : after.IsSound := by
  unfold addParameterRow at hadd
  dsimp only at hadd
  cases hnull : (row.fieldOrNull "type").isNull with
  | true =>
    rw [hnull] at hadd
    exact Noted.gives_pure hadd ▸ h
  | false =>
    rw [hnull] at hadd
    obtain ⟨type, _, _, hadd⟩ := Noted.gives_bind hadd
    obtain ⟨_, _, _, hadd⟩ := Noted.gives_bind hadd
    obtain ⟨direction, _, hadd⟩ := Error.ok_of_bind (Noted.gives_ofExcept hadd)
    obtain ⟨position, _, hadd⟩ := Error.ok_of_bind hadd
    exact isSound_addParameter h hadd

theorem isSound_foldlM {rows : List Row} {builder after : RoutineBuilder}
    {before written : List Record} (h : builder.IsSound)
    (hfold : (rows.foldlM addParameterRow builder).Gives before after written) :
    after.IsSound := by
  induction rows generalizing builder before with
  | nil => exact Noted.gives_pure hfold ▸ h
  | cons row rest ih =>
    obtain ⟨middle, _, hrow, hrest⟩ := Noted.gives_bind hfold
    exact ih (isSound_addParameterRow h hrow) hrest

end RoutineBuilder

end OracleCatalog
