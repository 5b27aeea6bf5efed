import OracleCatalog.Proofs.Name
import OracleCatalog.Proofs.Routine.Document

/-!
# Arguments of the rows

Rows of arguments and of the value of a function are always folded. The arguments of the routine are
those of the rows, in their order, and the value of a function is kept apart from them, wherever its
row stands.
-/

namespace OracleCatalog

open OracleCatalog.OrderedMap (KeysIn NamedBy keys)

/-- A number of the catalog: an integer, or null where there is none. -/
def Value.IsCount (v : Value) : Prop := v = .null ∨ ∃ i, v = .int i

theorem Value.IsCount.eq_ofInt? {v : Value} (h : v.IsCount) : ∃ n, v = ofInt? n := by
  rcases h with rfl | ⟨i, rfl⟩
  · exact ⟨none, rfl⟩
  · exact ⟨some i, rfl⟩

theorem Value.IsCount.catalogInteger {v : Value} (h : v.IsCount) :
    ∃ number, v.catalogInteger = .ok number := by
  rcases h with rfl | ⟨i, rfl⟩
  · exact ⟨none, rfl⟩
  · exact ⟨some i, rfl⟩

/-! ### Rows -/

namespace Row

/-- A row for the value of a function: an output without a name. -/
def IsResult (row : Row) : Prop :=
  row.fieldOrNull "name" = .null ∧
    ∃ direction, Direction.ofValue (row.fieldOrNull "direction") = .ok direction ∧
      direction.isOut = true

/-- A row of the argument query for an argument or for the value of a function. -/
structure IsArgumentRow (row : Row) : Prop where
  type : (row.fieldOrNull "type").IsText
  length : (row.fieldOrNull "data_length").IsCount
  precision : (row.fieldOrNull "data_precision").IsCount
  scale : (row.fieldOrNull "data_scale").IsCount
  position : (row.fieldOrNull "ordinal_position").IsCount
  direction : row.fieldOrNull "direction" = .null ∨ (row.fieldOrNull "direction").IsText
  named : (row.fieldOrNull "name").IsText ∨ row.IsResult

/-- The name of the argument; the value of a function has none. -/
def argumentName? (row : Row) : Option String :=
  match row.fieldOrNull "name" with
  | .text name => some name
  | _ => none

def parameterName (row : Row) : String := row.argumentName?.getD resultName

end Row

theorem Direction.ofValue_ok {v : Value} (h : v = .null ∨ v.IsText) :
    ∃ direction, Direction.ofValue v = .ok direction := by
  rcases h with rfl | ⟨s, rfl⟩
  · exact ⟨_, rfl⟩
  · unfold Direction.ofValue Value.orElse
    split <;> exact ⟨_, rfl⟩

theorem CatalogType.ofFields_ok {name length precision scale : Value} (hname : name.IsText)
    (hlength : length.IsCount) (hprecision : precision.IsCount) (hscale : scale.IsCount)
    (cursors : Bool) : ∃ type, ofFields name length precision scale cursors = .ok type := by
  obtain ⟨s, rfl⟩ := hname
  obtain ⟨l, hl⟩ := hlength.catalogInteger
  obtain ⟨p, hp⟩ := hprecision.catalogInteger
  obtain ⟨q, hq⟩ := hscale.catalogInteger
  have hupper : (Value.text s).toUpper = .ok (.text (Text.upper s)) := rfl
  unfold ofFields
  rw [hupper, Error.ok_bind, hl, Error.ok_bind, hp, Error.ok_bind, hq]
  exact ⟨_, rfl⟩

theorem noteUnknownType_gives (type : CatalogType) (owner name : Value) (before : List Record) :
    ∃ written, (noteUnknownType type owner name).Gives before () written := by
  unfold noteUnknownType
  split
  · exact ⟨_, rfl⟩
  · exact ⟨_, rfl⟩

namespace RoutineBuilder

variable {builder : RoutineBuilder} {row : Row}

theorem addParameter_ok {parameter : Parameter} (sound : parameter.isSound = true)
    (hname : parameter.name.IsText) : builder.addParameter parameter =
      .ok { builder with parameters := builder.parameters.put parameter.name parameter } := by
  obtain ⟨s, hs⟩ := hname
  unfold addParameter
  rw [Parameter.check_ok sound, Error.ok_bind, hs]
  rfl

theorem parameterOfRow_sound (argument : row.IsArgumentRow)
    (hname : row.argumentName? ≠ some resultName) {direction : Direction}
    (hdirection : Direction.ofValue (row.fieldOrNull "direction") = .ok direction)
    (type : CatalogType) (position : Option Int) :
    (parameterOfRow (row.fieldOrNull "name") type direction position).name =
        .text row.parameterName ∧
      (parameterOfRow (row.fieldOrNull "name") type direction position).isSound = true := by
  unfold Row.parameterName
  unfold Row.argumentName? at hname ⊢
  rcases argument.named with ⟨s, hs⟩ | ⟨hnull, direction', hdirection', hout⟩
  · rw [hs] at hname ⊢
    have hne : (s == resultName) = false := beq_eq_false_iff_ne.2 fun h => hname (congrArg some h)
    have hnotResult : (direction.isOut && (Value.text s).isNull) = false := Bool.and_false _
    unfold parameterOfRow
    rw [hnotResult]
    refine ⟨rfl, ?_⟩
    unfold Parameter.isSound Parameter.isResult Value.isText
    dsimp only
    rw [if_neg Bool.false_ne_true]
    dsimp only
    rw [hne]
    rfl
  · obtain rfl := Except.ok.inj (hdirection.symm.trans hdirection')
    have hresult : (direction.isOut && Value.null.isNull) = true := by
      rw [hout]
      rfl
    rw [hnull]
    unfold parameterOfRow
    rw [hresult]
    refine ⟨rfl, ?_⟩
    unfold Parameter.isSound
    dsimp only
    rw [hout, Bool.not_true, Bool.and_false]
    rfl

theorem addParameterRow_gives (builder : RoutineBuilder) (argument : row.IsArgumentRow)
    (hname : row.argumentName? ≠ some resultName) (before : List Record) :
    ∃ parameter written, parameter.name = .text row.parameterName ∧
      (builder.addParameterRow row).Gives before
        { builder with parameters := builder.parameters.put parameter.name parameter } written := by
  obtain ⟨type, htype⟩ := CatalogType.ofFields_ok argument.type argument.length argument.precision
    argument.scale true
  obtain ⟨written, hnote⟩ :=
    noteUnknownType_gives type (row.fieldOrNull "object") (row.fieldOrNull "name") before
  obtain ⟨direction, hdirection⟩ := Direction.ofValue_ok argument.direction
  obtain ⟨position, hposition⟩ := argument.position.catalogInteger
  obtain ⟨hparameter, sound⟩ := parameterOfRow_sound argument hname hdirection type position
  have hnull : (row.fieldOrNull "type").isNull = false := by
    obtain ⟨s, hs⟩ := argument.type
    rw [hs]
    rfl
  refine ⟨_, written, hparameter, ?_⟩
  unfold addParameterRow
  dsimp only
  rw [hnull, if_neg Bool.false_ne_true, htype, Noted.ok_bind]
  refine Noted.bind_gives hnote ?_
  rw [hdirection, Error.ok_bind, hposition, Error.ok_bind, addParameter_ok sound ⟨_, hparameter⟩]
  rfl

/-! ### The arguments of a routine in the making -/

/-- The parameters so far are arguments of these names in this order, and the value of a function
if there is one. -/
structure HasArguments (builder : RoutineBuilder) (names : List String) (function : Bool) :
    Prop where
  keysIn : KeysIn Value.IsText builder.parameters
  named : NamedBy (·.name) builder.parameters
  arguments : (keys builder.parameters).filter (!·.isText resultName) = names.map .text
  result : (keys builder.parameters).any (·.isText resultName) = function

theorem hasArguments_empty (name : Value) : HasArguments { name } [] false :=
  ⟨OrderedMap.keysIn_nil, OrderedMap.namedBy_nil, rfl, rfl⟩

variable {names : List String} {function : Bool} {parameter : Parameter}

theorem HasArguments.put (h : builder.HasArguments names function) {key : String}
    (hname : parameter.name = .text key) :
    KeysIn Value.IsText (builder.parameters.put parameter.name parameter) ∧
      NamedBy (·.name) (builder.parameters.put parameter.name parameter) ∧
      keys (builder.parameters.put parameter.name parameter) =
        if OrderedMap.has (.text key) builder.parameters then keys builder.parameters
        else keys builder.parameters ++ [.text key] := by
  have hkey : parameter.name.IsText := ⟨key, hname⟩
  refine ⟨OrderedMap.keysIn_put h.keysIn hkey _,
    h.named.put Value.lawfulOn_isText h.keysIn hkey rfl, ?_⟩
  rw [OrderedMap.keys_put_eq Value.lawfulOn_isText h.keysIn hkey, hname]

theorem HasArguments.put_argument (h : builder.HasArguments names function) {name : String}
    (hname : parameter.name = .text name) (fresh : name ∉ names) (hresult : name ≠ resultName) :
    HasArguments { builder with parameters := builder.parameters.put parameter.name parameter }
      (names ++ [name]) function := by
  obtain ⟨hkeysIn, hnamed, hkeys⟩ := h.put hname
  have hnotResult : (Value.text name).isText resultName = false := beq_eq_false_iff_ne.2 hresult
  have hnew : OrderedMap.has (.text name) builder.parameters = false := by
    refine Bool.eq_false_iff.2 fun hhas => fresh ?_
    have hmem := OrderedMap.mem_keys_of_has Value.lawfulOn_isText h.keysIn ⟨name, rfl⟩ hhas
    have hfiltered : .text name ∈
        (keys builder.parameters).filter (!·.isText resultName) := by
      refine List.mem_filter.2 ⟨hmem, ?_⟩
      rw [hnotResult]
      rfl
    rw [h.arguments] at hfiltered
    obtain ⟨other, hother, heq⟩ := List.mem_map.1 hfiltered
    exact Value.text.inj heq ▸ hother
  rw [hnew, if_neg Bool.false_ne_true] at hkeys
  refine ⟨hkeysIn, hnamed, ?_, ?_⟩
  · rw [hkeys, List.filter_append, h.arguments, List.map_append, List.filter_cons, hnotResult]
    rfl
  · rw [hkeys, List.any_append, h.result, List.any_cons, hnotResult]
    exact Bool.or_false _

theorem HasArguments.put_result (h : builder.HasArguments names function)
    (hname : parameter.name = .text resultName) :
    HasArguments { builder with parameters := builder.parameters.put parameter.name parameter }
      names true := by
  obtain ⟨hkeysIn, hnamed, hkeys⟩ := h.put hname
  have hresult : (Value.text resultName).isText resultName = true := beq_self_eq_true resultName
  refine ⟨hkeysIn, hnamed, ?_, ?_⟩
  · rw [hkeys]
    split
    · exact h.arguments
    · rw [List.filter_append, h.arguments, List.filter_cons, hresult]
      exact List.append_nil _
  · rw [hkeys]
    split
    · rename_i hhas
      have hmem := OrderedMap.mem_keys_of_has Value.lawfulOn_isText h.keysIn ⟨resultName, rfl⟩ hhas
      exact List.any_eq_true.2 ⟨_, hmem, hresult⟩
    · rw [List.any_append, List.any_cons, hresult]
      exact Bool.or_true _

/-! ### All rows -/

/-- Rows of arguments with names of their own are all folded, in order. -/
theorem exists_foldlM {rows : List Row} (h : builder.HasArguments names function)
    (arguments : ∀ row ∈ rows, row.IsArgumentRow)
    (distinct : (names ++ rows.filterMap Row.argumentName?).Nodup)
    (notResult : resultName ∉ rows.filterMap Row.argumentName?) (before : List Record) :
    ∃ after written, (rows.foldlM addParameterRow builder).Gives before after written ∧
      after.name = builder.name ∧
      after.HasArguments (names ++ rows.filterMap Row.argumentName?)
        (function || rows.any (·.argumentName?.isNone)) := by
  -- the names of the rows before count as the builder's own for the rest
  induction rows generalizing builder names function before with
  | nil =>
    refine ⟨builder, before, rfl, rfl, ?_⟩
    rw [List.filterMap_nil, List.append_nil, List.any_nil, Bool.or_false]
    exact h
  | cons row rest ih =>
    obtain ⟨hrow, hrest⟩ := List.forall_mem_cons.1 arguments
    rw [List.filterMap_cons] at distinct notResult ⊢
    rw [List.any_cons]
    cases hname : row.argumentName? with
    | none =>
      rw [hname] at distinct notResult
      have hnamed : row.argumentName? ≠ some resultName := hname ▸ nofun
      obtain ⟨parameter, middle, hparameter, hgives⟩ :=
        addParameterRow_gives builder hrow hnamed before
      rw [Row.parameterName, hname] at hparameter
      obtain ⟨after, written, hfold, hafter, hhas⟩ :=
        ih (h.put_result hparameter) hrest distinct notResult middle
      rw [Bool.true_or] at hhas
      rw [Option.isNone_none, Bool.true_or, Bool.or_true]
      exact ⟨after, written, Noted.bind_gives hgives hfold, hafter, hhas⟩
    | some name =>
      rw [hname] at distinct notResult
      obtain ⟨hne, hothers⟩ := List.ne_and_not_mem_of_not_mem_cons notResult
      have fresh : name ∉ names := fun hmem =>
        (List.nodup_append.1 distinct).2.2 name hmem name List.mem_cons_self rfl
      have hnamed : row.argumentName? ≠ some resultName := by
        rw [hname]
        exact fun heq => hne (Option.some.inj heq).symm
      obtain ⟨parameter, middle, hparameter, hgives⟩ :=
        addParameterRow_gives builder hrow hnamed before
      rw [Row.parameterName, hname] at hparameter
      have hput := h.put_argument hparameter fresh hne.symm
      dsimp only at distinct ⊢
      rw [List.append_cons] at distinct ⊢
      obtain ⟨after, written, hfold, hafter, hhas⟩ := ih hput hrest distinct hothers middle
      rw [Option.isNone_some, Bool.false_or]
      exact ⟨after, written, Noted.bind_gives hgives hfold, hafter, hhas⟩

/-! ### The routine -/

theorem HasArguments.isFunction (h : builder.HasArguments names function) :
    builder.build.isFunction = function := by
  rw [← h.result, ← h.named.map_values, List.any_map]
  rfl

theorem HasArguments.map_arguments (h : builder.HasArguments names function) :
    builder.build.arguments.map (·.name) = names.map .text := by
  rw [← h.arguments, ← h.named.map_values, List.filter_map]
  rfl

end RoutineBuilder

end OracleCatalog
