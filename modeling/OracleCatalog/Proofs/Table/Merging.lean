import OracleCatalog.Proofs.Name
import OracleCatalog.Proofs.Success
import OracleCatalog.Row.Table

/-!
# Putting the rows of keys together

Rows of keys stand for constraints of one column. Folding such rows is a fold over these
constraints, and what a table holds under a name comes from the constraints of that name alone, one
behind the other.
-/

namespace OracleCatalog

/-! ### One constraint behind another -/

namespace Constraint

/-- A constraint behind an earlier one of its name, where there is one. -/
def onto (earlier : Option Constraint) (later : Constraint) : Constraint :=
  match earlier with
  | some earlier => earlier.after later
  | none => later

/-- What constraints of one name come to. -/
def absorb (earlier : Option Constraint) (later : Constraint) : Option Constraint :=
  some (later.onto earlier)

def into (map : OrderedMap Value Constraint) (constraint : Constraint) :
    OrderedMap Value Constraint :=
  map.put constraint.name (constraint.onto (OrderedMap.get? constraint.name map))

theorem onto_name (earlier : Option Constraint) (later : Constraint) :
    (onto earlier later).name = later.name := by
  cases earlier with
  | none => rfl
  | some earlier => rfl

theorem onto_kind (earlier : Option Constraint) (later : Constraint) :
    (onto earlier later).kind = later.kind := by
  cases earlier with
  | none => rfl
  | some earlier => rfl

section Maps

open OrderedMap (KeysIn keys)

variable {map : OrderedMap Value Constraint} {constraints : List Constraint}

theorem keysIn_foldl_into (hkeys : KeysIn Value.IsName map)
    (names : ∀ c ∈ constraints, c.name.IsName) :
    KeysIn Value.IsName (constraints.foldl into map) :=
  OrderedMap.keysIn_foldl_gather hkeys names

theorem nodup_foldl_into (hkeys : KeysIn Value.IsName map) (distinct : (keys map).Nodup)
    (names : ∀ c ∈ constraints, c.name.IsName) : (keys (constraints.foldl into map)).Nodup :=
  OrderedMap.nodup_foldl_gather Value.lawfulOn_isName hkeys distinct names

/-- Under a name stands what the constraints of that name come to. -/
theorem get?_foldl_into (hkeys : KeysIn Value.IsName map)
    (names : ∀ c ∈ constraints, c.name.IsName) {name : Value} (hname : name.IsName) :
    OrderedMap.get? name (constraints.foldl into map) =
      (constraints.filter fun c => name == c.name).foldl absorb (OrderedMap.get? name map) :=
  OrderedMap.get?_foldl_gather Value.lawfulOn_isName hkeys names hname

theorem mem_values_foldl_into (names : ∀ c ∈ constraints, c.name.IsName) {c : Constraint} :
    c ∈ OrderedMap.values (constraints.foldl into []) ↔
      ∃ name, name.IsName ∧ OrderedMap.get? name (constraints.foldl into []) = some c :=
  OrderedMap.mem_values Value.lawfulOn_isName (keysIn_foldl_into OrderedMap.keysIn_nil names)
    (nodup_foldl_into OrderedMap.keysIn_nil List.nodup_nil names)

end Maps

/-! ### Constraints of one name -/

theorem exists_of_foldl_absorb {earlier : Option Constraint} {constraints : List Constraint}
    {c : Constraint} (h : constraints.foldl absorb earlier = some c) :
    earlier = some c ∧ constraints = [] ∨
      ∃ before last, last ∈ constraints ∧ c = last.onto before :=
  OrderedMap.exists_of_foldl_join h

end Constraint

/-! ### Rows as constraints -/

namespace TableBuilder

theorem addConstraint_ok {builder after : TableBuilder} (constraint : Constraint)
    (hname : constraint.name.IsName)
    (h : builder.addConstraint constraint.name constraint = .ok after) :
    after = { builder with constraints := constraint.into builder.constraints } := by
  unfold addConstraint at h
  rw [hname.asKey] at h
  exact (Except.ok.inj h).symm

/-- The constraints that the rows of the index query stand for. -/
def keyConstraints (parts : List IndexPart) : List Constraint :=
  (parts.filter fun part => part.kind == .primary || part.kind == .unique).map
    IndexPart.constraint

theorem addIndexPart_ok {builder after : TableBuilder} {part : IndexPart} (hname : part.name.IsName)
    (h : builder.addIndexPart part = .ok after) :
    after.constraints = (keyConstraints [part]).foldl Constraint.into builder.constraints := by
  unfold addIndexPart at h
  cases hkind : part.kind with
  | primary | unique =>
    rw [hkind] at h
    rw [addConstraint_ok part.constraint hname h]
    simp only [keyConstraints, hkind, List.filter_cons, List.filter_nil, beq_self_eq_true,
      Bool.true_or, Bool.or_true, ↓reduceIte, List.map_cons, List.map_nil, List.foldl_cons,
      List.foldl_nil]
  | foreign | index =>
    rw [hkind] at h
    obtain ⟨_, _, rfl⟩ := Error.ok_of_map h
    simp only [keyConstraints, hkind, List.filter_cons, List.filter_nil]
    rfl

end TableBuilder

/-! ### Fields of rows -/

namespace Row

def folded (folding : CaseFolding) (name : String) (row : Row) : Except Error Value := do
  foldedName folding (← row.field name)

theorem field_ok {row : Row} {name : String} {v : Value} (h : row.field name = .ok v) :
    row.fieldOrNull name = v := by
  unfold field at h
  unfold fieldOrNull
  cases hget : OrderedMap.get? name row with
  | none =>
    rw [hget] at h
    cases h
  | some found =>
    rw [hget] at h
    cases h
    rfl

theorem folded_isName {folding : CaseFolding} {row : Row} {name : String} {v : Value}
    (hname : (row.fieldOrNull name).IsName) (h : row.folded folding name = .ok v) : v.IsName := by
  obtain ⟨raw, hraw, hfold⟩ := Error.ok_of_bind h
  rw [field_ok hraw] at hname
  exact foldedName_isName hname hfold

end Row

/-! ### Rows of the three queries -/

namespace TableBuilder

variable {folding : CaseFolding} {builder after : TableBuilder}

theorem indexPartOfRow_isName {row : Row} {part : IndexPart}
    (hname : (row.fieldOrNull "name").IsName) (h : indexPartOfRow folding row = .ok part) :
    part.name.IsName := by
  obtain ⟨raw, hraw, h⟩ := Error.ok_of_bind h
  obtain ⟨name, hfold, h⟩ := Error.ok_of_bind h
  obtain ⟨_, _, h⟩ := Error.ok_of_bind h
  obtain ⟨_, _, h⟩ := Error.ok_of_bind h
  obtain ⟨kind, _, h⟩ := Error.ok_of_bind h
  cases h
  dsimp only
  split
  · exact Value.isName_text _
  · exact foldedName_isName (Row.field_ok hraw ▸ hname) hfold

/-- The parts of the constraint that a row of the foreign key query stands for. -/
theorem foreignKeyOfRow_ok {row : Row} {key : Constraint}
    (h : foreignKeyOfRow folding row = .ok key) :
    key.kind = .foreign ∧ row.folded folding "constraint_name" = .ok key.name ∧
      (∃ column, row.folded folding "column_name" = .ok column ∧ key.columns = [column]) ∧
      ∃ table referenced, row.folded folding "referenced_column_name" = .ok referenced ∧
        key.references = .to table [referenced] := by
  obtain ⟨rawName, hrawName, h⟩ := Error.ok_of_bind h
  obtain ⟨name, hname, h⟩ := Error.ok_of_bind h
  obtain ⟨owner, _, h⟩ := Error.ok_of_bind h
  obtain ⟨table, _, h⟩ := Error.ok_of_bind h
  obtain ⟨rawColumn, hrawColumn, h⟩ := Error.ok_of_bind h
  obtain ⟨column, hcolumn, h⟩ := Error.ok_of_bind h
  obtain ⟨referenced, _, h⟩ := Error.ok_of_bind h
  obtain ⟨rawTarget, hrawTarget, h⟩ := Error.ok_of_bind h
  obtain ⟨target, htarget, h⟩ := Error.ok_of_bind h
  obtain ⟨action, _, h⟩ := Error.ok_of_bind h
  cases h
  refine ⟨rfl, ?_, ⟨column, ?_, rfl⟩, referenced, target, ?_, rfl⟩
  · rw [Row.folded, hrawName]
    exact hname
  · rw [Row.folded, hrawColumn]
    exact hcolumn
  · rw [Row.folded, hrawTarget]
    exact htarget

theorem foreignKeyOfRow_isName {row : Row} {key : Constraint}
    (hname : (row.fieldOrNull "constraint_name").IsName)
    (h : foreignKeyOfRow folding row = .ok key) : key.name.IsName :=
  Row.folded_isName hname (foreignKeyOfRow_ok h).2.1

theorem addRows_columns {rows : List Row} {before written : List Record}
    (h : (builder.addRows folding (rows.map .column)).Gives before after written) :
    after.constraints = builder.constraints := by
  induction rows generalizing builder before with
  | nil =>
    rw [← Noted.gives_pure h]
  | cons row rest ih =>
    obtain ⟨middle, records, hrow, hrest⟩ := Noted.gives_bind h
    rw [ih hrest]
    obtain ⟨type, _, _, h⟩ := Noted.gives_bind hrow
    obtain ⟨name, _, _, h⟩ := Noted.gives_bind h
    obtain ⟨_, _, _, h⟩ := Noted.gives_bind h
    obtain ⟨position, _, h⟩ := Error.ok_of_bind (Noted.gives_ofExcept h)
    obtain ⟨folded, _, h⟩ := Error.ok_of_bind h
    obtain ⟨_, _, rfl⟩ := Error.ok_of_map h
    rfl

theorem addRows_indexes {rows : List Row} {before written : List Record}
    (names : ∀ row ∈ rows, (row.fieldOrNull "name").IsName)
    (h : (builder.addRows folding (rows.map .index)).Gives before after written) :
    ∃ parts, rows.mapM (indexPartOfRow folding) = .ok parts ∧
      after.constraints = (keyConstraints parts).foldl Constraint.into builder.constraints := by
  induction rows generalizing builder before with
  | nil =>
    rw [← Noted.gives_pure h]
    exact ⟨[], rfl, rfl⟩
  | cons row rest ih =>
    obtain ⟨middle, records, hrow, hrest⟩ := Noted.gives_bind h
    obtain ⟨part, hpart, hadd⟩ := Error.ok_of_bind (Noted.gives_ofExcept hrow)
    obtain ⟨parts, hparts, hafter⟩ :=
      ih (fun row' hr => names row' (List.mem_cons_of_mem _ hr)) hrest
    have hname := indexPartOfRow_isName (names row List.mem_cons_self) hpart
    refine ⟨part :: parts, Error.mapM_cons_ok hpart hparts, ?_⟩
    have happend : keyConstraints (part :: parts) =
        keyConstraints [part] ++ keyConstraints parts := by
      rw [keyConstraints, keyConstraints, keyConstraints, ← List.map_append,
        ← List.filter_append, List.singleton_append]
    rw [hafter, addIndexPart_ok hname hadd, happend, List.foldl_append]

theorem addRows_foreignKeys {rows : List Row} {before written : List Record}
    (names : ∀ row ∈ rows, (row.fieldOrNull "constraint_name").IsName)
    (h : (builder.addRows folding (rows.map .foreignKey)).Gives before after written) :
    ∃ keys, rows.mapM (foreignKeyOfRow folding) = .ok keys ∧
      after.constraints = keys.foldl Constraint.into builder.constraints := by
  induction rows generalizing builder before with
  | nil =>
    rw [← Noted.gives_pure h]
    exact ⟨[], rfl, rfl⟩
  | cons row rest ih =>
    obtain ⟨middle, records, hrow, hrest⟩ := Noted.gives_bind h
    obtain ⟨key, hkey, hadd⟩ := Error.ok_of_bind (Noted.gives_ofExcept hrow)
    obtain ⟨keys, hkeys, hafter⟩ :=
      ih (fun row' hr => names row' (List.mem_cons_of_mem _ hr)) hrest
    have hname := foreignKeyOfRow_isName (names row List.mem_cons_self) hkey
    refine ⟨key :: keys, Error.mapM_cons_ok hkey hkeys, ?_⟩
    rw [hafter, addConstraint_ok key hname hadd, List.foldl_cons]

end TableBuilder

end OracleCatalog
