import OracleCatalog.Proofs.Definition.Typed

/-!
# The definition of a column, part by part

The definition of a column that has a name and a declared type is made of five parts: the name, the
declaration, the identity clause if the column generates its own keys, the default, and the refusal
of nulls. Only the declaration can fail. Three abstract types have none; every other type has one,
whatever its sizes are, as long as these can be written.
-/

namespace OracleCatalog

open OracleCatalog.Text (digitLimit)

/-! ### Sizes -/

theorem Value.IsWritable.writeInteger {i : Int} (h : IsWritable i) :
    writeInteger i = .ok (Text.intText i) := by
  have hnot : ¬ Nat.pow 10 digitLimit ≤ i.natAbs := Nat.not_le_of_lt h
  unfold Value.writeInteger
  rw [if_neg hnot]

theorem Value.isWritable_of_small {i : Int} (h : i.natAbs < Nat.pow 10 3) : IsWritable i := by
  have hdigits : 3 ≤ digitLimit := by decide
  unfold IsWritable
  rw [Nat.pow_eq] at h ⊢
  exact Nat.lt_of_lt_of_le h (Nat.pow_le_pow_right (by decide) hdigits)

theorem Value.writeInteger_eq_ok_iff {i : Int} {text : String} :
    writeInteger i = .ok text ↔ IsWritable i ∧ Text.intText i = text := by
  by_cases h : IsWritable i
  · rw [h.writeInteger, and_iff_right h]
    simp only [Except.ok.injEq]
  · refine iff_of_false (fun hok => ?_) fun hand => h hand.1
    unfold writeInteger at hok
    rw [if_pos (Nat.le_of_not_lt h)] at hok
    cases hok

theorem Value.isWritable_singleton {i : Int} (h : i.natAbs < Nat.pow 10 3) :
    ∀ j ∈ [i], IsWritable j :=
  List.forall_mem_singleton.2 (isWritable_of_small h)

namespace Value.IsSize

variable {v : Value}

theorem whole_orElse (h : v.IsSize) {other : Int} (hother : IsWritable other) :
    ∃ i, (v.orElse (.int other)).whole = .ok i ∧ IsWritable i := by
  unfold Value.orElse
  split
  · rename_i htruthy
    rcases h with rfl | ⟨i, rfl, hi⟩
    · cases htruthy
    · exact ⟨i, rfl, hi⟩
  · exact ⟨other, rfl, hother⟩

theorem whole_of_not_null (h : v.IsSize) (hnull : v.isNull = false) :
    ∃ i, v.whole = .ok i ∧ IsWritable i := by
  rcases h with rfl | ⟨i, rfl, hi⟩
  · cases hnull
  · exact ⟨i, rfl, hi⟩

end Value.IsSize

namespace AbstractType

theorem exists_sized (name : String) {numbers : List Int}
    (h : ∀ i ∈ numbers, Value.IsWritable i) : ∃ text, sized name numbers = .ok text := by
  have hwritten : numbers.mapM Value.writeInteger = .ok (numbers.map Text.intText) :=
    Error.mapM_eq_map fun i hi => (h i hi).writeInteger
  unfold sized
  rw [hwritten]
  exact ⟨_, rfl⟩

/-! ### Types with a declaration -/

def isDeclared (type : AbstractType) : Bool := type == .string || type.engineName?.isSome

theorem isDeclared_eq_false_iff (type : AbstractType) :
    type.isDeclared = false ↔ type ∈ [json, cursor, unknown] := by
  cases type <;> decide

theorem declaration_of_not_declared {type : AbstractType} (h : type.isDeclared = false)
    (size : TypeSize) : type.declaration size = .error type.undeclared := by
  cases type <;> first | rfl | cases h

variable {size : TypeSize}

theorem exists_declaration_string (typed : size.IsTyped) :
    ∃ text, declaration .string size = .ok text := by
  have hdefault : Value.IsWritable 255 := Value.isWritable_of_small (by decide)
  obtain ⟨length, hlength, hwritable⟩ := typed.length.whole_orElse hdefault
  show ∃ text, ((size.length.orElse (.int 255)).whole >>= fun length =>
    sized (if size.fixed.truthy then "CHAR" else "VARCHAR2") [length]) = .ok text
  rw [hlength, Error.ok_bind]
  exact exists_sized _ (List.forall_mem_singleton.2 hwritable)

theorem exists_declaration_precision (typed : size.IsTyped) (name : String) :
    ∃ text, (if size.precision.isNull then pure name
      else size.precision.whole >>= fun precision => sized name [precision]) = .ok text := by
  split
  · exact ⟨name, rfl⟩
  · rename_i hnull
    obtain ⟨precision, hprecision, hwritable⟩ :=
      typed.precision.whole_of_not_null (Bool.eq_false_iff.2 hnull)
    rw [hprecision, Error.ok_bind]
    exact exists_sized name (List.forall_mem_singleton.2 hwritable)

theorem exists_declaration_decimal (typed : size.IsTyped) :
    ∃ text, declaration .decimal size = .ok text := by
  have hprecisionDefault : Value.IsWritable 38 := Value.isWritable_of_small (by decide)
  have hscaleDefault : Value.IsWritable 0 := Value.isWritable_of_small (by decide)
  obtain ⟨precision, hprecision, hprecisionWritable⟩ :=
    typed.precision.whole_orElse hprecisionDefault
  obtain ⟨scale, hscale, hscaleWritable⟩ := typed.scale.whole_orElse hscaleDefault
  have hboth : ∀ i ∈ [precision, scale], Value.IsWritable i :=
    List.forall_mem_cons.2 ⟨hprecisionWritable, List.forall_mem_singleton.2 hscaleWritable⟩
  show ∃ text, (if (size.precision.isNull && size.scale.isNull) = true then pure "NUMBER"
    else (size.precision.orElse (.int 38)).whole >>= fun precision =>
      (size.scale.orElse (.int 0)).whole >>= fun scale =>
        sized "NUMBER" [precision, scale]) = .ok text
  split
  · exact ⟨_, rfl⟩
  · rw [hprecision, Error.ok_bind, hscale, Error.ok_bind]
    exact exists_sized _ hboth

/-- A type that can be declared is declared, whatever its sizes are. -/
theorem exists_declaration {type : AbstractType} (h : type.isDeclared = true)
    (typed : size.IsTyped) : ∃ text, type.declaration size = .ok text := by
  cases type with
  | string => exact exists_declaration_string typed
  | integer => exact exists_declaration_precision typed "NUMBER"
  | float => exact exists_declaration_precision typed "FLOAT"
  | decimal => exact exists_declaration_decimal typed
  | json | cursor | unknown => cases h
  | _ => exact ⟨_, rfl⟩

end AbstractType

namespace Definition

/-! ### Defaults -/

/-- What a default stands for behind its keyword: a truth value as a number, anything else as a
literal. -/
def defaultExpression (column : Column) : String :=
  if column.type = .boolean then
    if column.default == .int 1 || column.default == .text "1" || column.default == .text "true"
    then "1" else "0"
  else Literal.ofValue column.default

def hasDefault (column : Column) : Bool :=
  !(column.nullable.truthy || column.default.isNull || column.type == .timestamp)

def defaultText (column : Column) : String :=
  if column.nullable.truthy then " DEFAULT NULL"
  else if hasDefault column then " DEFAULT " ++ defaultExpression column
  else ""

def refusal (column : Column) : String := if column.nullable.truthy then "" else " NOT NULL"

def identityText (dialect : Dialect) (table : Table) (column : Column) : String :=
  if isIdentity dialect table column then identityClause else ""

theorem isOn_eq {v : Value} (h : v.isSignaling = false) :
    isOn v = .ok (v == .int 1 || v == .text "1" || v == .text "true") := by
  unfold isOn Value.isNumber
  rw [h]
  rfl

theorem defaultClause_eq {column : Column} (h : column.default.isSignaling = false) :
    defaultClause column = .ok (defaultText column) := by
  unfold defaultClause defaultText hasDefault defaultExpression
  rw [isOn_eq h]
  cases column.nullable.truthy with
  | true => rfl
  | false =>
    cases hnull : column.default.isNull with
    | true => rfl
    | false =>
      cases htype : column.type <;> rfl

/-! ### The parts put together -/

variable {dialect : Dialect} {table : Table} {c : Column}

/-- The definition of the column that is found under its name. -/
theorem column_eq (found : table.column? c.name = some c) (typed : c.IsTyped) :
    column dialect table c.name = (c.type.declaration (sizeOf c)).map fun declaration =>
      dialect.written c.name ++ " " ++ declaration ++ identityText dialect table c ++
        defaultText c ++ refusal c := by
  unfold column
  rw [found]
  dsimp only
  rw [dialect.quote_eq typed.name, Error.ok_bind]
  cases c.type.declaration (sizeOf c) with
  | error e => rfl
  | ok declaration =>
    rw [defaultClause_eq typed.default]
    rfl

theorem column_of_declaration (dialect : Dialect) (found : table.column? c.name = some c)
    (typed : c.IsTyped) {declaration : String}
    (h : c.type.declaration (sizeOf c) = .ok declaration) :
    column dialect table c.name = .ok (dialect.written c.name ++ " " ++ declaration ++
      identityText dialect table c ++ defaultText c ++ refusal c) := by
  rw [column_eq found typed, h]
  rfl

theorem column_of_not_declared (dialect : Dialect) (found : table.column? c.name = some c)
    (typed : c.IsTyped) (h : c.type.isDeclared = false) :
    column dialect table c.name = .error c.type.undeclared := by
  rw [column_eq found typed, AbstractType.declaration_of_not_declared h]
  rfl

theorem exists_column (dialect : Dialect) (found : table.column? c.name = some c)
    (typed : c.IsTyped) (h : c.type.isDeclared = true) :
    ∃ text, column dialect table c.name = .ok text := by
  obtain ⟨declaration, hdeclaration⟩ := AbstractType.exists_declaration h typed.size
  exact ⟨_, column_of_declaration dialect found typed hdeclaration⟩

theorem ne_empty_of_column (found : table.column? c.name = some c) (typed : c.IsTyped)
    {text : String} (h : column dialect table c.name = .ok text) : text ≠ "" := by
  rw [column_eq found typed] at h
  obtain ⟨declaration, -, rfl⟩ := Error.ok_of_map h
  simp only [Ne, String.append_eq_empty_iff, String.reduceEq, and_false, false_and,
    not_false_eq_true]

end Definition

end OracleCatalog
