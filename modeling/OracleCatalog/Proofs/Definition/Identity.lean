import OracleCatalog.Proofs.Definition.KeyGeneration

/-!
# Identity clauses and defaults

A column that generates its own keys has no use for a default, yet the two clauses are written
independently of each other. They stand together in one definition when the key column takes nulls
or has a default of its own.
-/

namespace OracleCatalog.Definition

open OracleCatalog.Text

variable {dialect : Dialect} {table : Table} {c : Column} {name : Value}

/-! ### Any definition that is written -/

theorem eq_text_of_operand {v : Value} {text : String} (h : v.operand = .ok text) :
    v = .text text := by
  cases v with
  | text s => exact congrArg Value.text (Except.ok.inj h)
  | _ => cases h

theorem isText_of_quote {written : String} (h : dialect.quote name = .ok (.text written)) :
    name.IsText := by
  unfold Dialect.quote Identifier.quoteValue at h
  split at h
  · exact ⟨written, Except.ok.inj h⟩
  · obtain ⟨s, hs, -⟩ := Error.ok_of_map h
    cases name with
    | text s => exact Value.isText_text s
    | _ => cases hs

theorem defaultClause_of_not_boolean (h : c.type ≠ .boolean) :
    defaultClause c = .ok (defaultText c) := by
  have hboolean : (c.type == .boolean) = false := beq_eq_false_iff_ne.2 h
  unfold defaultClause defaultText hasDefault defaultExpression
  rw [hboolean, if_neg h]
  cases c.nullable.truthy with
  | true => rfl
  | false =>
    cases c.default.isNull with
    | true => rfl
    | false => cases c.type == .timestamp <;> rfl

theorem isOn_of_signaling {v : Value} (h : v.isSignaling = true) :
    isOn v = .error (.signaled .invalidOperation) := by
  unfold isOn Value.isNumber
  rw [h]
  rfl

/-- A default clause that is written is the text of the default. -/
theorem defaultText_of_defaultClause {text : String} (h : defaultClause c = .ok text) :
    text = defaultText c := by
  by_cases hboolean : c.type = .boolean
  · cases hsignaling : c.default.isSignaling with
    | false => exact Except.ok.inj (h.symm.trans (defaultClause_eq hsignaling))
    | true =>
      have hpresent : c.default.isNull = false := by
        refine Bool.eq_false_iff.2 fun hnull => ?_
        unfold Value.isNull at hnull
        split at hnull
        · rename_i hdefault
          rw [hdefault] at hsignaling
          cases hsignaling
        · cases hnull
      unfold defaultClause at h
      unfold defaultText
      rw [isOn_of_signaling hsignaling, hpresent, hboolean] at h
      cases hnullable : c.nullable.truthy with
      | true =>
        rw [hnullable] at h
        exact (Except.ok.inj h).symm
      | false =>
        rw [hnullable] at h
        cases h
  · exact Except.ok.inj (h.symm.trans (defaultClause_of_not_boolean hboolean))

/-- The parts of a definition, whatever the description of the column is. -/
theorem column_of_ok {text : String} (h : column dialect table name = .ok text) :
    name.IsText ∧ ∃ c declaration, table.column? name = some c ∧
      c.type.declaration (sizeOf c) = .ok declaration ∧
      text = dialect.written name ++ " " ++ declaration ++ identityText dialect table c ++
        defaultText c ++ refusal c := by
  unfold column at h
  cases hfound : table.column? name with
  | none =>
    rw [hfound] at h
    cases h
  | some c =>
    rw [hfound] at h
    obtain ⟨quoted, hquoted, h⟩ := Error.ok_of_bind h
    obtain ⟨declaration, hdeclaration, h⟩ := Error.ok_of_bind h
    obtain ⟨written, hwritten, h⟩ := Error.ok_of_bind h
    obtain ⟨default, hdefault, h⟩ := Error.ok_of_bind h
    obtain rfl := eq_text_of_operand hwritten
    obtain rfl := defaultText_of_defaultClause hdefault
    have hname := isText_of_quote hquoted
    have hsame := hquoted.symm.trans (dialect.quote_eq hname)
    obtain rfl := Value.text.inj (Except.ok.inj hsame)
    exact ⟨hname, c, declaration, rfl, hdeclaration, (Except.ok.inj h).symm⟩

theorem beq_of_column? (found : table.column? name = some c) : (c.name == name) = true :=
  List.find?_some (p := fun c : Column => c.name == name) found

theorem name_of_column? (hname : name.IsText) (found : table.column? name = some c) :
    c.name = name := by
  obtain ⟨s, rfl⟩ := hname
  exact Value.eq_of_beq_text (beq_of_column? found)

/-! ### Both clauses -/

/-- The definition of a column has a default right behind the identity clause. -/
def HasIdentityAndDefault (dialect : Dialect) (table : Table) (name : Value) : Prop :=
  ∃ c declaration rest, table.column? name = some c ∧
    c.type.declaration (sizeOf c) = .ok declaration ∧
    column dialect table name =
      .ok (dialect.written name ++ " " ++ declaration ++ identityClause ++ " DEFAULT " ++ rest)

theorem refusal_ne_default (c : Column) (rest : String) : refusal c ≠ " DEFAULT " ++ rest := by
  have hdefault : (" DEFAULT " ++ rest).toList.take 2 = [' ', 'D'] := by
    rw [String.toList_append]
    rfl
  intro heq
  rw [← heq] at hdefault
  unfold refusal at hdefault
  revert hdefault
  cases c.nullable.truthy <;> decide

/-- A default is written exactly for columns that take nulls or have one. -/
theorem exists_default_iff (noTimestamp : c.type ≠ .timestamp) :
    (∃ rest, defaultText c ++ refusal c = " DEFAULT " ++ rest) ↔
      c.nullable.truthy = true ∨ c.default.isNull = false := by
  unfold defaultText
  cases hnullable : c.nullable.truthy with
  | true => exact iff_of_true ⟨"NULL" ++ refusal c, by rw [← String.append_assoc]; rfl⟩ (.inl rfl)
  | false =>
    have htype : (c.type == .timestamp) = false := beq_eq_false_iff_ne.2 noTimestamp
    have hhas : hasDefault c = !c.default.isNull := by
      unfold hasDefault
      rw [hnullable, htype, Bool.false_or, Bool.or_false]
    rw [if_neg Bool.false_ne_true, hhas]
    cases c.default.isNull with
    | true =>
      refine iff_of_false ?_ (by decide)
      rintro ⟨rest, hrest⟩
      exact refusal_ne_default c rest (String.empty_append.symm.trans hrest)
    | false =>
      exact iff_of_true ⟨defaultExpression c ++ refusal c, String.append_assoc⟩ (.inr rfl)

theorem integerKey?_ne_timestamp (hkey : table.integerKey? = some c) : c.type ≠ .timestamp := by
  unfold Table.integerKey? at hkey
  split at hkey
  · intro htype
    have hinteger := (Option.filter_eq_some_iff.1 hkey).2
    rw [htype] at hinteger
    cases hinteger
  · cases hkey

/-- The column that is found under a name generates its own keys when it is the key column. -/
theorem isIdentity_iff_integerKey? (hname : name.IsText) (found : table.column? name = some c) :
    isIdentity dialect table c = true ↔
      dialect.usesIdentity = true ∧ table.integerKey? = some c := by
  have hsame := name_of_column? hname found
  obtain ⟨s, rfl⟩ := hname
  unfold isIdentity
  rw [Bool.and_eq_true, Option.any_eq_true, hsame]
  refine and_congr_right fun _ => ?_
  constructor
  · rintro ⟨key, hkey, hbeq⟩
    have hkeyName := Value.eq_of_beq_text hbeq
    unfold Table.integerKey? at hkey ⊢
    split at hkey
    · rename_i column hprimary
      -- the one column of the key is a text, as its column is found under it
      have hcolumn := beq_of_column? (Option.filter_eq_some_iff.1 hkey).1
      rw [hkeyName] at hcolumn
      obtain rfl := Value.eq_of_text_beq hcolumn
      rw [found] at hkey
      rw [found]
      obtain ⟨heq, -⟩ := Option.filter_eq_some_iff.1 hkey
      obtain rfl := Option.some.inj heq
      exact hkey
    · cases hkey
  · intro hkey
    have hbeq := beq_of_column? found
    exact ⟨c, hkey, hbeq⟩

/-- The two clauses stand together exactly in the definition of a key column that takes nulls or
has a default. -/
theorem hasIdentityAndDefault_iff (dialect : Dialect) (table : Table) (name : Value) :
    HasIdentityAndDefault dialect table name ↔
      dialect.usesIdentity = true ∧ ∃ key text, table.integerKey? = some key ∧
        table.column? name = some key ∧ column dialect table name = .ok text ∧
        (key.nullable.truthy = true ∨ key.default.isNull = false) := by
  constructor
  · rintro ⟨c, declaration, rest, found, hdeclaration, hcolumn⟩
    obtain ⟨hname, c', declaration', found', hdeclaration', htext⟩ := column_of_ok hcolumn
    obtain rfl := Option.some.inj (found.symm.trans found')
    obtain rfl := Except.ok.inj (hdeclaration.symm.trans hdeclaration')
    simp only [String.append_assoc, String.append_right_inj] at htext
    cases hidentity : isIdentity dialect table c with
    | true =>
      obtain ⟨huses, hkey⟩ := (isIdentity_iff_integerKey? hname found).1 hidentity
      have hinteger := integerKey?_ne_timestamp hkey
      unfold identityText at htext
      rw [hidentity, if_pos rfl, String.append_right_inj] at htext
      exact ⟨huses, c, _, hkey, found, hcolumn,
        (exists_default_iff hinteger).1 ⟨rest, htext.symm⟩⟩
    | false =>
      unfold identityText at htext
      rw [hidentity, if_neg Bool.false_ne_true, String.empty_append] at htext
      exact absurd htext.symm (defaultText_refusal_ne c _)
  · rintro ⟨huses, key, text, hkey, found, hcolumn, hdefault⟩
    obtain ⟨hname, c, declaration, found', hdeclaration, rfl⟩ := column_of_ok hcolumn
    obtain rfl := Option.some.inj (found.symm.trans found')
    have hidentity := (isIdentity_iff_integerKey? hname found).2 ⟨huses, hkey⟩
    obtain ⟨rest, hrest⟩ := (exists_default_iff (integerKey?_ne_timestamp hkey)).2 hdefault
    have hparts (front : String) :
        front ++ defaultText key ++ refusal key = front ++ " DEFAULT " ++ rest := by
      rw [String.append_assoc, hrest, String.append_assoc]
    unfold identityText at hcolumn
    rw [hidentity, if_pos rfl, hparts] at hcolumn
    exact ⟨key, declaration, rest, found, hdeclaration, hcolumn⟩

/-- A table whose one column is a key that takes nulls, as columns do where nothing else is said. -/
def nullableKeyTable : Table :=
  { name := .text "EMP", columns := [{ name := .text "ID", type := .integer }]
    constraints := [{ name := .text "primary", kind := .primary, columns := [.text "ID"] }] }

theorem nullable_key_has_both :
    column identityDialect nullableKeyTable (.text "ID") =
        .ok "ID NUMBER GENERATED BY DEFAULT AS IDENTITY (START WITH 1) DEFAULT NULL" ∧
      HasIdentityAndDefault identityDialect nullableKeyTable (.text "ID") :=
  ⟨by cbv, _, "NUMBER", "NULL", rfl, by cbv, by cbv⟩

end OracleCatalog.Definition
