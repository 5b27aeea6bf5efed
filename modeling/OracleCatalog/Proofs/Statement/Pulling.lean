import OracleCatalog.Proofs.Session.Perform
import OracleCatalog.Proofs.Statement.Script

/-!
# What a call for rows does

A call for rows is one event on the cursor. A buffer that has not found the end stays as it is when
the call fails, keeps the row that it is given, or finds the end and closes the cursor.
-/

namespace OracleCatalog

/-! ### The cursor -/

namespace Cursor

theorem takeRow_spec (cursor : Cursor) :
    cursor.takeRow.2.number = cursor.number ∧ cursor.takeRow.2.columns = cursor.columns ∧
      cursor.takeRow.2.rows <:+ cursor.rows := by
  unfold takeRow
  cases cursor.nextFault with
  | some fault => exact ⟨rfl, rfl, List.suffix_refl _⟩
  | none =>
    cases hrows : cursor.rows with
    | nil => simp [hrows]
    | cons row rows => simp

theorem mem_of_takeRow {cursor : Cursor} {row : List Value}
    (h : cursor.takeRow.1 = .ok (some row)) : row ∈ cursor.rows := by
  unfold takeRow at h
  cases hfault : cursor.nextFault with
  | some fault => simp [hfault] at h
  | none =>
    cases hrows : cursor.rows with
    | nil => simp [hfault, hrows] at h
    | cons first rows =>
      simp only [hfault, hrows, Except.ok.injEq, Option.some.injEq] at h
      simp [h]

theorem takeRows_spec (cursor : Cursor) :
    cursor.takeRows.2.number = cursor.number ∧ cursor.takeRows.2.columns = cursor.columns ∧
      cursor.takeRows.2.rows <:+ cursor.rows := by
  unfold takeRows
  cases cursor.nextFault with
  | some fault => exact ⟨rfl, rfl, List.suffix_refl _⟩
  | none => exact ⟨rfl, rfl, List.nil_suffix⟩

end Cursor

/-! ### The statement on the cursor -/

/-- What a call for a row answers when the cursor has been asked for one. -/
def RowShape.answer (shape : RowShape) (columns : List Value) : Option (List Value) → Value
  | none => .null
  | some row => shape.row columns row

namespace PlainStatement

/-- The statement once a row has been asked for. -/
def behindRow (s : PlainStatement) : PlainStatement := { s with cursor := s.cursor.takeRow.2 }

theorem fetch_perform (shape : RowShape) (s : PlainStatement) (env : Environment) :
    (fetch shape).perform s env =
      { result := s.cursor.takeRow.1.map (shape.answer s.cursor.columns)
        state := s.behindRow
        environment := env.observe (.fetchOne s.cursor.number) } := by
  obtain ⟨-, hcolumns, -⟩ := s.cursor.takeRow_spec
  have hasked : (onCursor Cursor.fetchOne).perform s env =
      { result := s.cursor.takeRow.1
        state := s.behindRow
        environment := env.observe (.fetchOne s.cursor.number) } := rfl
  unfold fetch
  rw [Action.perform_bind, hasked]
  cases s.cursor.takeRow.1 with
  | error e => rfl
  | ok row =>
    cases row with
    | none => rfl
    | some row =>
      simp only [Outcome.andThen_ok, Action.perform_bind, Action.perform_state,
        Action.perform_pure, behindRow, hcolumns]
      rfl

theorem fetchAll_perform (shape : RowShape) (s : PlainStatement) (env : Environment) :
    (fetchAll shape).perform s env =
      { result := s.cursor.takeRows.1.map fun rows => rows.map (shape.row s.cursor.columns)
        state := { s with cursor := s.cursor.takeRows.2 }
        environment := env.observe (.fetchAll s.cursor.number) } := by
  obtain ⟨-, hcolumns, -⟩ := s.cursor.takeRows_spec
  have hasked : (onCursor Cursor.fetchAll).perform s env =
      { result := s.cursor.takeRows.1
        state := { s with cursor := s.cursor.takeRows.2 }
        environment := env.observe (.fetchAll s.cursor.number) } := rfl
  unfold fetchAll
  rw [Action.perform_bind, hasked]
  cases s.cursor.takeRows.1 with
  | error e => rfl
  | ok rows =>
    simp only [Outcome.andThen_ok, Action.perform_bind, Action.perform_state,
      Action.perform_pure, hcolumns]
    rfl

end PlainStatement

/-! ### The buffer -/

namespace InnerStatement

theorem fetchFrom_plain (shape : RowShape) (s : PlainStatement) (env : Environment) :
    fetchFrom shape (.plain s) env =
      { result := s.cursor.takeRow.1.map (shape.answer s.cursor.columns)
        state := .plain s.behindRow
        environment := env.observe (.fetchOne s.cursor.number) } := by
  unfold fetchFrom
  rw [PlainStatement.fetch_perform]

/-- What a call for a row comes to, at a buffer that has not found the end. -/
inductive Pulls (shape : RowShape) (s : PlainStatement) (buffer : Buffer) (env : Environment) :
    InnerStatement → Environment → Prop where
  | fails : Pulls shape s buffer env (.buffered (.plain s.behindRow) buffer)
      (env.observe (.fetchOne s.cursor.number))
  | ends : Pulls shape s buffer env (.buffered (.plain s.behindRow) buffer.completed)
      ((env.observe (.fetchOne s.cursor.number)).observe (.close s.cursor.number))
  | takes {row : List Value} {kept : List Value} {shelf : Shelf}
      (taken : row ∈ s.cursor.rows)
      (kept_eq : ∀ r ∈ kept, env.shelf.kept shape s.cursor.columns row = .ok r) :
      Pulls shape s buffer env
        (.buffered (.plain s.behindRow)
          { buffer with progress := .reading, rows := buffer.rows ++ kept })
        { env.observe (.fetchOne s.cursor.number) with shelf }

theorem fetchFrom_pulls (shape : RowShape) (s : PlainStatement) {buffer : Buffer}
    (env : Environment) (hreading : buffer.isComplete = false) :
    Pulls shape s buffer env (fetchFrom shape (.buffered (.plain s) buffer) env).state
      (fetchFrom shape (.buffered (.plain s) buffer) env).environment := by
  obtain ⟨hnumber, -, -⟩ := s.cursor.takeRow_spec
  have hclosed : ∀ reached : Environment, closeFrom (.plain s.behindRow) reached =
      { result := .ok ()
        state := .plain s.behindRow
        environment := reached.observe (.close s.cursor.number) } := by
    intro reached
    rw [← hnumber]
    rfl
  unfold fetchFrom
  rw [fetchFrom_plain, hreading]
  cases htaken : s.cursor.takeRow.1 with
  | error e => exact .fails
  | ok row? =>
    cases row? with
    | none =>
      simp only [Except.map, RowShape.answer, Bool.false_eq_true, if_false, hclosed]
      exact .ends
    | some row =>
      have hmem := Cursor.mem_of_takeRow htaken
      simp only [Except.map, RowShape.answer, Bool.false_eq_true, if_false]
      -- a row without values counts as the end
      cases htruthy : (shape.row s.cursor.columns row).truthy with
      | false =>
        simp only [Bool.not_false, if_true, hclosed]
        exact .ends
      | true =>
        simp only [Bool.not_true, Bool.false_eq_true, if_false]
        cases hread : (shape.row s.cursor.columns row).readLobs.run.run env.shelf with
        | mk result shelf =>
          have hread' : (shape.row s.cursor.columns row).readLobs.run.run
              (env.observe (.fetchOne s.cursor.number)).shelf = (result, shelf) := hread
          rw [hread']
          cases result with
          | error e =>
            have hpulls : Pulls shape s buffer env
                (.buffered (.plain s.behindRow)
                  { buffer with progress := .reading, rows := buffer.rows ++ [] })
                { env.observe (.fetchOne s.cursor.number) with shelf } := .takes hmem nofun
            rw [List.append_nil] at hpulls
            exact hpulls
          | ok r =>
            refine .takes hmem fun r' hr' => ?_
            rw [List.mem_singleton.1 hr', Shelf.kept, hread]

end InnerStatement

end OracleCatalog
