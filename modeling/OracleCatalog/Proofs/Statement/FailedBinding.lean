import OracleCatalog.Proofs.Statement.Placing
import OracleCatalog.Proofs.Statement.Sending

/-!
# What a failed call leaves bound

A call that fails takes nothing back. The values in front of the one that it fails at stay bound,
while the positions of later calls are counted as if it had not been made. What is left is sent by
an execution without parameters, and forgotten by one with parameters of its own.
-/

namespace OracleCatalog

theorem InnerStatement.unwrapped_withBase (s : PlainStatement) (inner : InnerStatement) :
    (inner.withBase s).unwrapped = inner.unwrapped.withBase s := by
  cases inner <;> rfl

namespace PreparedStatement

variable {parameters types : Value} {s : PreparedStatement} {env : Environment}

/-! ### Where a call fails -/

/-- A call fails because its parameters stand for no values, or at one of these. -/
inductive Fails (s : PreparedStatement) (parameters types : Value) (e : Error) :
    Entries → Bindings → Option (Value × Value) → Prop where
  | unreadable (placements_eq : parameters.placements = .error e) :
      Fails s parameters types e [] s.inner.base.bindings none
  | stopped {placements front : Entries} {bindings : Bindings} {refused : Option (Value × Value)}
      (placements_eq : parameters.placements = .ok placements)
      (stops : Stops s (arePositions placements) types placements front bindings e refused) :
      Fails s parameters types e front bindings refused

theorem exists_fails_of_bind {e : Error}
    (h : ((bind parameters types).perform s env).result = .error e) :
    ∃ front bindings refused, Fails s parameters types e front bindings refused ∧
      (bind parameters types).perform s env =
        { result := .error e
          state := s.holding (front ++ refused.toList) bindings
          environment := env } := by
  cases htruthy : parameters.truthy with
  | false =>
    rw [bind_perform_of_not_truthy htruthy] at h
    cases h
  | true =>
    cases hplacements : parameters.placements with
    | error e' =>
      have hbind : (bind parameters types).perform s env =
          { result := .error e', state := s, environment := env } := by
        unfold bind
        rw [htruthy, hplacements]
        rfl
      rw [hbind] at h
      obtain rfl := Except.error.inj h
      refine ⟨[], _, none, .unreadable hplacements, ?_⟩
      rw [hbind]
      exact congrArg (Outcome.mk _ · env) s.holding_nil.symm
    | ok placements =>
      rw [bind_perform htruthy hplacements] at h ⊢
      obtain ⟨values, bindings, hvalues, hbound⟩ |
        ⟨front, bindings, e', refused, hstops, hperform⟩ :=
        bindEach_cases s (arePositions placements) types placements env
      · rw [bindEach_perform hvalues hbound, Outcome.andThen_ok] at h
        split at h <;> cases h
      · rw [hperform] at h ⊢
        obtain rfl := Except.error.inj h
        exact ⟨front, bindings, refused, .stopped hplacements hstops, rfl⟩

/-! ### Executions behind it -/

theorem released_holding (s : PreparedStatement) (values : Entries) (bindings : Bindings) :
    (s.holding values bindings).released = s.released.holding values bindings := by
  cases hwrapping : s.wrapping == .buffered with
  | true =>
    have h : (s.holding values bindings).wrapping == .buffered := hwrapping
    unfold released
    rw [if_pos h, if_pos hwrapping]
    unfold holding
    rw [InnerStatement.unwrapped_withBase, InnerStatement.base_unwrapped]
  | false =>
    have h : ¬ (s.holding values bindings).wrapping == .buffered := by
      rw [Bool.not_eq_true]
      exact hwrapping
    unfold released
    rw [if_neg h, if_neg (Bool.eq_false_iff.1 hwrapping)]

theorem prepareBuffer_holding (s : PreparedStatement) (values : Entries) (bindings : Bindings)
    (env : Environment) :
    prepareBuffer.perform (s.holding values bindings) env =
      { result := (prepareBuffer.perform s env).result
        state := (prepareBuffer.perform s env).state.holding values bindings
        environment := (prepareBuffer.perform s env).environment } := by
  have hbuffering : (s.released.holding values bindings).buffering = s.released.buffering := rfl
  unfold prepareBuffer
  rw [Action.perform_bind, Action.perform_bind, Action.perform_change, Action.perform_change,
    Outcome.andThen_ok, Outcome.andThen_ok, Action.perform_bind, Action.perform_bind,
    Action.perform_state, Action.perform_state, Outcome.andThen_ok, Outcome.andThen_ok,
    released_holding, hbuffering]
  split <;> rfl

theorem clearBindings_holding (s : PreparedStatement) (values : Entries) (bindings : Bindings)
    (env : Environment) :
    clearBindings.perform (s.holding values bindings) env = clearBindings.perform s env := by
  unfold clearBindings onInner InnerStatement.onBase holding
  rw [Action.perform_bind, Action.perform_bind, Action.perform_change, Action.perform_change,
    Outcome.andThen_ok, Outcome.andThen_ok, Action.perform_within, Action.perform_within,
    Action.perform_within, Action.perform_within, InnerStatement.base_withBase]
  dsimp only
  rw [InnerStatement.withBase_withBase]
  rfl

/-- What is bound before does not matter to an execution with parameters of its own. -/
theorem execute_holding (htruthy : parameters.truthy = true) (s : PreparedStatement)
    (values : Entries) (bindings : Bindings) (env : Environment) :
    (execute parameters).perform (s.holding values bindings) env =
      (execute parameters).perform s env := by
  obtain ⟨hprepared, -⟩ := prepareBuffer_base s env
  have hrebind : rebind parameters = (clearBindings >>= fun _ => bind parameters .null) := by
    unfold rebind
    rw [htruthy, if_pos rfl]
  have hholding : (prepareBuffer.perform (s.holding values bindings) env).result = .ok () := by
    rw [prepareBuffer_holding, hprepared]
  rw [execute_perform parameters hprepared, execute_perform parameters hholding,
    prepareBuffer_holding, hrebind, Action.perform_bind, Action.perform_bind,
    clearBindings_holding]

/-- Two places, of which the second takes a truth value. -/
def flagged : PreparedStatement :=
  { inner := .plain { cursor := { number := 0 }, sql := "BEGIN P(?, ?); END;" } }

/-- The second value is no truth value. -/
def flaggedBind : Action PreparedStatement Unit :=
  bind (.list [.text "a", .list []]) (.list [.null, .text "boolean"])

end PreparedStatement

end OracleCatalog
