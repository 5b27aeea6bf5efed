import OracleCatalog.Proofs.Session.Agreement
import OracleCatalog.Proofs.Statement.Tracking

/-!
# Bindings and the text of a statement

What is bound does not depend on the text of the statement, nor on what the database answers. So two
statements with the same bindings have the same ones after every request that binds, and executing
both fails in the same way before anything is sent, or sends the same values.
-/

namespace OracleCatalog

open OracleCatalog.Action (Agree)

variable {sql sql' : String} {E : Environment → Environment → Prop}

/-! ### Statements on a cursor -/

/-- Statements of two texts with the same bindings. -/
structure PlainStatement.SameBindings (sql sql' : String) (s t : PlainStatement) : Prop where
  bindings_eq : s.bindings = t.bindings
  left : s.sql = sql
  right : t.sql = sql'

theorem PlainStatement.sameBindings_bindValue (placeholder value : Value) :
    Agree E (SameBindings sql sql') Eq (bindValue placeholder value)
      (bindValue placeholder value) := by
  refine Action.agree_bind Action.agree_state fun s t hst => ?_
  rw [hst.bindings_eq]
  refine Action.agree_bind_eq (Action.agree_ofExcept (Error.agree_refl _)) fun bindings => ?_
  exact Action.agree_change fun s t hst => ⟨rfl, hst.left, hst.right⟩

theorem PlainStatement.execute_null_perform (statement : PlainStatement) (env : Environment) :
    (execute .null).perform statement env =
      (onCursor (Cursor.execute statement.sql statement.bindings.sent)).perform statement env := rfl

theorem Cursor.execute_keeps (sql : String) (parameters : Value) (cursor : Cursor)
    (env : Environment) :
    ((Cursor.execute sql parameters).perform cursor env).environment.events =
        env.events ++ [.execute cursor.number sql parameters] ∧
      ((Cursor.execute sql parameters).perform cursor env).environment.clock = env.clock := by
  unfold Cursor.execute
  rw [Action.perform_ofFunction]
  simp only [Environment.takeReply, Environment.observe]
  cases (env.answering.reply sql parameters).1.failure with
  | some fault => exact ⟨rfl, rfl⟩
  | none => exact ⟨rfl, rfl⟩

namespace PreparedStatement

/-- Prepared statements of two texts with the same bindings. -/
structure SameBindings (sql sql' : String) (s t : PreparedStatement) : Prop where
  bound_eq : s.bound = t.bound
  offset_eq : s.offset = t.offset
  placeholders_eq : s.placeholders = t.placeholders
  base : PlainStatement.SameBindings sql sql' s.inner.base t.inner.base
  left : s.ownText = none
  right : t.ownText = none

/-- Environments that have not changed. -/
def Still (env env' reached reached' : Environment) : Prop := reached = env ∧ reached' = env'

variable {s t u : PreparedStatement} {env env' : Environment}

theorem SameBindings.symm (h : SameBindings sql sql' s t) : SameBindings sql' sql t s :=
  ⟨h.bound_eq.symm, h.offset_eq.symm, h.placeholders_eq.symm,
    ⟨h.base.bindings_eq.symm, h.base.right, h.base.left⟩, h.right, h.left⟩

theorem SameBindings.trans {sql'' : String} (h : SameBindings sql sql' s t)
    (h' : SameBindings sql' sql'' t u) : SameBindings sql sql'' s u :=
  ⟨h.bound_eq.trans h'.bound_eq, h.offset_eq.trans h'.offset_eq,
    h.placeholders_eq.trans h'.placeholders_eq,
    ⟨h.base.bindings_eq.trans h'.base.bindings_eq, h.base.left, h'.base.right⟩, h.left, h'.right⟩

theorem SameBindings.refl_left (h : SameBindings sql sql' s t) : SameBindings sql sql s s :=
  h.trans h.symm

theorem SameBindings.text_eq (h : SameBindings sql sql' s t) : s.text = sql := by
  rw [text, h.left]
  exact h.base.left

/-! ### Binding -/

theorem agree_onBase {α : Type} {action : Action PlainStatement α}
    (h : Agree E (PlainStatement.SameBindings sql sql') Eq action action) :
    Agree E (SameBindings sql sql') Eq (onInner (InnerStatement.onBase action))
      (onInner (InnerStatement.onBase action)) := by
  have hinner : Agree E (fun s t => PlainStatement.SameBindings sql sql' s.base t.base) Eq
      (InnerStatement.onBase action) (InnerStatement.onBase action) := by
    refine Action.agree_within (fun s t hst => hst) (fun s t base base' _ hbase => ?_) h
    rw [InnerStatement.base_withBase, InnerStatement.base_withBase]
    exact hbase
  refine Action.agree_within (fun s t hst => hst.base) (fun s t inner inner' hst hbase => ?_) hinner
  exact ⟨hst.bound_eq, hst.offset_eq, hst.placeholders_eq, hbase, hst.left, hst.right⟩

theorem agree_bindValue (placeholder value type : Value) :
    Agree E (SameBindings sql sql') Eq (bindValue placeholder value type)
      (bindValue placeholder value type) := by
  refine Action.agree_bind Action.agree_state fun s t hst => ?_
  have hrenamed : s.renamed placeholder = t.renamed placeholder := by
    rw [renamed, renamed, hst.placeholders_eq]
  rw [hrenamed]
  refine Action.agree_bind_eq (Action.agree_ofExcept (Error.agree_refl _)) fun final => ?_
  refine Action.agree_bind_eq (Action.agree_ofExcept (Error.agree_refl _)) fun value => ?_
  refine Action.agree_bind_eq (Action.agree_ofExcept (Error.agree_refl _)) fun key => ?_
  refine Action.agree_bind_eq (Action.agree_change fun s t hst => ?_) fun _ => ?_
  · exact ⟨congrArg (·.put key value) hst.bound_eq, hst.offset_eq, hst.placeholders_eq, hst.base,
      hst.left, hst.right⟩
  · exact agree_onBase (PlainStatement.sameBindings_bindValue key value)

theorem agree_bindEach (positional : Bool) (types : Value) (placements : Entries) :
    Agree E (SameBindings sql sql') Eq (bindEach positional types placements)
      (bindEach positional types placements) := by
  induction placements with
  | nil => exact Action.agree_pure rfl
  | cons placement rest ih =>
    obtain ⟨placeholder, value⟩ := placement
    refine Action.agree_bind_eq ?_ fun _ => ih
    refine Action.agree_bind_eq (Action.agree_ofExcept (Error.agree_refl _)) fun type => ?_
    cases positional with
    | false => exact agree_bindValue placeholder value type
    | true =>
      refine Action.agree_bind Action.agree_state fun s t hst => ?_
      rw [hst.offset_eq]
      exact Action.agree_bind_eq (Action.agree_ofExcept (Error.agree_refl _)) fun shifted =>
        agree_bindValue shifted value type

theorem agree_bind (parameters types : Value) :
    Agree E (SameBindings sql sql') Eq (bind parameters types) (bind parameters types) := by
  unfold bind
  cases parameters.truthy with
  | false => exact Action.agree_pure rfl
  | true =>
    refine Action.agree_bind_eq (Action.agree_ofExcept (Error.agree_refl _)) fun placements => ?_
    refine Action.agree_bind_eq (agree_bindEach _ types placements) fun _ => ?_
    cases arePositions placements with
    | false => exact Action.agree_pure rfl
    | true =>
      exact Action.agree_change fun s t hst => ⟨hst.bound_eq,
        congrArg (· + placements.length) hst.offset_eq, hst.placeholders_eq, hst.base, hst.left,
        hst.right⟩

theorem agree_clearBindings :
    Agree E (SameBindings sql sql') Eq clearBindings clearBindings := by
  refine Action.agree_bind_eq (Action.agree_change fun s t hst => ?_) fun _ => agree_onBase ?_
  · exact ⟨rfl, rfl, hst.placeholders_eq, hst.base, hst.left, hst.right⟩
  · exact Action.agree_change fun s t hst => ⟨rfl, hst.left, hst.right⟩

/-! ### Executing -/

theorem sameBindings_released (h : SameBindings sql sql s s) :
    SameBindings sql sql s.released s := by
  unfold released
  split
  · refine ⟨rfl, rfl, rfl, ?_, h.left, h.right⟩
    rw [InnerStatement.base_unwrapped]
    exact h.base
  · exact h

/-- Wrapping the inner statement into a buffer, or taking it out, leaves the bindings alone. -/
theorem prepareBuffer_keeps (h : SameBindings sql sql s s) (env : Environment) :
    (prepareBuffer.perform s env).result = .ok () ∧
      SameBindings sql sql (prepareBuffer.perform s env).state s ∧
      (prepareBuffer.perform s env).environment.events = env.events ∧
      (prepareBuffer.perform s env).environment.clock = env.clock := by
  obtain ⟨hbound, hoffset, hplaceholders, hbase, hleft, hright⟩ := sameBindings_released h
  unfold prepareBuffer
  rw [Action.perform_bind, Action.perform_change, Outcome.andThen_ok, Action.perform_bind,
    Action.perform_state, Outcome.andThen_ok]
  cases s.released.buffering.truthy with
  | true => exact ⟨rfl, ⟨hbound, hoffset, hplaceholders, hbase, hleft, hright⟩, rfl, rfl⟩
  | false => exact ⟨rfl, ⟨hbound, hoffset, hplaceholders, hbase, hleft, hright⟩, rfl, rfl⟩

/-- What an execution sends to the database once its values are bound. -/
def send : Action PreparedStatement Unit := onInner (InnerStatement.execute .null)

theorem send_perform (s : PreparedStatement) (env : Environment) :
    send.perform s env =
      { result := ((PlainStatement.execute .null).perform s.inner.emptied.base env).result
        state :=
          { s with
            inner := s.inner.emptied.withBase
              ((PlainStatement.execute .null).perform s.inner.emptied.base env).state }
        environment :=
          ((PlainStatement.execute .null).perform s.inner.emptied.base env).environment } := rfl

theorem send_sends (s : PreparedStatement) (env : Environment) :
    (send.perform s env).environment.events = env.events ++
      [.execute s.inner.base.cursor.number s.inner.base.sql s.inner.base.bindings.sent] := by
  have hsent := Cursor.execute_keeps s.inner.base.sql s.inner.base.bindings.sent
    s.inner.base.cursor env
  rw [send_perform, InnerStatement.base_emptied]
  exact hsent.1

/-- Sending executes the text once, with the values that are bound on the cursor. -/
theorem send_spec (h : SameBindings sql sql s s) (env : Environment) :
    SameBindings sql sql (send.perform s env).state s ∧
      (send.perform s env).environment.clock = env.clock ∧
      (send.perform s env).environment.events = env.events ++
        [.execute s.inner.base.cursor.number sql s.inner.base.bindings.sent] := by
  obtain ⟨-, hclock⟩ := Cursor.execute_keeps s.inner.base.sql s.inner.base.bindings.sent
    s.inner.base.cursor env
  have hsends := send_sends s env
  rw [h.base.left] at hsends
  rw [send_perform, InnerStatement.base_emptied, PlainStatement.execute_null_perform,
    PlainStatement.onCursor, Action.perform_within] at hsends ⊢
  refine ⟨⟨rfl, rfl, rfl, ?_, h.left, h.right⟩, hclock, hsends⟩
  dsimp only
  rw [InnerStatement.base_withBase]
  exact ⟨rfl, h.base.left, h.base.right⟩

/-- What an execution binds: its own parameters, if it has any, in the place of everything else. -/
def rebind (parameters : Value) : Action PreparedStatement Unit := do
  if parameters.truthy then
    clearBindings
    bind parameters .null

theorem agree_rebind (parameters : Value) :
    Agree E (SameBindings sql sql') Eq (rebind parameters) (rebind parameters) := by
  unfold rebind
  cases parameters.truthy with
  | false => exact Action.agree_pure rfl
  | true => exact Action.agree_bind_eq agree_clearBindings fun _ => agree_bind parameters .null

theorem execute_perform (parameters : Value) {s : PreparedStatement} {env : Environment}
    (hprepared : (prepareBuffer.perform s env).result = .ok ()) :
    (execute parameters).perform s env =
      ((rebind parameters).perform (prepareBuffer.perform s env).state
        (prepareBuffer.perform s env).environment).andThen fun _ => send := by
  unfold execute rebind
  rw [Action.perform_bind]
  conv => lhs; unfold Outcome.andThen
  rw [hprepared]
  cases parameters.truthy with
  | false => rfl
  | true =>
    show (clearBindings >>= fun _ => bind parameters .null >>= fun _ => send).perform _ _ = _
    rw [← Action.perform_bind]
    rfl

/-- Statements with the same bindings fail together before anything is sent, or send the same. -/
theorem execute_cases (parameters : Value) (hst : SameBindings sql sql' s t)
    (env env' : Environment) :
    ∃ s₁ t₁ env₁ env₁', SameBindings sql sql' s₁ t₁ ∧
      (env₁.events = env.events ∧ env₁.clock = env.clock) ∧
      (env₁'.events = env'.events ∧ env₁'.clock = env'.clock) ∧
      ((execute parameters).perform s env = send.perform s₁ env₁ ∧
          (execute parameters).perform t env' = send.perform t₁ env₁' ∨
        ∃ e, (execute parameters).perform s env =
            { result := .error e, state := s₁, environment := env₁ } ∧
          (execute parameters).perform t env' =
            { result := .error e, state := t₁, environment := env₁' }) := by
  obtain ⟨hs, hsame, hevents, hclock⟩ := prepareBuffer_keeps hst.refl_left env
  obtain ⟨ht, hsame', hevents', hclock'⟩ := prepareBuffer_keeps hst.symm.refl_left env'
  rw [execute_perform parameters hs, execute_perform parameters ht]
  generalize prepareBuffer.perform s env = o at *
  generalize prepareBuffer.perform t env' = o' at *
  obtain ⟨hresult, hstate, henv, henv'⟩ :=
    agree_rebind (E := Still o.environment o'.environment) parameters o.state o'.state
      o.environment o'.environment (hsame.trans (hst.trans hsame'.symm)) ⟨rfl, rfl⟩
  have heq := hresult.eq
  generalize (rebind parameters).perform o.state o.environment = b at *
  generalize (rebind parameters).perform o'.state o'.environment = b' at *
  obtain ⟨result, s₁, env₁⟩ := b
  obtain ⟨_, t₁, env₁'⟩ := b'
  obtain rfl := henv
  obtain rfl := henv'
  obtain rfl := heq
  refine ⟨s₁, t₁, o.environment, o'.environment, hstate, ⟨hevents, hclock⟩, ⟨hevents', hclock'⟩, ?_⟩
  cases result with
  | ok _ => exact .inl ⟨rfl, rfl⟩
  | error e => exact .inr ⟨e, rfl, rfl⟩

end PreparedStatement

end OracleCatalog
