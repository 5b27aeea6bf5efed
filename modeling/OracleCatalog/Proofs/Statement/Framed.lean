import OracleCatalog.Proofs.Session.Agreement
import OracleCatalog.Proofs.Statement.BindingFrame

/-!
# What prepared statements do not look at

A prepared statement asks neither the clock nor what has been recorded. Whatever it is asked for, it
comes to the same when the clock is another one and other records stand before its own.
-/

namespace OracleCatalog

variable {σ τ α β : Type}

/-- The environment with another clock, and with records before its own. -/
def Environment.framed (clock : List Instant) (earlier : List Record) (env : Environment) :
    Environment :=
  { env with clock, records := earlier ++ env.records }

def Outcome.framed (clock : List Instant) (earlier : List Record) (o : Outcome σ α) :
    Outcome σ α :=
  { o with environment := o.environment.framed clock earlier }

namespace Action

/-- The action does not look at the clock and at earlier records, and leaves both as they are. -/
def Unaware (action : Action σ α) : Prop :=
  ∀ clock earlier, Agree (fun env env' => env' = env.framed clock earlier) Eq Eq action action

theorem Unaware.perform_framed {action : Action σ α} (h : Unaware action) (s : σ)
    (env : Environment) (clock : List Instant) (earlier : List Record) :
    action.perform s (env.framed clock earlier) = (action.perform s env).framed clock earlier := by
  obtain ⟨hresult, hstate, henv⟩ := h clock earlier s s env _ rfl rfl
  have hresult := hresult.eq
  generalize action.perform s env = o at *
  generalize action.perform s (env.framed clock earlier) = o' at *
  obtain ⟨result', s', env'⟩ := o'
  dsimp only at hresult hstate henv
  rw [← hresult, ← hstate, henv]
  rfl

theorem unaware_ofFunction {f : σ → Environment → Outcome σ α}
    (h : ∀ s env clock earlier, f s (env.framed clock earlier) = (f s env).framed clock earlier) :
    Unaware (ofFunction f) := by
  rintro clock earlier s _ env _ rfl rfl
  rw [perform_ofFunction, perform_ofFunction, h]
  exact ⟨Error.agree_refl _, rfl, rfl⟩

theorem unaware_pure (a : α) : Unaware (pure a : Action σ α) := fun _ _ => agree_pure rfl

theorem unaware_throw (e : Error) : Unaware (throw e : Action σ α) := fun _ _ => agree_throw e

theorem unaware_ofExcept (outcome : Except Error α) : Unaware (ofExcept outcome : Action σ α) :=
  fun _ _ => agree_ofExcept (Error.agree_refl outcome)

theorem unaware_state : Unaware (state : Action σ σ) := fun _ _ => agree_state

theorem unaware_change (f : σ → σ) : Unaware (change f) :=
  fun _ _ => agree_change fun _ _ h => congrArg f h

theorem unaware_bind {action : Action σ α} {next : α → Action σ β} (h : Unaware action)
    (hnext : ∀ a, Unaware (next a)) : Unaware (action >>= next) :=
  fun clock earlier => agree_bind_eq (h clock earlier) fun a => hnext a clock earlier

theorem unaware_within {part : σ → τ} {replace : τ → σ → σ} {action : Action τ α}
    (h : Unaware action) : Unaware (action.within part replace) := by
  refine fun clock earlier => agree_within ?_ ?_ (h clock earlier)
  · rintro s _ rfl
    rfl
  · rintro s _ t _ rfl rfl
    rfl

theorem unaware_returning {action : Action σ Unit} (h : Unaware action) (answer : α) :
    Unaware (do action; return answer) :=
  unaware_bind h fun _ => unaware_pure answer

/-- A record is written behind the earlier ones. -/
theorem unaware_note (channel : Channel) (level : Level) (text : String) :
    Unaware (note channel level text : Action σ Unit) := by
  rintro clock earlier s _ env _ rfl rfl
  have hnote : (env.framed clock earlier).note channel level text =
      (env.note channel level text).framed clock earlier := by
    unfold Environment.framed Environment.note
    rw [List.append_assoc]
  rw [perform_note, perform_note, hnote]
  exact ⟨rfl, rfl, rfl⟩

theorem unaware_observe (event : Event) : Unaware (observe event : Action σ Unit) :=
  unaware_ofFunction fun _ _ _ _ => rfl

theorem unaware_ofReading (reading : Reading α) : Unaware (ofReading reading : Action σ α) :=
  unaware_ofFunction fun _ _ _ _ => rfl

end Action

open OracleCatalog.Action (Unaware)

/-! ### The statement on the cursor -/

namespace PlainStatement

theorem unaware_executeCursor (sql : String) (parameters : Value) :
    Unaware (onCursor (Cursor.execute sql parameters)) := by
  refine Action.unaware_within (Action.unaware_ofFunction fun cursor env clock earlier => ?_)
  simp only [Environment.framed, Environment.observe, Environment.takeReply]
  split <;> rfl

theorem unaware_fetch (shape : RowShape) : Unaware (fetch shape) := by
  refine Action.unaware_bind (Action.unaware_within (Action.unaware_ofFunction ?_)) fun row => ?_
  · exact fun _ _ _ _ => rfl
  · cases row with
    | none => exact Action.unaware_pure _
    | some row => exact Action.unaware_bind Action.unaware_state fun _ => Action.unaware_pure _

theorem unaware_fetchAll (shape : RowShape) : Unaware (fetchAll shape) := by
  refine Action.unaware_bind (Action.unaware_within (Action.unaware_ofFunction ?_)) fun rows => ?_
  · exact fun _ _ _ _ => rfl
  · exact Action.unaware_bind Action.unaware_state fun _ => Action.unaware_pure _

theorem unaware_close : Unaware close := by
  unfold close onCursor
  refine Action.unaware_within ?_
  exact Action.unaware_bind Action.unaware_state fun _ => Action.unaware_observe _

theorem unaware_bindValue (placeholder value : Value) : Unaware (bindValue placeholder value) :=
  Action.unaware_bind Action.unaware_state fun _ =>
    Action.unaware_bind (Action.unaware_ofExcept _) fun _ => Action.unaware_change _

end PlainStatement

/-! ### Buffers -/

namespace InnerStatement

theorem unaware_onBase {action : Action PlainStatement α} (h : Unaware action) :
    Unaware (onBase action) :=
  Action.unaware_within h

theorem unaware_execute : Unaware (execute .null) := by
  refine Action.unaware_bind (Action.unaware_change _) fun _ => unaware_onBase ?_
  exact Action.unaware_bind Action.unaware_state fun s => PlainStatement.unaware_executeCursor _ _

theorem closeFrom_framed (st : InnerStatement) (env : Environment) (clock : List Instant)
    (earlier : List Record) :
    closeFrom st (env.framed clock earlier) = (closeFrom st env).framed clock earlier := by
  induction st with
  | plain s =>
    unfold closeFrom
    rw [PlainStatement.unaware_close.perform_framed]
    rfl
  | buffered inner buffer ih =>
    unfold closeFrom
    cases buffer.isComplete with
    | true => rfl
    | false =>
      rw [ih]
      rfl

theorem fetchFrom_framed (shape : RowShape) (st : InnerStatement) (env : Environment)
    (clock : List Instant) (earlier : List Record) :
    fetchFrom shape st (env.framed clock earlier) =
      (fetchFrom shape st env).framed clock earlier := by
  induction st with
  | plain s =>
    unfold fetchFrom
    rw [(PlainStatement.unaware_fetch shape).perform_framed]
    rfl
  | buffered inner buffer ih =>
    unfold fetchFrom
    cases buffer.isComplete with
    | true => rfl
    | false =>
      rw [ih]
      generalize fetchFrom shape inner env = fetched
      obtain ⟨result, st, reached⟩ := fetched
      cases result with
      | error e => rfl
      | ok row =>
        dsimp only [Outcome.framed]
        rw [closeFrom_framed]
        cases row.truthy with
        | false => rfl
        | true =>
          simp only [Environment.framed]
          cases row.readLobs.run.run reached.shelf with
          | mk read shelf => cases read <;> rfl

theorem unaware_close : Unaware close :=
  Action.unaware_ofFunction closeFrom_framed

theorem unaware_fetch (shape : RowShape) : Unaware (fetch shape) :=
  Action.unaware_ofFunction (fetchFrom_framed shape)

theorem unaware_drain (shape : RowShape) (bound : Nat) : Unaware (drain shape bound) := by
  induction bound with
  | zero => exact Action.unaware_pure ()
  | succ bound ih =>
    refine Action.unaware_bind Action.unaware_state fun st => ?_
    cases st.isComplete with
    | true => exact Action.unaware_pure ()
    | false => exact Action.unaware_bind (unaware_fetch shape) fun _ => ih

theorem unaware_fetchAll (shape : RowShape) : Unaware (fetchAll shape) := by
  refine Action.unaware_bind Action.unaware_state fun st => ?_
  cases st with
  | plain s => exact unaware_onBase (PlainStatement.unaware_fetchAll shape)
  | buffered inner buffer =>
    refine Action.unaware_bind (unaware_drain shape _) fun _ => ?_
    exact Action.unaware_bind Action.unaware_state fun _ => Action.unaware_pure _

end InnerStatement

/-! ### Prepared statements -/

namespace PreparedStatement

theorem unaware_onInner {action : Action InnerStatement α} (h : Unaware action) :
    Unaware (onInner action) :=
  Action.unaware_within h

theorem unaware_binding : BindingRules Unaware where
  pure := Action.unaware_pure ()
  state := Action.unaware_state
  ofExcept := Action.unaware_ofExcept
  bind := Action.unaware_bind
  shown := fun _ _ => Action.unaware_change _
  bindBase := fun placeholder value => unaware_onInner (InnerStatement.unaware_onBase
    (PlainStatement.unaware_bindValue placeholder value))
  clearBase := unaware_onInner (InnerStatement.unaware_onBase (Action.unaware_change _))

theorem unaware_prepareBuffer : Unaware prepareBuffer := by
  refine Action.unaware_bind (Action.unaware_change _) fun _ => ?_
  refine Action.unaware_bind Action.unaware_state fun s => ?_
  cases s.buffering.truthy with
  | true =>
    exact Action.unaware_bind (Action.unaware_change _) fun _ => Action.unaware_note _ _ _
  | false => exact Action.unaware_change _

theorem unaware_execute (parameters : Value) : Unaware (execute parameters) :=
  unaware_binding.execute unaware_prepareBuffer (unaware_onInner InnerStatement.unaware_execute)
    parameters

theorem unaware_fetch (shape : RowShape) : Unaware (fetch shape) :=
  Action.unaware_bind (unaware_onInner (InnerStatement.unaware_fetch shape)) fun _ =>
    Action.unaware_ofReading _

theorem unaware_fetchAll (shape : RowShape) : Unaware (fetchAll shape) :=
  Action.unaware_bind (unaware_onInner (InnerStatement.unaware_fetchAll shape)) fun _ =>
    Action.unaware_ofReading _

/-- Nothing that a prepared statement is asked for depends on the clock or on earlier records. -/
theorem unaware_answer (request : Request) : Unaware (answer request) := by
  cases request with
  | bind parameters types => exact Action.unaware_returning (unaware_binding.bindAll _ _) _
  | bindValue placeholder value type =>
    exact Action.unaware_returning (unaware_binding.bindValue _ _ _) _
  | execute parameters => exact Action.unaware_returning (unaware_execute parameters) _
  | fetch shape => exact unaware_fetch shape
  | fetchAll shape =>
    exact Action.unaware_bind (unaware_fetchAll shape) fun _ => Action.unaware_pure _
  | clearBindings => exact Action.unaware_returning unaware_binding.clearBindings _
  | close => exact Action.unaware_returning (unaware_onInner InnerStatement.unaware_close) _
  | rowCount => exact Action.unaware_bind Action.unaware_state fun _ => Action.unaware_pure _
  | text => exact Action.unaware_bind Action.unaware_state fun _ => Action.unaware_pure _
  | bound => exact Action.unaware_bind Action.unaware_state fun _ => Action.unaware_pure _
  | buffer wanted => exact Action.unaware_returning (Action.unaware_change _) _

end PreparedStatement

end OracleCatalog
