import OracleCatalog.Session.Action

/-!
# Performing actions

What performing comes to for every way of making an action, so that a longer action is performed by
rewriting: its parts one after the other, until one of them fails.
-/

namespace OracleCatalog

variable {σ τ α β : Type}

/-- What an action comes to that goes on after an outcome; a failure is kept. -/
def Outcome.andThen (outcome : Outcome σ α) (next : α → Action σ β) : Outcome σ β :=
  match outcome.result with
  | .ok a => (next a).perform outcome.state outcome.environment
  | .error e => { result := .error e, state := outcome.state, environment := outcome.environment }

namespace Outcome

@[simp] theorem andThen_ok (a : α) (s : σ) (env : Environment) (next : α → Action σ β) :
    andThen { result := .ok a, state := s, environment := env } next = (next a).perform s env := rfl

theorem andThen_of_ok {outcome : Outcome σ α} {a : α} (h : outcome.result = .ok a)
    (next : α → Action σ β) :
    outcome.andThen next = (next a).perform outcome.state outcome.environment := by
  unfold andThen
  rw [h]

@[simp] theorem andThen_error (e : Error) (s : σ) (env : Environment) (next : α → Action σ β) :
    andThen { result := .error e, state := s, environment := env } next =
      { result := .error e, state := s, environment := env } := rfl

theorem andThen_of_error {outcome : Outcome σ α} {e : Error} (h : outcome.result = .error e)
    (next : α → Action σ β) :
    outcome.andThen next =
      { result := .error e, state := outcome.state, environment := outcome.environment } := by
  unfold andThen
  rw [h]

theorem state_andThen_pure (outcome : Outcome σ α) (f : α → β) :
    (outcome.andThen fun a => pure (f a)).state = outcome.state := by
  obtain ⟨result, s, env⟩ := outcome
  cases result <;> rfl

theorem environment_andThen_pure (outcome : Outcome σ α) (f : α → β) :
    (outcome.andThen fun a => pure (f a)).environment = outcome.environment := by
  obtain ⟨result, s, env⟩ := outcome
  cases result <;> rfl

end Outcome

namespace Action

@[simp] theorem perform_pure (a : α) (s : σ) (env : Environment) :
    (pure a : Action σ α).perform s env = { result := .ok a, state := s, environment := env } := rfl

@[simp] theorem perform_throw (e : Error) (s : σ) (env : Environment) :
    (throw e : Action σ α).perform s env =
      { result := .error e, state := s, environment := env } := rfl

@[simp] theorem perform_bind (action : Action σ α) (next : α → Action σ β) (s : σ)
    (env : Environment) :
    (action >>= next).perform s env = (action.perform s env).andThen next := by
  unfold Outcome.andThen perform ExceptT.run StateT.run
  simp only [bind, ExceptT.bind, ExceptT.mk, StateT.bind, ExceptT.bindCont]
  cases action s env with
  | mk reached env' =>
    cases reached with
    | mk result s' => cases result <;> rfl

@[simp] theorem perform_map (f : α → β) (action : Action σ α) (s : σ) (env : Environment) :
    (f <$> action).perform s env = (action.perform s env).andThen fun a => pure (f a) := by
  rw [map_eq_pure_bind, perform_bind]

@[simp] theorem perform_ofFunction (f : σ → Environment → Outcome σ α) (s : σ)
    (env : Environment) : (ofFunction f).perform s env = f s env := rfl

@[simp] theorem perform_ofExcept (outcome : Except Error α) (s : σ) (env : Environment) :
    (ofExcept outcome : Action σ α).perform s env =
      { result := outcome, state := s, environment := env } := rfl

@[simp] theorem perform_state (s : σ) (env : Environment) :
    (state : Action σ σ).perform s env = { result := .ok s, state := s, environment := env } := rfl

@[simp] theorem perform_change (f : σ → σ) (s : σ) (env : Environment) :
    (change f).perform s env = { result := .ok (), state := f s, environment := env } := rfl

@[simp] theorem perform_onEnvironment (f : Environment → α × Environment) (s : σ)
    (env : Environment) :
    (onEnvironment f : Action σ α).perform s env =
      { result := .ok (f env).1, state := s, environment := (f env).2 } := rfl

@[simp] theorem perform_observe (event : Event) (s : σ) (env : Environment) :
    (observe event : Action σ Unit).perform s env =
      { result := .ok (), state := s, environment := env.observe event } := rfl

@[simp] theorem perform_note (channel : Channel) (level : Level) (text : String) (s : σ)
    (env : Environment) :
    (note channel level text : Action σ Unit).perform s env =
      { result := .ok (), state := s, environment := env.note channel level text } := rfl

@[simp] theorem perform_ofNoted (noted : Noted α) (s : σ) (env : Environment) :
    (ofNoted noted : Action σ α).perform s env =
      { result := noted.outcome.1
        state := s
        environment := { env with records := env.records ++ noted.outcome.2 } } := rfl

@[simp] theorem perform_ofReading (reading : Reading α) (s : σ) (env : Environment) :
    (ofReading reading : Action σ α).perform s env =
      { result := (reading.run.run env.shelf).1
        state := s
        environment := { env with shelf := (reading.run.run env.shelf).2 } } := rfl

@[simp] theorem perform_within (part : σ → τ) (replace : τ → σ → σ) (action : Action τ α) (s : σ)
    (env : Environment) :
    (action.within part replace).perform s env =
      { result := (action.perform (part s) env).result
        state := replace (action.perform (part s) env).state s
        environment := (action.perform (part s) env).environment } := rfl

@[simp] theorem perform_apart (s : τ) (action : Action τ α) (outer : σ) (env : Environment) :
    (apart s action : Action σ (Except Error α × τ)).perform outer env =
      { result := .ok ((action.perform s env).result, (action.perform s env).state)
        state := outer
        environment := (action.perform s env).environment } := rfl

@[simp] theorem perform_attempt (action : Action σ α) (s : σ) (env : Environment) :
    action.attempt.perform s env =
      { result := .ok (action.perform s env).result
        state := (action.perform s env).state
        environment := (action.perform s env).environment } := rfl

@[simp] theorem length_outcomes (actions : List (Action σ α)) (s : σ) (env : Environment) :
    (outcomes actions s env).length = actions.length := by
  induction actions generalizing s env with
  | nil => rfl
  | cons action rest ih => exact congrArg (· + 1) (ih _ _)

theorem outcomes_nextStep (actions : List (Action σ α)) (s : σ) (env : Environment) :
    outcomes actions s env.nextStep = outcomes actions s env := by
  cases actions with
  | nil => rfl
  | cons action rest => rfl

end Action

end OracleCatalog
