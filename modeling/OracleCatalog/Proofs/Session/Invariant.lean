import OracleCatalog.Proofs.Session.Perform

/-!
# Invariants of actions

An action keeps a property of states when the property holds wherever the action ends, whether it
succeeds or fails. What every part of an action keeps, the action keeps, and so does a run.

A quiet action adds no event and opens no cursor, wherever it starts and however it ends. Binding,
reading large objects and writing records are quiet.
-/

namespace OracleCatalog.Action

variable {σ τ α β : Type} {I : σ → Prop}

def Keeps (I : σ → Prop) (action : Action σ α) : Prop :=
  ∀ s env, I s → I (action.perform s env).state

theorem keeps_pure (a : α) : Keeps I (pure a) := fun _ _ h => h

theorem keeps_throw (e : Error) : Keeps I (throw e : Action σ α) := fun _ _ h => h

theorem keeps_ofExcept (outcome : Except Error α) : Keeps I (ofExcept outcome) := fun _ _ h => h

theorem keeps_note (channel : Channel) (level : Level) (text : String) :
    Keeps I (note channel level text) := fun _ _ h => h

theorem keeps_ofReading (reading : Reading α) : Keeps I (ofReading reading) := fun _ _ h => h

theorem keeps_ofNoted (noted : Noted α) : Keeps I (ofNoted noted) := fun _ _ h => h

theorem keeps_onEnvironment (f : Environment → α × Environment) : Keeps I (onEnvironment f) :=
  fun _ _ h => h

theorem keeps_attempt {action : Action σ α} (h : Keeps I action) : Keeps I action.attempt :=
  fun s env hs => h s env hs

theorem keeps_change {f : σ → σ} (h : ∀ s, I s → I (f s)) : Keeps I (change f) :=
  fun s _ hs => h s hs

theorem keeps_bind {action : Action σ α} {next : α → Action σ β} (h : Keeps I action)
    (hnext : ∀ a, Keeps I (next a)) : Keeps I (action >>= next) := by
  intro s env hs
  have hreached := h s env hs
  rw [perform_bind]
  unfold Outcome.andThen
  cases (action.perform s env).result with
  | ok a => exact hnext a _ _ hreached
  | error e => exact hreached

theorem keeps_ofExcept_bind {outcome : Except Error α} {next : α → Action σ β}
    (h : ∀ a, outcome = .ok a → Keeps I (next a)) : Keeps I (ofExcept outcome >>= next) := by
  intro s env hs
  rw [perform_bind, perform_ofExcept]
  cases outcome with
  | ok a => exact h a rfl s env hs
  | error e => exact hs

/-- The state that is read has the property. -/
theorem keeps_state_bind {next : σ → Action σ β} (h : ∀ s, I s → Keeps I (next s)) :
    Keeps I (state >>= next) := by
  intro s env hs
  rw [perform_bind, perform_state, Outcome.andThen_ok]
  exact h s hs s env hs

theorem keeps_reading (f : σ → α) : Keeps I (state >>= fun s => pure (f s)) :=
  keeps_state_bind fun _ _ => keeps_pure _

theorem keeps_within {J : τ → Prop} {part : σ → τ} {replace : τ → σ → σ} {action : Action τ α}
    (h : Keeps J action) (hpart : ∀ s, I s → J (part s))
    (hreplace : ∀ s t, I s → J t → I (replace t s)) : Keeps I (action.within part replace) :=
  fun s env hs => hreplace s _ hs (h (part s) env (hpart s hs))

/-- What every step of a run keeps holds after every step. -/
theorem keeps_outcomes {actions : List (Action σ α)} (h : ∀ action ∈ actions, Keeps I action)
    {s : σ} (hs : I s) (env : Environment) : ∀ o ∈ outcomes actions s env, I o.state := by
  induction actions generalizing s env with
  | nil =>
    intro o ho
    cases ho
  | cons action rest ih =>
    have hstep := h action List.mem_cons_self s env.nextStep hs
    intro o ho
    rcases List.mem_cons.1 ho with rfl | ho
    · exact hstep
    · exact ih (fun a ha => h a (List.mem_cons_of_mem _ ha)) hstep _ o ho

/-- A step of a run starts in a state that the steps before it have kept. -/
theorem exists_perform_of_outcomes {actions : List (Action σ α)}
    (h : ∀ action ∈ actions, Keeps I action) {s : σ} (hs : I s) {env : Environment} {i : Nat}
    {action : Action σ α} {o : Outcome σ α} (haction : actions[i]? = some action)
    (ho : (outcomes actions s env)[i]? = some o) :
    ∃ reached env', I reached ∧ o = action.perform reached (Environment.nextStep env') := by
  induction actions generalizing s env i with
  | nil => cases haction
  | cons first rest ih =>
    have hstep := h first List.mem_cons_self s env.nextStep hs
    cases i with
    | zero =>
      cases haction
      cases ho
      exact ⟨s, env, hs, rfl⟩
    | succ i => exact ih (fun a ha => h a (List.mem_cons_of_mem _ ha)) hstep haction ho

theorem keeps_until {actions : List (Action σ α)} {j : Nat}
    (h : ∀ k action, k ≤ j → actions[k]? = some action → Keeps I action) {s : σ} (hs : I s)
    {env : Environment} {o : Outcome σ α} (ho : (outcomes actions s env)[j]? = some o) :
    I o.state := by
  induction actions generalizing s env j with
  | nil => cases ho
  | cons first rest ih =>
    have hstep := h 0 first (Nat.zero_le j) rfl s env.nextStep hs
    cases j with
    | zero =>
      cases ho
      exact hstep
    | succ j =>
      refine ih (fun k action hk haction => ?_) hstep ho
      exact h (k + 1) action (Nat.succ_le_succ hk) haction

/-- What holds behind one step of a run holds behind a later one, when the steps that come after the
first keep it. -/
theorem keeps_between {actions : List (Action σ α)} {i j : Nat} (hij : i ≤ j)
    (h : ∀ k action, i < k → k ≤ j → actions[k]? = some action → Keeps I action) {s : σ}
    {env : Environment} {o o' : Outcome σ α} (ho : (outcomes actions s env)[i]? = some o)
    (ho' : (outcomes actions s env)[j]? = some o') (hstart : I o.state) : I o'.state := by
  induction actions generalizing s env i j with
  | nil => cases ho
  | cons first rest ih =>
    cases j with
    | zero =>
      obtain rfl := Nat.le_zero.1 hij
      cases ho
      cases ho'
      exact hstart
    | succ j =>
      cases i with
      | zero =>
        cases ho
        refine keeps_until (fun k action hk haction => ?_) hstart ho'
        exact h (k + 1) action (Nat.succ_pos k) (Nat.succ_le_succ hk) haction
      | succ i =>
        refine ih (Nat.le_of_succ_le_succ hij) (fun k action hik hkj haction => ?_) ho ho'
        exact h (k + 1) action (Nat.succ_lt_succ hik) (Nat.succ_le_succ hkj) haction

/-! ### Actions that ask nothing of the database -/

def Quiet (action : Action σ α) : Prop :=
  ∀ s env, (action.perform s env).environment.events = env.events ∧
    (action.perform s env).environment.cursors = env.cursors

theorem quiet_pure (a : α) : Quiet (pure a : Action σ α) := fun _ _ => ⟨rfl, rfl⟩

theorem quiet_throw (e : Error) : Quiet (throw e : Action σ α) := fun _ _ => ⟨rfl, rfl⟩

theorem quiet_ofExcept (outcome : Except Error α) : Quiet (ofExcept outcome : Action σ α) :=
  fun _ _ => ⟨rfl, rfl⟩

theorem quiet_state : Quiet (state : Action σ σ) := fun _ _ => ⟨rfl, rfl⟩

theorem quiet_change (f : σ → σ) : Quiet (change f) := fun _ _ => ⟨rfl, rfl⟩

theorem quiet_note (channel : Channel) (level : Level) (text : String) :
    Quiet (note channel level text : Action σ Unit) := fun _ _ => ⟨rfl, rfl⟩

theorem quiet_ofNoted (noted : Noted α) : Quiet (ofNoted noted : Action σ α) :=
  fun _ _ => ⟨rfl, rfl⟩

theorem quiet_ofReading (reading : Reading α) : Quiet (ofReading reading : Action σ α) :=
  fun _ _ => ⟨rfl, rfl⟩

theorem quiet_onEnvironment {f : Environment → α × Environment}
    (h : ∀ env, (f env).2.events = env.events ∧ (f env).2.cursors = env.cursors) :
    Quiet (onEnvironment f : Action σ α) := fun _ env => h env

theorem quiet_reading (f : Environment → α) :
    Quiet (onEnvironment fun env => (f env, env) : Action σ α) := fun _ _ => ⟨rfl, rfl⟩

theorem quiet_update {f : Environment → Environment}
    (h : ∀ env, (f env).events = env.events ∧ (f env).cursors = env.cursors) :
    Quiet (onEnvironment fun env => ((), f env) : Action σ Unit) := fun _ env => h env

theorem quiet_bind {action : Action σ α} {next : α → Action σ β} (h : Quiet action)
    (hnext : ∀ a, Quiet (next a)) : Quiet (action >>= next) := by
  intro s env
  obtain ⟨hevents, hcursors⟩ := h s env
  rw [perform_bind]
  unfold Outcome.andThen
  cases (action.perform s env).result with
  | error e => exact ⟨hevents, hcursors⟩
  | ok a =>
    obtain ⟨hevents', hcursors'⟩ := hnext a (action.perform s env).state
      (action.perform s env).environment
    exact ⟨hevents'.trans hevents, hcursors'.trans hcursors⟩

theorem quiet_within {part : σ → τ} {replace : τ → σ → σ} {action : Action τ α}
    (h : Quiet action) : Quiet (action.within part replace) := fun s env => h (part s) env

end OracleCatalog.Action
