import OracleCatalog.Proofs.Session.Invariant

/-!
# Runs and their histories

Items are dealt with one after the other, each by an action of its own. The history of such a run
has every item with what it came to. What holds of the history and of what has been reached can be
gone on with, so that it is shown for one item and then holds of a run.
-/

namespace OracleCatalog.Action

variable {ι σ α : Type}

/-- Items with what they came to, in their order. -/
abbrev History (ι σ α : Type) := List (ι × Outcome σ α)

def history (act : ι → Action σ α) (items : List ι) (s : σ) (env : Environment) : History ι σ α :=
  items.zip (outcomes (items.map act) s env)

/-- The state and the environment behind actions that are performed one after the other. -/
def ending : List (Action σ α) → σ → Environment → σ × Environment
  | [], s, env => (s, env)
  | action :: actions, s, env =>
    let o := action.perform s env.nextStep
    ending actions o.state o.environment

theorem ending_append (first second : List (Action σ α)) (s : σ) (env : Environment) :
    ending (first ++ second) s env =
      ending second (ending first s env).1 (ending first s env).2 := by
  induction first generalizing s env with
  | nil => rfl
  | cons action rest ih => exact ih _ _

/-- What every step of a run keeps holds at its end. -/
theorem keeps_ending {I : σ → Prop} {actions : List (Action σ α)}
    (h : ∀ action ∈ actions, Keeps I action) {s : σ} (hs : I s) (env : Environment) :
    I (ending actions s env).1 := by
  induction actions generalizing s env with
  | nil => exact hs
  | cons action rest ih =>
    obtain ⟨haction, hrest⟩ := List.forall_mem_cons.1 h
    exact ih hrest (haction s env.nextStep hs) _

theorem outcomes_append (first second : List (Action σ α)) (s : σ) (env : Environment) :
    outcomes (first ++ second) s env =
      outcomes first s env ++ outcomes second (ending first s env).1 (ending first s env).2 := by
  induction first generalizing s env with
  | nil => rfl
  | cons action rest ih => exact congrArg (action.perform s env.nextStep :: ·) (ih _ _)

theorem getLast?_outcomes_concat (actions : List (Action σ α)) (last : Action σ α) (s : σ)
    (env : Environment) :
    (outcomes (actions ++ [last]) s env).getLast? =
      some (last.perform (ending actions s env).1 (ending actions s env).2.nextStep) := by
  rw [outcomes_append]
  exact List.getLast?_concat

/-- A run ends where its last action does. -/
theorem ending_of_getLast? {actions : List (Action σ α)} {s : σ} {env : Environment}
    {o : Outcome σ α} (ho : (outcomes actions s env).getLast? = some o) :
    ending actions s env = (o.state, o.environment) := by
  induction actions generalizing s env with
  | nil => cases ho
  | cons action rest ih =>
    cases rest with
    | nil =>
      cases ho
      rfl
    | cons second rest => exact ih (List.getLast?_cons_cons.symm.trans ho)

/-- One more item adds to the history what it comes to. -/
theorem history_concat (act : ι → Action σ α) (items : List ι) (item : ι) (s : σ)
    (env : Environment) :
    ∃ o, history act (items ++ [item]) s env = history act items s env ++ [(item, o)] := by
  induction items generalizing s env with
  | nil => exact ⟨_, rfl⟩
  | cons first rest ih =>
    let reached := (act first).perform s env.nextStep
    obtain ⟨o, ho⟩ := ih reached.state reached.environment
    exact ⟨o, congrArg ((first, reached) :: ·) ho⟩

/-- What each item goes on with holds behind all of them. -/
theorem invariant_of_history {act : ι → Action σ α} {Allowed : ι → Prop}
    {Invariant : History ι σ α → σ → Environment → Prop}
    (hstep : ∀ earlier item s env, Allowed item → Invariant earlier s env →
      let o := (act item).perform s env.nextStep
      Invariant (earlier ++ [(item, o)]) o.state o.environment)
    {items : List ι} (hitems : ∀ item ∈ items, Allowed item) {earlier : History ι σ α} {s : σ}
    {env : Environment} (start : Invariant earlier s env) :
    Invariant (earlier ++ history act items s env) (ending (items.map act) s env).1
      (ending (items.map act) s env).2 := by
  -- what has been done before counts as earlier for the rest
  induction items generalizing earlier s env with
  | nil =>
    rw [history, List.zip_nil_left, List.append_nil]
    exact start
  | cons item rest ih =>
    obtain ⟨hitem, hrest⟩ := List.forall_mem_cons.1 hitems
    have hreached := ih hrest (hstep earlier item s env hitem start)
    rw [List.append_assoc] at hreached
    exact hreached

end OracleCatalog.Action
