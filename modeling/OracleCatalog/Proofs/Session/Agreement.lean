import OracleCatalog.Proofs.Session.Perform

/-!
# Actions that agree

Two actions agree when they come to the same, wherever their states and their environments
correspond. Often environments correspond that have the same outlook, which is what an action may
read of them; events, records, the clock and the numbers of links and cursors can be different then.
-/

namespace OracleCatalog

/-- What an action that agrees with others reads of its environment. -/
structure Outlook where
  answering : Answering
  opening : Opening
  cursorFaults : List (Option Fault)
  memories : List (OrderedMap String Value)

def Environment.outlook (env : Environment) : Outlook :=
  { answering := env.answering
    opening := env.opening
    cursorFaults := env.cursorFaults
    memories := env.memories }

/-- Each environment shows the outlook of its side. -/
def Outlook.Seen (v w : Outlook) (env env' : Environment) : Prop :=
  env.outlook = v ∧ env'.outlook = w

/-- Both outlooks are on a database that replies in the same fixed way. -/
structure Outlook.Fixed (reply : String → Value → Reply) (v w : Outlook) : Prop where
  answering : v.answering = .fixed reply
  otherAnswering : w.answering = .fixed reply
  cursorFaults : v.cursorFaults = []
  otherCursorFaults : w.cursorFaults = []
  opening : v.opening = w.opening

variable {σ τ σ' τ' α β γ δ : Type}

/-- The same failure, or answers that are related. -/
def Error.Agree (Q : α → β → Prop) : Except Error α → Except Error β → Prop
  | .ok a, .ok b => Q a b
  | .error e, .error e' => e = e'
  | _, _ => False

theorem Error.agree_refl (outcome : Except Error α) : Error.Agree Eq outcome outcome := by
  cases outcome with
  | ok a => exact rfl
  | error e => exact rfl

theorem Error.Agree.eq {outcome other : Except Error α} (h : Error.Agree Eq outcome other) :
    outcome = other := by
  cases outcome with
  | ok a =>
    cases other with
    | ok b => exact congrArg _ h
    | error e => exact h.elim
  | error e =>
    cases other with
    | ok b => exact h.elim
    | error e' => exact congrArg _ h

/-- Outcomes that agree: in their results, and in the states and environments that are reached. -/
structure Outcome.Agree (E : Environment → Environment → Prop) (R : σ → τ → Prop)
    (Q : α → β → Prop) (left : Outcome σ α) (right : Outcome τ β) : Prop where
  result : Error.Agree Q left.result right.result
  state : R left.state right.state
  environment : E left.environment right.environment

namespace Action

/-- Both actions come to the same from corresponding states in corresponding environments. -/
def Agree (E : Environment → Environment → Prop) (R : σ → τ → Prop) (Q : α → β → Prop)
    (action : Action σ α) (other : Action τ β) : Prop :=
  ∀ s t env env', R s t → E env env' →
    Outcome.Agree E R Q (action.perform s env) (other.perform t env')

variable {E : Environment → Environment → Prop} {R : σ → τ → Prop} {Q : α → β → Prop}

theorem agree_pure {a : α} {b : β} (h : Q a b) : Agree E R Q (pure a) (pure b) := by
  intro s t env env' hst henv
  exact ⟨h, hst, henv⟩

theorem agree_throw (e : Error) : Agree E R Q (throw e) (throw e) := by
  intro s t env env' hst henv
  exact ⟨rfl, hst, henv⟩

theorem agree_ofExcept {outcome : Except Error α} {other : Except Error β}
    (h : Error.Agree Q outcome other) : Agree E R Q (ofExcept outcome) (ofExcept other) := by
  intro s t env env' hst henv
  exact ⟨h, hst, henv⟩

theorem agree_bind {P : γ → δ → Prop} {action : Action σ γ} {other : Action τ δ}
    {next : γ → Action σ α} {next' : δ → Action τ β} (h : Agree E R P action other)
    (hnext : ∀ c d, P c d → Agree E R Q (next c) (next' d)) :
    Agree E R Q (action >>= next) (other >>= next') := by
  intro s t env env' hst henv
  obtain ⟨hresult, hstate, hreached⟩ := h s t env env' hst henv
  rw [perform_bind, perform_bind]
  generalize action.perform s env = left at *
  generalize other.perform t env' = right at *
  obtain ⟨result, s', reached⟩ := left
  obtain ⟨result', t', reached'⟩ := right
  cases result with
  | ok c =>
    cases result' with
    | ok d => exact hnext c d hresult s' t' reached reached' hstate hreached
    | error e => exact hresult.elim
  | error e =>
    cases result' with
    | ok d => exact hresult.elim
    | error e' => exact ⟨hresult, hstate, hreached⟩

theorem agree_bind_eq {action : Action σ γ} {other : Action τ γ} {next : γ → Action σ α}
    {next' : γ → Action τ β} (h : Agree E R Eq action other)
    (hnext : ∀ c, Agree E R Q (next c) (next' c)) :
    Agree E R Q (action >>= next) (other >>= next') := by
  refine agree_bind h ?_
  rintro c _ rfl
  exact hnext c

theorem agree_state : Agree E R R state state := by
  intro s t env env' hst henv
  exact ⟨hst, hst, henv⟩

theorem agree_change {f : σ → σ} {g : τ → τ} (h : ∀ s t, R s t → R (f s) (g t)) :
    Agree E R Eq (change f) (change g) := by
  intro s t env env' hst henv
  exact ⟨rfl, h s t hst, henv⟩

theorem agree_attempt {action : Action σ α} {other : Action τ β}
    (h : Agree E R Q action other) : Agree E R (Error.Agree Q) action.attempt other.attempt := by
  intro s t env env' hst henv
  obtain ⟨hresult, hstate, hreached⟩ := h s t env env' hst henv
  exact ⟨hresult, hstate, hreached⟩

theorem agree_apart {R' : σ' → τ' → Prop} {s : σ'} {t : τ'} {action : Action σ' α}
    {other : Action τ' β} (hst : R' s t) (h : Agree E R' Q action other) :
    Agree E R (fun left right => Error.Agree Q left.1 right.1 ∧ R' left.2 right.2)
      (apart s action) (apart t other) := by
  intro outer outer' env env' houter henv
  obtain ⟨hresult, hstate, hreached⟩ := h s t env env' hst henv
  exact ⟨⟨hresult, hstate⟩, houter, hreached⟩

theorem agree_within {R' : σ' → τ' → Prop} {part : σ → σ'} {replace : σ' → σ → σ}
    {part' : τ → τ'} {replace' : τ' → τ → τ} {action : Action σ' α} {other : Action τ' β}
    (hpart : ∀ s t, R s t → R' (part s) (part' t))
    (hreplace : ∀ s t s' t', R s t → R' s' t' → R (replace s' s) (replace' t' t))
    (h : Agree E R' Q action other) :
    Agree E R Q (action.within part replace) (other.within part' replace') := by
  intro s t env env' hst henv
  obtain ⟨hresult, hstate, hreached⟩ := h (part s) (part' t) env env' (hpart s t hst) henv
  exact ⟨hresult, hreplace s t _ _ hst hstate, hreached⟩

/-! ### Environments of the same outlook -/

variable {v w : Outlook}

/-- Records are not part of an outlook: they can be written to different channels. -/
theorem agree_note (channel channel' : Channel) (level level' : Level) (text text' : String) :
    Agree (Outlook.Seen v w) R Eq (note channel level text) (note channel' level' text') := by
  intro s t env env' hst henv
  exact ⟨rfl, hst, henv⟩

theorem agree_ofNoted {noted : Noted α} {other : Noted β}
    (h : Error.Agree Q noted.outcome.1 other.outcome.1) :
    Agree (Outlook.Seen v w) R Q (ofNoted noted) (ofNoted other) := by
  intro s t env env' hst henv
  exact ⟨h, hst, henv⟩

end Action

end OracleCatalog
