import OracleCatalog.Proofs.Session.Perform
import OracleCatalog.Session.Connection

/-!
# What is stored while the database is asked

Talking to the database changes no cache in memory and no directory. An action that spares what is
stored may move its own state, except for a part of it that it keeps as well: a connection keeps its
dialect, and with that its settings. What is known of the answers is passed on with it, so that an
action is gone through once.
-/

namespace OracleCatalog

/-- What is stored: the caches in memory, and the directories with their files. -/
structure Stores where
  memories : List (OrderedMap String Value)
  directories : OrderedMap String Directory

def Environment.stores (env : Environment) : Stores :=
  { memories := env.memories, directories := env.directories }

namespace Action

variable {σ τ α β γ δ : Type} {part : σ → γ} {P : α → Prop} {Q : β → Prop}

/-- Wherever it starts and however it ends, the action keeps a part of its state and what is stored.
Its answers are `P`. -/
def Spares (part : σ → γ) (P : α → Prop) (action : Action σ α) : Prop :=
  ∀ s env, part (action.perform s env).state = part s ∧
    (action.perform s env).environment.stores = env.stores ∧
    ∀ a, (action.perform s env).result = .ok a → P a

/-- Nothing is known of an answer. -/
abbrev anyAnswer : α → Prop := fun _ => True

theorem spares_of_keeping {action : Action σ α}
    (h : ∀ s env, part (action.perform s env).state = part s ∧
      (action.perform s env).environment.stores = env.stores) : Spares part anyAnswer action :=
  fun s env => ⟨(h s env).1, (h s env).2, fun _ _ => trivial⟩

theorem spares_pure {a : α} (h : P a) : Spares part P (pure a : Action σ α) :=
  fun _ _ => ⟨rfl, rfl, fun _ hb => Except.ok.inj hb ▸ h⟩

theorem spares_throw (e : Error) : Spares part P (throw e : Action σ α) :=
  fun _ _ => ⟨rfl, rfl, nofun⟩

theorem spares_ofExcept {outcome : Except Error α} (h : ∀ a, outcome = .ok a → P a) :
    Spares part P (ofExcept outcome : Action σ α) :=
  fun _ _ => ⟨rfl, rfl, h⟩

theorem spares_ofNoted {noted : Noted α} (h : ∀ a, noted.outcome.1 = .ok a → P a) :
    Spares part P (ofNoted noted : Action σ α) :=
  fun _ _ => ⟨rfl, rfl, h⟩

theorem spares_state : Spares part anyAnswer (state : Action σ σ) :=
  spares_of_keeping fun _ _ => ⟨rfl, rfl⟩

theorem spares_change {f : σ → σ} (h : ∀ s, part (f s) = part s) :
    Spares part anyAnswer (change f) :=
  spares_of_keeping fun s _ => ⟨h s, rfl⟩

theorem spares_note (channel : Channel) (level : Level) (text : String) :
    Spares part anyAnswer (note channel level text : Action σ Unit) :=
  spares_of_keeping fun _ _ => ⟨rfl, rfl⟩

theorem spares_bind {action : Action σ α} {next : α → Action σ β} (h : Spares part P action)
    (hnext : ∀ a, P a → Spares part Q (next a)) : Spares part Q (action >>= next) := by
  intro s env
  obtain ⟨hpart, hstores, hanswer⟩ := h s env
  rw [perform_bind]
  unfold Outcome.andThen
  cases hresult : (action.perform s env).result with
  | error e => exact ⟨hpart, hstores, nofun⟩
  | ok a =>
    obtain ⟨hpart', hstores', hanswer'⟩ := hnext a (hanswer a hresult)
      (action.perform s env).state (action.perform s env).environment
    exact ⟨hpart'.trans hpart, hstores'.trans hstores, hanswer'⟩

theorem spares_within {inner : τ → δ} {get : σ → τ} {replace : τ → σ → σ} {action : Action τ α}
    (h : Spares inner P action)
    (hpart : ∀ s t, inner t = inner (get s) → part (replace t s) = part s) :
    Spares part P (action.within get replace) := by
  intro s env
  obtain ⟨hinner, hstores, hanswer⟩ := h (get s) env
  exact ⟨hpart s _ hinner, hstores, hanswer⟩

theorem spares_attempt {action : Action σ α} (h : Spares part P action) :
    Spares part (fun result => ∀ a, result = .ok a → P a) action.attempt := by
  intro s env
  obtain ⟨hpart, hstores, hanswer⟩ := h s env
  exact ⟨hpart, hstores, fun result hresult => Except.ok.inj hresult ▸ hanswer⟩

theorem spares_apart {inner : τ → δ} {s : τ} {action : Action τ α} (h : Spares inner P action) :
    Spares part (fun reached => ∀ a, reached.1 = .ok a → P a)
      (apart s action : Action σ (Except Error α × τ)) := by
  intro outer env
  obtain ⟨-, hstores, hanswer⟩ := h s env
  exact ⟨rfl, hstores, fun reached hreached => Except.ok.inj hreached ▸ hanswer⟩

end Action

open OracleCatalog.Action (Spares anyAnswer)

/-! ### Statements -/

namespace PlainStatement

variable {α β : Type} {P : α → Prop}

/-- Nothing that is done with a statement changes what is stored. -/
abbrev Sparing (P : α → Prop) (action : Action PlainStatement α) : Prop :=
  Spares (fun _ => ()) P action

theorem sparing_onCursor {action : Action Cursor α}
    (h : ∀ c env, (action.perform c env).environment.stores = env.stores) :
    Sparing anyAnswer (onCursor action) :=
  Action.spares_of_keeping fun s env => ⟨rfl, h s.cursor env⟩

theorem sparing_bindValue (placeholder value : Value) :
    Sparing anyAnswer (bindValue placeholder value) :=
  Action.spares_bind Action.spares_state fun _ _ =>
    Action.spares_bind (P := anyAnswer) (Action.spares_ofExcept fun _ _ => trivial) fun _ _ =>
      Action.spares_change fun _ => rfl

theorem sparing_bindEach (placements : Entries) : Sparing anyAnswer (bindEach placements) := by
  induction placements with
  | nil => exact Action.spares_pure trivial
  | cons placement rest ih => exact Action.spares_bind (sparing_bindValue _ _) fun _ _ => ih

theorem sparing_executeCursor (sql : String) (parameters : Value) :
    Sparing anyAnswer (onCursor (Cursor.execute sql parameters)) := by
  refine sparing_onCursor fun cursor env => ?_
  unfold Cursor.execute
  rw [Action.perform_ofFunction]
  simp only [Environment.takeReply]
  split <;> rfl

theorem sparing_execute (parameters : Value) : Sparing anyAnswer (execute parameters) := by
  have hsend : Sparing anyAnswer (do
      let s ← Action.state
      onCursor (Cursor.execute s.sql s.bindings.sent)) :=
    Action.spares_bind Action.spares_state fun _ _ => sparing_executeCursor _ _
  unfold execute
  cases parameters.truthy with
  | false => exact hsend
  | true =>
    refine Action.spares_bind (Action.spares_change fun _ => rfl) fun _ _ => ?_
    refine Action.spares_bind (P := anyAnswer) (Action.spares_ofExcept fun _ _ => trivial)
      fun placements _ => ?_
    exact Action.spares_bind (sparing_bindEach placements) fun _ _ => hsend

theorem sparing_fetchRow : Sparing anyAnswer (onCursor Cursor.fetchOne) :=
  sparing_onCursor fun _ _ => rfl

theorem sparing_fetchAll (shape : RowShape) : Sparing anyAnswer (fetchAll shape) :=
  Action.spares_bind (sparing_onCursor fun _ _ => rfl) fun _ _ =>
    Action.spares_bind Action.spares_state fun _ _ => Action.spares_pure trivial

theorem sparing_close : Sparing anyAnswer close := sparing_onCursor fun _ _ => rfl

end PlainStatement

/-! ### Connections -/

theorem Driver.spares_connect : Spares Driver.dialect anyAnswer connect := by
  refine Action.spares_of_keeping fun driver env => ?_
  cases hopening : env.opening <;> cases huser : driver.settings.user.truthy <;>
    cases htarget : driver.settings.target.truthy <;>
    simp [connect, openLink, hopening, huser, htarget, Environment.stores, Environment.observe,
      Environment.note]

namespace Connection

theorem spares_openLink : Spares dialect anyAnswer openLink := by
  refine Action.spares_bind Action.spares_state fun connection _ => ?_
  cases connection.link with
  | some link => exact Action.spares_pure trivial
  | none =>
    have hdriver : Spares dialect anyAnswer (onDriver Driver.connect) :=
      Action.spares_within Driver.spares_connect fun _ _ h => h
    refine Action.spares_bind hdriver fun link _ => ?_
    exact Action.spares_bind (Action.spares_change fun _ => rfl) fun _ _ =>
      Action.spares_pure trivial

theorem spares_openCursor : Spares dialect anyAnswer openCursor := by
  refine Action.spares_bind spares_openLink fun link _ => Action.spares_of_keeping ?_
  intro connection env
  unfold Cursor.openOn
  rw [Action.perform_ofFunction]
  unfold Environment.takeCursorFault
  cases env.cursorFaults with
  | nil => exact ⟨rfl, rfl⟩
  | cons fault faults => cases fault <;> exact ⟨rfl, rfl⟩

theorem spares_closingOnFailure {s : PlainStatement} {action : Action PlainStatement Unit}
    (h : PlainStatement.Sparing anyAnswer action) :
    Spares dialect anyAnswer (closingOnFailure s action) := by
  refine Action.spares_bind (Action.spares_apart h) ?_
  rintro ⟨outcome, reached⟩ -
  cases outcome with
  | ok _ => exact Action.spares_pure trivial
  | error e =>
    exact Action.spares_bind (Action.spares_apart PlainStatement.sparing_close) fun _ _ =>
      Action.spares_ofExcept fun _ _ => trivial

theorem spares_execute (sql : String) (parameters : Value) :
    Spares dialect anyAnswer (execute (.text sql) parameters false) := by
  have hconverted : Spares dialect anyAnswer (converted (.text sql) false) :=
    Action.spares_bind Action.spares_state fun _ _ => Action.spares_pure trivial
  refine Action.spares_bind hconverted fun _ _ => ?_
  refine Action.spares_bind spares_openCursor fun cursor _ => ?_
  refine Action.spares_bind (P := anyAnswer) (Action.spares_ofExcept fun _ _ => trivial)
    fun _ _ => ?_
  exact Action.spares_bind (Action.spares_note _ _ _) fun _ _ =>
    spares_closingOnFailure (PlainStatement.sparing_execute parameters)

end Connection

end OracleCatalog
