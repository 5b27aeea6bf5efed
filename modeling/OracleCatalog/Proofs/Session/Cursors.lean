import OracleCatalog.Proofs.Session.Invariant
import OracleCatalog.Proofs.Statement.Pulling
import OracleCatalog.Session.Connection

/-!
# Cursors take turns

A cursor is opened only while no other one is open, and closed only while it is open itself. Actions
that take turns in this way are put together to longer ones that do, whether their parts succeed or
fail.
-/

namespace OracleCatalog

/-! ### Events -/

namespace Event

/-- The cursor that the event opens. -/
def opened? : Event → Option Nat
  | .cursor _ number => some number
  | _ => none

/-- The cursor that the event closes. -/
def closed? : Event → Option Nat
  | .close number => some number
  | _ => none

end Event

def opened (events : List Event) : List Nat := events.filterMap Event.opened?

def closed (events : List Event) : List Nat := events.filterMap Event.closed?

theorem opened_cons (event : Event) (events : List Event) :
    opened (event :: events) = event.opened?.toList ++ opened events := by
  unfold opened
  rw [List.filterMap_cons]
  cases event.opened? <;> rfl

theorem closed_cons (event : Event) (events : List Event) :
    closed (event :: events) = event.closed?.toList ++ closed events := by
  unfold closed
  rw [List.filterMap_cons]
  cases event.closed? <;> rfl

/-- Cursors take turns, from one that may be held and the number of the next one, to one that may
be held and the number of the next one. -/
inductive Turns : Option Nat → Nat → List Event → Option Nat → Nat → Prop where
  | done (held : Option Nat) (next : Nat) : Turns held next [] held next
  | opens {link next : Nat} {events : List Event} {held' : Option Nat} {next' : Nat}
      (rest : Turns (some next) (next + 1) events held' next') :
      Turns none next (.cursor link next :: events) held' next'
  | closes {cursor next : Nat} {events : List Event} {held' : Option Nat} {next' : Nat}
      (rest : Turns none next events held' next') :
      Turns (some cursor) next (.close cursor :: events) held' next'
  | other {held : Option Nat} {next : Nat} {event : Event} {events : List Event}
      {held' : Option Nat} {next' : Nat} (opened_eq : event.opened? = none)
      (closed_eq : event.closed? = none) (rest : Turns held next events held' next') :
      Turns held next (event :: events) held' next'

namespace Turns

variable {held held' held'' : Option Nat} {next next' next'' : Nat} {events more : List Event}

theorem append (h : Turns held next events held' next')
    (h' : Turns held' next' more held'' next'') :
    Turns held next (events ++ more) held'' next'' := by
  induction h with
  | done _ _ => exact h'
  | opens _ ih => exact .opens (ih h')
  | closes _ ih => exact .closes (ih h')
  | other opened_eq closed_eq _ ih => exact .other opened_eq closed_eq (ih h')

theorem exists_of_prefix (h : Turns held next events held' next') {before : List Event}
    (hbefore : before <+: events) : ∃ held'' next'', Turns held next before held'' next'' := by
  induction h generalizing before with
  | done held next =>
    rw [List.prefix_nil.1 hbefore]
    exact ⟨held, next, .done held next⟩
  | @opens link next _ _ _ _ ih =>
    rcases List.prefix_cons_iff.1 hbefore with rfl | ⟨rest, rfl, hrest⟩
    · exact ⟨none, next, .done none next⟩
    · obtain ⟨held'', next'', hturns⟩ := ih hrest
      exact ⟨held'', next'', .opens hturns⟩
  | @closes number next _ _ _ _ ih =>
    rcases List.prefix_cons_iff.1 hbefore with rfl | ⟨rest, rfl, hrest⟩
    · exact ⟨some number, next, .done (some number) next⟩
    · obtain ⟨held'', next'', hturns⟩ := ih hrest
      exact ⟨held'', next'', .closes hturns⟩
  | @other held next _ _ _ _ opened_eq closed_eq _ ih =>
    rcases List.prefix_cons_iff.1 hbefore with rfl | ⟨rest, rfl, hrest⟩
    · exact ⟨held, next, .done held next⟩
    · obtain ⟨held'', next'', hturns⟩ := ih hrest
      exact ⟨held'', next'', .other opened_eq closed_eq hturns⟩

/-- What is held and what is opened is what is closed and what is held then, in this order. -/
theorem balance (h : Turns held next events held' next') :
    held.toList ++ opened events = closed events ++ held'.toList := by
  induction h with
  | done held _ => simp [opened, closed]
  | opens _ ih => simpa [opened_cons, closed_cons, Event.opened?, Event.closed?] using ih
  | closes _ ih => simpa [opened_cons, closed_cons, Event.opened?, Event.closed?] using ih
  | other opened_eq closed_eq _ ih =>
    simpa [opened_cons, closed_cons, opened_eq, closed_eq] using ih

/-- Every cursor that is opened is a new one. -/
theorem opened_eq (h : Turns held next events held' next') :
    ∃ n, opened events = List.range' next n := by
  induction h with
  | done _ _ => exact ⟨0, rfl⟩
  | @opens link next _ _ _ _ ih =>
    obtain ⟨n, hn⟩ := ih
    refine ⟨n + 1, ?_⟩
    rw [opened_cons, List.range'_succ, ← hn]
    rfl
  | closes _ ih => exact ih
  | other opened_eq _ _ ih =>
    obtain ⟨n, hn⟩ := ih
    refine ⟨n, ?_⟩
    rw [opened_cons, opened_eq, ← hn]
    rfl

theorem nodup_opened (h : Turns held next events held' next') : (opened events).Nodup := by
  obtain ⟨n, hn⟩ := h.opened_eq
  rw [hn]
  exact List.nodup_range'

end Turns

/-! ### Actions -/

/-- Between two environments cursors have taken turns. -/
def Environment.Turned (env env' : Environment) (held held' : Option Nat) : Prop :=
  ∃ events, env'.events = env.events ++ events ∧ Turns held env.cursors events held' env'.cursors

theorem Environment.Turned.trans {env env' env'' : Environment} {held held' held'' : Option Nat}
    (h : env.Turned env' held held') (h' : env'.Turned env'' held' held'') :
    env.Turned env'' held held'' := by
  obtain ⟨events, hevents, hturns⟩ := h
  obtain ⟨more, hmore, hturns'⟩ := h'
  refine ⟨events ++ more, ?_, hturns.append hturns'⟩
  rw [hmore, hevents, List.append_assoc]

theorem Environment.turned_observe (env : Environment) (event : Event) (held : Option Nat)
    (hopened : event.opened? = none) (hclosed : event.closed? = none) :
    env.Turned (env.observe event) held held :=
  ⟨[event], rfl, .other hopened hclosed (.done held _)⟩

namespace Action

variable {σ τ α β : Type}

/-- Cursors take turns: from the one that is held in the state before, to the one that is held with
the result and the state behind. -/
def Turning (before : σ → Option Nat) (action : Action σ α)
    (after : Except Error α → σ → Option Nat) : Prop :=
  ∀ s (env : Environment), env.Turned (action.perform s env).environment (before s)
    (after (action.perform s env).result (action.perform s env).state)

variable {before : σ → Option Nat} {after : Except Error α → σ → Option Nat}

theorem turning_of_quiet {action : Action σ α} (hquiet : Quiet action)
    (hheld : ∀ s env, after (action.perform s env).result (action.perform s env).state =
      before s) : Turning before action after := by
  intro s env
  obtain ⟨hevents, hcursors⟩ := hquiet s env
  refine ⟨[], ?_, ?_⟩
  · rw [List.append_nil]
    exact hevents
  · rw [hheld s env, hcursors]
    exact .done _ _

theorem turning_bind {action : Action σ α} {next : α → Action σ β}
    {last : Except Error β → σ → Option Nat} (h : Turning before action after)
    (herror : ∀ e s, after (.error e) s = last (.error e) s)
    (hnext : ∀ a, Turning (after (.ok a)) (next a) last) :
    Turning before (action >>= next) last := by
  intro s env
  have hfirst := h s env
  rw [perform_bind]
  unfold Outcome.andThen
  cases hresult : (action.perform s env).result with
  | ok a =>
    rw [hresult] at hfirst
    exact hfirst.trans (hnext a _ _)
  | error e =>
    rw [hresult, herror] at hfirst
    exact hfirst

theorem turning_within {part : σ → τ} {replace : τ → σ → σ} {action : Action τ α}
    {inner : τ → Option Nat} {innerAfter : Except Error α → τ → Option Nat}
    (h : Turning inner action innerAfter) (hpart : ∀ s, inner (part s) = before s)
    (hreplace : ∀ result s t, innerAfter result t = after result (replace t s)) :
    Turning before (action.within part replace) after := by
  intro s env
  have hinner := h (part s) env
  rw [hpart, hreplace _ s] at hinner
  exact hinner

/-- The cursor that an answer holds; a failure holds none. -/
def holdingIn (number : α → Nat) : Except Error α → σ → Option Nat
  | .ok a, _ => some (number a)
  | .error _, _ => none

/-! ### Actions that hold no cursor -/

/-- No cursor is held before and none behind. -/
def Settles (action : Action σ α) : Prop := Turning (fun _ => none) action fun _ _ => none

theorem settles_of_quiet {action : Action σ α} (hquiet : Quiet action) : Settles action :=
  turning_of_quiet hquiet fun _ _ => rfl

theorem settles_pure (a : α) : Settles (pure a : Action σ α) := settles_of_quiet (quiet_pure a)

theorem settles_throw (e : Error) : Settles (throw e : Action σ α) :=
  settles_of_quiet (quiet_throw e)

theorem settles_state : Settles (state : Action σ σ) := settles_of_quiet quiet_state

theorem settles_ofExcept (outcome : Except Error α) : Settles (ofExcept outcome : Action σ α) :=
  settles_of_quiet (quiet_ofExcept outcome)

theorem settles_bind {action : Action σ α} {next : α → Action σ β} (h : Settles action)
    (hnext : ∀ a, Settles (next a)) : Settles (action >>= next) :=
  turning_bind h (fun _ _ => rfl) hnext

end Action

open OracleCatalog.Action (Turning Settles)

/-! ### Statements that hold their cursor -/

namespace PlainStatement

/-- The cursor that a statement holds. -/
def holding (s : PlainStatement) : Option Nat := some s.cursor.number

/-- Whatever it reads, the statement goes on holding a cursor. -/
def Reads {α : Type} (action : Action PlainStatement α) : Prop :=
  Turning holding action fun _ s => s.holding

theorem reads_bind {α β : Type} {action : Action PlainStatement α}
    {next : α → Action PlainStatement β} (h : Reads action) (hnext : ∀ a, Reads (next a)) :
    Reads (action >>= next) :=
  Action.turning_bind h (fun _ _ => rfl) hnext

theorem reads_pure {α : Type} (a : α) : Reads (pure a) :=
  Action.turning_of_quiet (Action.quiet_pure a) fun _ _ => rfl

theorem reads_throw {α : Type} (e : Error) : Reads (throw e : Action PlainStatement α) :=
  Action.turning_of_quiet (Action.quiet_throw e) fun _ _ => rfl

theorem reads_state : Reads (Action.state : Action PlainStatement PlainStatement) :=
  Action.turning_of_quiet Action.quiet_state fun _ _ => rfl

theorem reads_ofExcept {α : Type} (outcome : Except Error α) :
    Reads (Action.ofExcept outcome : Action PlainStatement α) :=
  Action.turning_of_quiet (Action.quiet_ofExcept outcome) fun _ _ => rfl

theorem reads_ofNoted {α : Type} (noted : Noted α) :
    Reads (Action.ofNoted noted : Action PlainStatement α) :=
  Action.turning_of_quiet (Action.quiet_ofNoted noted) fun _ _ => rfl

theorem reads_changeBindings (f : PlainStatement → Bindings) :
    Reads (Action.change fun s => { s with bindings := f s }) :=
  Action.turning_of_quiet (Action.quiet_change _) fun _ _ => rfl

theorem reads_bindValue (placeholder value : Value) : Reads (bindValue placeholder value) :=
  reads_bind reads_state fun _ => reads_bind (reads_ofExcept _) fun _ => reads_changeBindings _

theorem reads_bindEach (placements : Entries) : Reads (bindEach placements) := by
  induction placements with
  | nil => exact reads_pure ()
  | cons placement rest ih => exact reads_bind (reads_bindValue _ _) fun _ => ih

theorem reads_executeCursor (sql : String) (parameters : Value) :
    Reads (onCursor (Cursor.execute sql parameters)) := by
  intro s env
  have hturned := env.turned_observe (.execute s.cursor.number sql parameters)
    s.holding rfl rfl
  unfold onCursor
  rw [Action.perform_within]
  unfold Cursor.execute
  rw [Action.perform_ofFunction]
  simp only [Environment.takeReply]
  split <;> exact hturned

theorem reads_execute (parameters : Value) : Reads (execute parameters) := by
  have hsend : Reads (do
      let s ← Action.state
      onCursor (Cursor.execute s.sql s.bindings.sent)) :=
    reads_bind reads_state fun s => reads_executeCursor _ _
  unfold execute
  cases parameters.truthy with
  | false => exact hsend
  | true =>
    refine reads_bind (reads_changeBindings _) fun _ => ?_
    refine reads_bind (reads_ofExcept _) fun placements => ?_
    exact reads_bind (reads_bindEach placements) fun _ => hsend

theorem reads_fetchRow : Reads (onCursor Cursor.fetchOne) := by
  intro s env
  obtain ⟨hnumber, -, -⟩ := s.cursor.takeRow_spec
  have hturned := env.turned_observe (.fetchOne s.cursor.number) s.holding rfl rfl
  have hheld : holding { s with cursor := s.cursor.takeRow.2 } = s.holding :=
    congrArg some hnumber
  show env.Turned (env.observe (.fetchOne s.cursor.number)) s.holding
    (holding { s with cursor := s.cursor.takeRow.2 })
  rw [hheld]
  exact hturned

theorem reads_fetchAll (shape : RowShape) : Reads (fetchAll shape) := by
  intro s env
  obtain ⟨hnumber, -, -⟩ := s.cursor.takeRows_spec
  have hturned := env.turned_observe (.fetchAll s.cursor.number) s.holding rfl rfl
  have hheld : holding { s with cursor := s.cursor.takeRows.2 } = s.holding :=
    congrArg some hnumber
  rw [fetchAll_perform]
  dsimp only
  rw [hheld]
  exact hturned

theorem turning_close : Turning holding close fun _ _ => none := by
  intro s env
  exact ⟨[.close s.cursor.number], rfl, .closes (.done _ _)⟩

end PlainStatement

/-! ### Connections -/

theorem Driver.connect_events (driver : Driver) (env : Environment) :
    (connect.perform driver env).environment.cursors = env.cursors ∧
      ((connect.perform driver env).environment.events = env.events ∨
        ∃ link user password target, (connect.perform driver env).environment.events =
          env.events ++ [.connect link user password target]) := by
  cases hopening : env.opening <;> cases huser : driver.settings.user.truthy <;>
    cases htarget : driver.settings.target.truthy <;>
    simp [connect, openLink, hopening, huser, htarget, Environment.observe, Environment.note]

theorem Driver.settles_connect : Settles connect := by
  intro driver env
  obtain ⟨hcursors, hevents⟩ := driver.connect_events env
  rcases hevents with hnone | ⟨link, user, password, target, hone⟩
  · refine ⟨[], by rw [List.append_nil, hnone], ?_⟩
    rw [hcursors]
    exact .done _ _
  · refine ⟨[.connect link user password target], hone, .other rfl rfl ?_⟩
    rw [hcursors]
    exact .done _ _

namespace Connection

theorem settles_openLink : Settles openLink := by
  refine Action.settles_bind Action.settles_state fun connection => ?_
  cases connection.link with
  | some link => exact Action.settles_pure link
  | none =>
    have hdriver : Settles (onDriver Driver.connect) :=
      Action.turning_within Driver.settles_connect (fun _ => rfl) fun _ _ _ => rfl
    refine Action.settles_bind hdriver fun link => ?_
    exact Action.settles_bind (Action.settles_of_quiet (Action.quiet_change _)) fun _ =>
      Action.settles_pure link

theorem turning_openCursor :
    Turning (fun _ => none) openCursor (Action.holdingIn Cursor.number) := by
  refine Action.turning_bind settles_openLink (fun _ _ => rfl) fun link => ?_
  intro connection env
  unfold Cursor.openOn
  rw [Action.perform_ofFunction]
  unfold Environment.takeCursorFault
  cases env.cursorFaults with
  | nil => exact ⟨[.cursor link env.cursors], rfl, .opens (.done _ _)⟩
  | cons fault faults =>
    cases fault with
    | none => exact ⟨[.cursor link env.cursors], rfl, .opens (.done _ _)⟩
    | some fault => exact ⟨[], (List.append_nil _).symm, .done _ _⟩

theorem turning_apart {α : Type} (s : PlainStatement) {action : Action PlainStatement α}
    {after : Except Error α → PlainStatement → Option Nat}
    (h : Turning PlainStatement.holding action after) :
    Turning (fun _ => s.holding) (Action.apart s action : Action Connection _)
      fun result _ => match result with
        | .ok (outcome, reached) => after outcome reached
        | .error _ => none :=
  fun _ env => h s env

/-- A statement is left open only when nothing has failed. -/
theorem turning_closingOnFailure (s : PlainStatement) {action : Action PlainStatement Unit}
    (h : PlainStatement.Reads action) :
    Turning (fun _ => s.holding) (closingOnFailure s action)
      (Action.holdingIn fun s => s.cursor.number) := by
  refine Action.turning_bind (turning_apart s h) (fun _ _ => rfl) ?_
  rintro ⟨outcome, reached⟩
  cases outcome with
  | ok _ => exact Action.turning_of_quiet (Action.quiet_pure reached) fun _ _ => rfl
  | error e =>
    refine Action.turning_bind (turning_apart reached PlainStatement.turning_close)
      (fun _ _ => rfl) ?_
    rintro ⟨closed, reached'⟩
    refine Action.turning_of_quiet (Action.quiet_ofExcept _) fun _ _ => ?_
    cases closed <;> rfl

/-- A query that is not converted is executed as it is given. -/
theorem execute_text (sql : String) (parameters : Value) :
    execute (.text sql) parameters false = (do
      let cursor ← openCursor
      noteQuery sql
      closingOnFailure { cursor, sql } (PlainStatement.execute parameters)) := rfl

theorem turning_execute (sql : String) (parameters : Value) :
    Turning (fun _ => none) (execute (.text sql) parameters false)
      (Action.holdingIn fun s => s.cursor.number) := by
  rw [execute_text]
  refine Action.turning_bind turning_openCursor (fun _ _ => rfl) fun cursor => ?_
  have hnote : Turning (fun _ => some cursor.number) (noteQuery sql)
      (Action.holdingIn fun _ => cursor.number) :=
    Action.turning_of_quiet (Action.quiet_note _ _ _) fun _ _ => rfl
  exact Action.turning_bind hnote (fun _ _ => rfl) fun _ =>
    turning_closingOnFailure { cursor, sql } (PlainStatement.reads_execute parameters)

end Connection

end OracleCatalog
