import OracleCatalog.Proofs.Statement.Asking
import OracleCatalog.Proofs.Statement.Lockstep

/-!
# Cursors that have been closed

A buffer closes its cursor when it has found the end of the rows. A closed cursor is then left alone
as long as nothing is executed again; an execution asks the closed cursor again.
-/

namespace OracleCatalog

open OracleCatalog.Action (Keeps Quiet)

namespace LoggedStatement

/-! ### Logging -/

theorem quiet_keep (start : Instant) (rows : Value) (failure : Option Error) :
    Quiet (keep start rows failure) := by
  have hclock : Quiet readClock := by
    refine Action.quiet_onEnvironment fun env => ?_
    unfold Environment.takeTime
    split <;> exact ⟨rfl, rfl⟩
  refine Action.quiet_bind hclock fun stop => ?_
  refine Action.quiet_bind (Action.quiet_ofExcept _) fun took => ?_
  refine Action.quiet_bind Action.quiet_state fun s => ?_
  refine Action.quiet_bind (Action.quiet_change _) fun _ => ?_
  exact Action.quiet_bind (Action.quiet_ofNoted _) fun _ => Action.quiet_pure ()

/-- Keeps the entry of an execution that has ended, and raises its failure again. -/
def keepOutcome (start : Instant) (outcome : Except Error Unit) : Action LoggedStatement Unit :=
  match outcome with
  | .ok _ => do keep start (← Action.state).statement.rowCount none
  | .error e => do
    keep start (.int 0) (some e)
    throw e

theorem execute_eq (parameters : Value) :
    execute parameters = (do
      let start ← readClock
      let outcome ← Action.attempt (onStatement (PreparedStatement.execute parameters))
      keepOutcome start outcome) := rfl

theorem quiet_keepOutcome (start : Instant) (outcome : Except Error Unit) :
    Quiet (keepOutcome start outcome) := by
  cases outcome with
  | ok _ => exact Action.quiet_bind Action.quiet_state fun s => quiet_keep _ _ _
  | error e => exact Action.quiet_bind (quiet_keep _ _ _) fun _ => Action.quiet_throw e

theorem keeps_statement_keepOutcome (statement : PreparedStatement) (start : Instant)
    (outcome : Except Error Unit) :
    Keeps (·.statement = statement) (keepOutcome start outcome) := by
  have hkeep : ∀ rows failure, Keeps (fun s : LoggedStatement => s.statement = statement)
      (keep start rows failure) :=
    fun rows failure => keeps_keep (J := (· = statement)) start rows failure
  cases outcome with
  | ok _ => exact Action.keeps_state_bind fun s _ => hkeep _ _
  | error e => exact Action.keeps_bind (hkeep _ _) fun _ => Action.keeps_throw e

theorem execute_like_prepared (parameters : Value) (s : LoggedStatement) (env : Environment) :
    ((execute parameters).perform s env).state.statement =
        ((PreparedStatement.execute parameters).perform s.statement env.takeTime.2).state ∧
      ((execute parameters).perform s env).environment.events =
        ((PreparedStatement.execute parameters).perform s.statement
          env.takeTime.2).environment.events := by
  rw [execute_eq]
  unfold readClock onStatement
  rw [Action.perform_bind, Action.perform_onEnvironment, Outcome.andThen_ok, Action.perform_bind,
    Action.perform_attempt, Outcome.andThen_ok]
  exact ⟨keeps_statement_keepOutcome _ _ _ _ _ rfl, (quiet_keepOutcome _ _ _ _).1⟩

/-- A log changes neither what becomes of the statement nor what is asked of the database. -/
theorem answer_like_prepared (request : Request) (s : LoggedStatement) (env : Environment) :
    ∃ env', env'.events = env.events ∧
      ((answer request).perform s env).state.statement =
          ((PreparedStatement.answer request).perform s.statement env').state ∧
        ((answer request).perform s env).environment.events =
          ((PreparedStatement.answer request).perform s.statement env').environment.events := by
  cases request with
  | execute parameters =>
    obtain ⟨hstate, hevents⟩ := execute_like_prepared parameters s env
    obtain ⟨hs, henv⟩ := Action.returning_keeps (.bool true) (execute parameters) s env
    obtain ⟨ht, henv'⟩ := Action.returning_keeps (.bool true)
      (PreparedStatement.execute parameters) s.statement env.takeTime.2
    refine ⟨env.takeTime.2, ?_, ?_, ?_⟩
    · unfold Environment.takeTime
      split <;> rfl
    · exact (congrArg LoggedStatement.statement hs).trans (hstate.trans ht.symm)
    · exact (congrArg Environment.events henv).trans
        (hevents.trans (congrArg Environment.events henv').symm)
  | _ => exact ⟨env, rfl, rfl, rfl⟩

/-! ### Runs -/

variable {cursor : Nat}

def ended (o : Outcome LoggedStatement Value) : Bool := o.state.statement.inner.ended

/-- What a run asks of a cursor, request by request. -/
inductive Traced (cursor : Nat) :
    Bool → List Request → List (Outcome LoggedStatement Value) → Prop where
  | nil (before : Bool) : Traced cursor before [] []
  | cons {before start : Bool} {request : Request} {requests : List Request}
      {o : Outcome LoggedStatement Value} {outcomes : List (Outcome LoggedStatement Value)}
      (starts : start = before ∨ start = false ∧ ∃ parameters, request = .execute parameters)
      (asked : Asked cursor start o.environment.events (ended o))
      (rest : Traced cursor (ended o) requests outcomes) :
      Traced cursor before (request :: requests) (o :: outcomes)

theorem traced_outcomes {origin : PlainStatement} {requests : List Request}
    (hclose : Request.close ∉ requests) {s : LoggedStatement}
    (hwhole : PreparedStatement.Whole origin s.statement) (env : Environment) :
    Traced origin.cursor.number s.statement.inner.ended requests
      (Action.outcomes (requests.map answer) s env) := by
  induction requests generalizing s env with
  | nil => exact .nil _
  | cons request rest ih =>
    have hne : request ≠ .close := fun heq => hclose (heq ▸ List.mem_cons_self)
    have hrest : Request.close ∉ rest := fun hmem => hclose (List.mem_cons_of_mem _ hmem)
    obtain ⟨env', hstart, hstate, hevents⟩ := answer_like_prepared request s env.nextStep
    obtain ⟨hreached, start, events, hstarts, hmore, hasked⟩ :=
      PreparedStatement.answer_asked hne hwhole env'
    rw [← hstate] at hreached hasked
    rw [← hevents, hstart, Environment.nextStep, List.nil_append] at hmore
    rw [← hmore] at hasked
    exact .cons hstarts hasked (ih hrest hreached _)

/-- No event of a run that needs the cursor comes after one that closes it. -/
def UnusedOnceClosed (cursor : Nat) (outcomes : List (Outcome LoggedStatement Value)) : Prop :=
  (outcomes.flatMap (·.environment.events)).Pairwise
    fun e e' => e = .close cursor → ¬ e'.Uses cursor

/-- Behind a step that has found the end of the rows, nothing is asked of the database. -/
def SilentOnceEnded (outcomes : List (Outcome LoggedStatement Value)) : Prop :=
  outcomes.Pairwise fun o o' => ended o = true → o'.environment.events = []

theorem Traced.unused_iff {before : Bool} {requests : List Request}
    {outcomes : List (Outcome LoggedStatement Value)} (h : Traced cursor before requests outcomes)
    {closed : Prop} (hclosed : before = true → closed) :
    (UnusedOnceClosed cursor outcomes ∧
        (closed → ∀ o ∈ outcomes, ∀ e ∈ o.environment.events, ¬ e.Uses cursor)) ↔
      SilentOnceEnded outcomes ∧ (closed → ∀ o ∈ outcomes, o.environment.events = []) := by
  induction h generalizing closed with
  | nil _ => simp [UnusedOnceClosed, SilentOnceEnded]
  | @cons before start request requests o outcomes starts asked rest ih =>
    have ih' := @ih (closed ∨ ended o = true) .inr
    have hended : ended o = true → closed ∨ .close cursor ∈ o.environment.events := by
      intro ho
      rcases asked.close_of_ended ho with hstart | hclose
      · rcases starts with hbefore | ⟨hfalse, -⟩
        · exact .inl (hclosed (hbefore.symm.trans hstart))
        · exact absurd (hstart.symm.trans hfalse) (by decide)
      · exact .inr hclose
    constructor
    · rintro ⟨hunused, hquiet⟩
      rw [UnusedOnceClosed, List.flatMap_cons, List.pairwise_append] at hunused
      obtain ⟨-, hrest, hcross⟩ := hunused
      have hquiet' : closed ∨ ended o = true →
          ∀ o' ∈ outcomes, ∀ e ∈ o'.environment.events, ¬ e.Uses cursor := by
        intro hor o' ho' e he
        rcases hor.elim .inl hended with hc | hclose
        · exact hquiet hc o' (List.mem_cons_of_mem _ ho') e he
        · exact hcross _ hclose e (List.mem_flatMap.2 ⟨o', ho', he⟩) rfl
      obtain ⟨hsilent, hnone⟩ := ih'.1 ⟨hrest, hquiet'⟩
      refine ⟨List.pairwise_cons.2 ⟨fun o' ho' ho => hnone (.inr ho) o' ho', hsilent⟩, ?_⟩
      intro hc o' ho'
      rcases List.mem_cons.1 ho' with rfl | ho'
      · refine Classical.not_not.1 fun hne => ?_
        obtain ⟨e, he, huse⟩ := asked.exists_use hne
        exact hquiet hc _ List.mem_cons_self e he huse
      · exact hnone (.inl hc) o' ho'
    · rintro ⟨hsilent, hnone⟩
      obtain ⟨hhead, hsilent⟩ := List.pairwise_cons.1 hsilent
      have hnone' : closed ∨ ended o = true → ∀ o' ∈ outcomes, o'.environment.events = [] := by
        rintro (hc | ho) o' ho'
        · exact hnone hc o' (List.mem_cons_of_mem _ ho')
        · exact hhead o' ho' ho
      obtain ⟨hrest, hquiet⟩ := ih'.2 ⟨hsilent, hnone'⟩
      constructor
      · rw [UnusedOnceClosed, List.flatMap_cons, List.pairwise_append]
        refine ⟨asked.unused_once_closed, hrest, ?_⟩
        rintro e he e' he' rfl
        obtain ⟨o', ho', he'⟩ := List.mem_flatMap.1 he'
        exact hquiet (.inr (asked.ended_of_close he)) o' ho' e' he'
      · intro hc o' ho' e he
        rcases List.mem_cons.1 ho' with rfl | ho'
        · rw [hnone hc _ List.mem_cons_self] at he
          cases he
        · exact hquiet (.inl hc) o' ho' e he

/-- Nothing is asked any more once the end has been found, as long as nothing is executed. -/
theorem Traced.silent_of_ended {requests : List Request}
    {outcomes : List (Outcome LoggedStatement Value)} (h : Traced cursor true requests outcomes)
    (hexecute : ∀ parameters, Request.execute parameters ∉ requests) :
    ∀ o ∈ outcomes, o.environment.events = [] := by
  generalize hbefore : true = before at h
  induction h with
  | nil _ => nofun
  | @cons before start request requests o outcomes starts asked rest ih =>
    have hstart : start = true := by
      rcases starts with heq | ⟨-, parameters, rfl⟩
      · exact heq.trans hbefore.symm
      · exact absurd List.mem_cons_self (hexecute parameters)
    rw [hstart] at asked
    obtain ⟨hnone, hended⟩ := asked.of_ended
    have hrest := ih (fun parameters hmem => hexecute parameters (List.mem_cons_of_mem _ hmem))
      hended.symm
    intro o' ho'
    rcases List.mem_cons.1 ho' with rfl | ho'
    · exact hnone
    · exact hrest o' ho'

theorem Traced.silent {before : Bool} {requests : List Request}
    {outcomes : List (Outcome LoggedStatement Value)} (h : Traced cursor before requests outcomes)
    (hexecute : ∀ (i j : Nat) o parameters, outcomes[i]? = some o → ended o = true → i < j →
      requests[j]? ≠ some (Request.execute parameters)) : SilentOnceEnded outcomes := by
  induction h with
  | nil _ => exact List.Pairwise.nil
  | @cons before start request requests o outcomes starts asked rest ih =>
    have hrest : SilentOnceEnded outcomes := ih fun i j o' parameters ho' hended hij =>
      hexecute (i + 1) (j + 1) o' parameters ho' hended (Nat.succ_lt_succ hij)
    refine List.pairwise_cons.2 ⟨fun o' ho' hended => ?_, hrest⟩
    rw [hended] at rest
    refine rest.silent_of_ended (fun parameters hmem => ?_) o' ho'
    obtain ⟨j, hj⟩ := List.mem_iff_getElem?.1 hmem
    exact hexecute 0 (j + 1) o parameters rfl hended (Nat.succ_pos j) hj

/-! ### Statements without a buffer -/

/-- A statement without a buffer that will not get one. -/
structure Unbuffered (s : PreparedStatement) : Prop where
  wrapping_ne : s.wrapping ≠ .buffered
  unwanted : s.buffering.truthy = false

theorem Unbuffered.ended_eq {origin : PlainStatement} {s : PreparedStatement} (h : Unbuffered s)
    (hwhole : PreparedStatement.Whole origin s) : s.inner.ended = false := by
  obtain ⟨held, hwrapped⟩ := hwhole
  rw [hwrapped.eq_plain h.wrapping_ne]
  rfl

theorem steady_unbuffered : PreparedStatement.Steady Unbuffered where
  ignores := ⟨fun h _ _ => ⟨h.wrapping_ne, h.unwanted⟩, fun h _ => ⟨h.wrapping_ne, h.unwanted⟩⟩
  fetch := fun _ _ _ h => ⟨h.wrapping_ne, h.unwanted⟩
  fetchAll := fun _ _ _ h => ⟨h.wrapping_ne, h.unwanted⟩
  close := fun _ _ h => ⟨h.wrapping_ne, h.unwanted⟩

theorem unbuffered_execute {origin : PlainStatement} (parameters : Value) {s : PreparedStatement}
    (hwhole : PreparedStatement.Whole origin s) (h : Unbuffered s) (env : Environment) :
    Unbuffered ((PreparedStatement.execute parameters).perform s env).state := by
  obtain ⟨held, hwrapped⟩ := hwhole
  have hfresh := PreparedStatement.fresh_of_execute parameters hwrapped env
  have hbuffering := PreparedStatement.keeps_buffering_execute s.buffering parameters s env rfl
  have hunwanted := h.unwanted
  rw [← hbuffering] at hunwanted
  cases hfresh with
  | bare _ _ _ wrapping_eq =>
    refine ⟨?_, hunwanted⟩
    rw [wrapping_eq]
    nofun
  | buffered wanted _ _ _ => exact absurd (hunwanted.symm.trans wanted) Bool.false_ne_true

theorem keeps_unbuffered_answer {origin : PlainStatement} {request : Request}
    (hbuffer : ∀ wanted, request ≠ .buffer wanted) :
    Keeps (fun s => PreparedStatement.Whole origin s ∧ Unbuffered s)
      (PreparedStatement.answer request) := by
  rintro s env ⟨hwhole, h⟩
  refine ⟨PreparedStatement.keeps_whole_answer request s env hwhole, ?_⟩
  by_cases hexecute : ∃ parameters, request = .execute parameters
  · obtain ⟨parameters, rfl⟩ := hexecute
    obtain ⟨hs, -⟩ := Action.returning_keeps (.bool true)
      (PreparedStatement.execute parameters) s env
    have hafter := unbuffered_execute parameters hwhole h env
    rw [← hs] at hafter
    exact hafter
  · exact steady_unbuffered.keeps_answer (fun parameters heq => hexecute ⟨parameters, heq⟩)
      hbuffer s env h

/-! ### Prepared statements -/

/-- When nobody else closes the cursor of a prepared statement, it is asked for something after it
has been closed exactly when something is asked after the end of the rows has been found. That does
not happen as long as nothing is executed after the end has been found, and never without a
buffer. -/
theorem unused_once_closed_iff (cursor : Cursor) (buffering : Value) (placeholders : Entries)
    (log sql : String) (env : Environment) {requests : List Request}
    (hclose : Request.close ∉ requests) :
    (UnusedOnceClosed cursor.number (run cursor buffering placeholders log env requests sql) ↔
        SilentOnceEnded (run cursor buffering placeholders log env requests sql)) ∧
      ((∀ (i j : Nat) o parameters,
          (run cursor buffering placeholders log env requests sql)[i]? = some o →
          ended o = true → i < j → requests[j]? ≠ some (Request.execute parameters)) →
        UnusedOnceClosed cursor.number
          (run cursor buffering placeholders log env requests sql)) ∧
      (buffering.truthy = false → (∀ wanted, Request.buffer wanted ∉ requests) →
        UnusedOnceClosed cursor.number
          (run cursor buffering placeholders log env requests sql)) := by
  have hwhole : PreparedStatement.Whole { cursor, sql }
      (prepared cursor buffering placeholders log sql).statement := PreparedStatement.whole_start
  have htraced : Traced cursor.number false requests
      (run cursor buffering placeholders log env requests sql) :=
    traced_outcomes hclose hwhole env
  have hiff := htraced.unused_iff Bool.false_ne_true
  simp only [false_implies, and_true] at hiff
  refine ⟨hiff, fun hexecute => hiff.2 (htraced.silent hexecute), fun hunwanted hbuffer => ?_⟩
  have hkeeps : ∀ action ∈ requests.map answer, Keeps (fun s : LoggedStatement =>
      PreparedStatement.Whole { cursor, sql } s.statement ∧ Unbuffered s.statement) action := by
    intro action haction
    obtain ⟨request, hrequest, rfl⟩ := List.mem_map.1 haction
    exact keeps_answer (keeps_unbuffered_answer fun wanted heq => hbuffer wanted (heq ▸ hrequest))
  have hended : ∀ o ∈ run cursor buffering placeholders log env requests sql,
      ended o = false := by
    intro o ho
    obtain ⟨hreached, hunbuffered⟩ :=
      Action.keeps_outcomes hkeeps ⟨hwhole, ⟨nofun, hunwanted⟩⟩ env o ho
    exact hunbuffered.ended_eq hreached
  refine hiff.2 (List.pairwise_iff_forall_sublist.2 fun hsublist ho => ?_)
  have hfalse := hended _ (hsublist.subset List.mem_cons_self)
  exact absurd (hfalse.symm.trans ho) Bool.false_ne_true

/-- A buffered statement whose executions are each answered with one row. -/
def runOnRows (requests : List Request) : List (Outcome LoggedStatement Value) :=
  run { number := 0 } (.bool true) [] defaultLog
    { answering := .inTurn [{ rows := [[.int 1]] }, { rows := [[.int 2]] }] } requests
    "SELECT 1 FROM dual"

theorem unused_once_closed_replaying :
    UnusedOnceClosed 0
      (runOnRows [.execute .null, .fetchAll .sequence, .fetch .sequence]) := by
  have hclose : Request.close ∉
      [Request.execute .null, .fetchAll .sequence, .fetch .sequence] := by simp
  obtain ⟨-, hlaw, -⟩ := unused_once_closed_iff { number := 0 } (.bool true) [] defaultLog
    "SELECT 1 FROM dual" { answering := .inTurn [{ rows := [[.int 1]] }, { rows := [[.int 2]] }] }
    hclose
  refine hlaw fun i j o parameters _ _ hij => ?_
  match j with
  | 1 => nofun
  | 2 => nofun
  | j + 3 => nofun

/-- The second execution asks the cursor that the first one's buffer has closed. -/
theorem closed_cursor_executed_again :
    (runOnRows [.execute .null, .fetchAll .sequence, .execute .null]).flatMap
        (·.environment.events) =
      [.execute 0 "SELECT 1 FROM dual" (.map []), .fetchOne 0, .fetchOne 0, .close 0,
        .execute 0 "SELECT 1 FROM dual" (.map [])] ∧
    ¬ UnusedOnceClosed 0
      (runOnRows [.execute .null, .fetchAll .sequence, .execute .null]) := by
  have hevents : (runOnRows [.execute .null, .fetchAll .sequence, .execute .null]).flatMap
      (·.environment.events) =
    [.execute 0 "SELECT 1 FROM dual" (.map []), .fetchOne 0, .fetchOne 0, .close 0,
      .execute 0 "SELECT 1 FROM dual" (.map [])] := rfl
  refine ⟨hevents, fun hunused => ?_⟩
  rw [UnusedOnceClosed, hevents] at hunused
  simp [Event.Uses] at hunused

end LoggedStatement

end OracleCatalog
