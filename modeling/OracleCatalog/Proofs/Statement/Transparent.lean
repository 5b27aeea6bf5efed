import Mathlib.Data.List.Forall2
import OracleCatalog.Proofs.Session.Runs
import OracleCatalog.Proofs.Statement.Closing
import OracleCatalog.Proofs.Statement.Framed

/-!
# A log changes nothing

A logged statement comes to what the prepared statement in it comes to: the same answers and errors,
the same statement behind each request, and the same database. The clock has moved on, and behind
the records of an execution stands one more. That one is of the execution, and only where values
cannot be put in place a warning stands before it.
-/

namespace OracleCatalog

/-! ### What an execution records by itself -/

namespace Action

variable {σ τ α β : Type} {channel : Channel}

/-- The action writes its records to one channel. -/
def WritesOn (channel : Channel) (action : Action σ α) : Prop :=
  ∀ s env, ∃ more, (action.perform s env).environment.records = env.records ++ more ∧
    ∀ record ∈ more, record.channel = channel

theorem writesOn_of_silent {action : Action σ α}
    (h : ∀ s env, (action.perform s env).environment.records = env.records) :
    WritesOn channel action :=
  fun s env => ⟨[], (h s env).trans (List.append_nil _).symm, nofun⟩

theorem writesOn_note (level : Level) (text : String) :
    WritesOn channel (note channel level text : Action σ Unit) :=
  fun _ _ => ⟨_, rfl, fun _ hrecord => congrArg Record.channel (List.mem_singleton.1 hrecord)⟩

theorem writesOn_bind {action : Action σ α} {next : α → Action σ β} (h : WritesOn channel action)
    (hnext : ∀ a, WritesOn channel (next a)) : WritesOn channel (action >>= next) := by
  intro s env
  obtain ⟨more, hmore, hchannel⟩ := h s env
  rw [perform_bind]
  unfold Outcome.andThen
  cases (action.perform s env).result with
  | error e => exact ⟨more, hmore, hchannel⟩
  | ok a =>
    obtain ⟨later, hlater, hchannel'⟩ := hnext a (action.perform s env).state
      (action.perform s env).environment
    refine ⟨more ++ later, ?_, List.forall_mem_append.2 ⟨hchannel, hchannel'⟩⟩
    rw [hlater, hmore, List.append_assoc]

theorem writesOn_within {part : σ → τ} {replace : τ → σ → σ} {action : Action τ α}
    (h : WritesOn channel action) : WritesOn channel (action.within part replace) :=
  fun s env => h (part s) env

end Action

open OracleCatalog.Action (WritesOn)

theorem PlainStatement.writesOn_bindValue {channel : Channel} (placeholder value : Value) :
    WritesOn channel (bindValue placeholder value) := by
  refine Action.writesOn_bind (Action.writesOn_of_silent fun _ _ => rfl) fun _ => ?_
  refine Action.writesOn_bind (Action.writesOn_of_silent fun _ _ => rfl) fun _ => ?_
  exact Action.writesOn_of_silent fun _ _ => rfl

theorem PlainStatement.writesOn_executeCursor {channel : Channel} (sql : String)
    (parameters : Value) : WritesOn channel (onCursor (Cursor.execute sql parameters)) := by
  refine Action.writesOn_within (Action.writesOn_of_silent fun cursor env => ?_)
  unfold Cursor.execute
  rw [Action.perform_ofFunction]
  simp only [Environment.takeReply]
  split <;> rfl

namespace PreparedStatement

theorem writesOn_binding {channel : Channel} : BindingRules (WritesOn channel) where
  pure := Action.writesOn_of_silent fun _ _ => rfl
  state := Action.writesOn_of_silent fun _ _ => rfl
  ofExcept := fun _ => Action.writesOn_of_silent fun _ _ => rfl
  bind := Action.writesOn_bind
  shown := fun _ _ => Action.writesOn_of_silent fun _ _ => rfl
  bindBase := fun placeholder value => Action.writesOn_within (Action.writesOn_within
    (PlainStatement.writesOn_bindValue placeholder value))
  clearBase := Action.writesOn_of_silent fun _ _ => rfl

theorem writesOn_prepareBuffer : WritesOn .preparedStatement prepareBuffer := by
  refine Action.writesOn_bind (Action.writesOn_of_silent fun _ _ => rfl) fun _ => ?_
  refine Action.writesOn_bind (Action.writesOn_of_silent fun _ _ => rfl) fun s => ?_
  cases s.buffering.truthy with
  | true =>
    refine Action.writesOn_bind (Action.writesOn_of_silent fun _ _ => rfl) fun _ => ?_
    exact Action.writesOn_note _ _
  | false => exact Action.writesOn_of_silent fun _ _ => rfl

/-- Executing writes to the channel of prepared statements alone. -/
theorem writesOn_execute (parameters : Value) :
    WritesOn .preparedStatement (execute parameters) := by
  refine writesOn_binding.execute writesOn_prepareBuffer (Action.writesOn_within ?_) parameters
  refine Action.writesOn_bind (Action.writesOn_of_silent fun _ _ => rfl) fun _ => ?_
  refine Action.writesOn_within ?_
  refine Action.writesOn_bind (Action.writesOn_of_silent fun _ _ => rfl) fun s => ?_
  exact PlainStatement.writesOn_executeCursor _ _

end PreparedStatement

/-! ### The clock -/

/-- Every reading to come is a fraction. -/
def Fractions (clock : List Instant) : Prop := ∀ time ∈ clock, ∃ seconds, time = .binary seconds

theorem Environment.takeTime_framed {clock : List Instant} (h : Fractions clock)
    (env : Environment) (earlier : List Record) :
    ∃ seconds clock', Fractions clock' ∧
      (env.framed clock earlier).takeTime = (.binary seconds, env.framed clock' earlier) := by
  cases clock with
  | nil => exact ⟨0, [], h, rfl⟩
  | cons time clock =>
    obtain ⟨seconds, rfl⟩ := h time List.mem_cons_self
    exact ⟨seconds, clock, fun time htime => h time (List.mem_cons_of_mem _ htime), rfl⟩

namespace LoggedStatement

variable {α : Type}

/-- The entry of an execution that has come to this. -/
def executionEntry (p : Outcome PreparedStatement α) (took : Value) : LogEntry :=
  match p.result with
  | .ok _ => { statement := p.state.text, bound := p.state.bound, took, rows := p.state.rowCount }
  | .error e => { statement := p.state.text, bound := p.state.bound, took, failure := some e }

/-- Behind the records of the execution stand those of its entry, which has been kept. -/
def Logs (log : String) (o : Outcome LoggedStatement α) (p : Outcome PreparedStatement α) : Prop :=
  ∃ took shown, onePlaceText took = .ok shown ∧
    o.state.last = some (executionEntry p took) ∧
    o.environment.records = p.environment.records ++
      ((executionEntry p took).warnings log ++
        [(executionEntry p took).record log shown (shownText p.state.bound p.state.text)])

/-- What a logged statement comes to follows what the prepared statement in it comes to. -/
structure Follows (log : String) (o : Outcome LoggedStatement α)
    (p : Outcome PreparedStatement α) : Prop where
  result_eq : o.result = p.result
  statement_eq : o.state.statement = p.state
  log_eq : o.state.log = log
  environment_eq : o.environment =
    { p.environment with clock := o.environment.clock, records := o.environment.records }

theorem keepOutcome_perform (s : LoggedStatement) {env : Environment} {seconds stop : Float}
    (hstop : env.takeTime.1 = .binary stop) (outcome : Except Error Unit) :
    ∃ took shown, onePlaceText took = .ok shown ∧
      (keepOutcome (.binary seconds) outcome).perform s env =
        let entry := executionEntry
          { result := outcome, state := s.statement, environment := env } took
        { result := outcome
          state := { s with last := some entry }
          environment := { env.takeTime.2 with
            records := env.takeTime.2.records ++ (entry.warnings s.log ++
              [entry.record s.log shown (shownText s.statement.bound s.statement.text)]) } } := by
  cases outcome with
  | ok u =>
    obtain ⟨shown, hshown, hkeep⟩ := keep_perform s hstop s.statement.rowCount none
    refine ⟨_, shown, hshown, ?_⟩
    unfold keepOutcome
    rw [Action.perform_bind, Action.perform_state, Outcome.andThen_ok, hkeep]
    rfl
  -- the failure is raised again behind its record
  | error e =>
    obtain ⟨shown, hshown, hkeep⟩ := keep_perform s hstop (.int 0) (some e)
    refine ⟨_, shown, hshown, ?_⟩
    unfold keepOutcome
    rw [Action.perform_bind, hkeep, Outcome.andThen_ok, Action.perform_throw]
    rfl

theorem execute_follows (parameters : Value) (s : LoggedStatement) (env : Environment)
    {clock : List Instant} (h : Fractions clock) :
    let o := (execute parameters).perform s (env.framed clock [])
    let p := (PreparedStatement.execute parameters).perform s.statement env
    Follows s.log o p ∧ Logs s.log o p ∧ Fractions o.environment.clock := by
  obtain ⟨seconds, clock₁, h₁, hstart⟩ := env.takeTime_framed h []
  have hframed := (PreparedStatement.unaware_execute parameters).perform_framed s.statement env
    clock₁ []
  dsimp only
  rw [execute_eq]
  unfold readClock onStatement
  rw [Action.perform_bind, Action.perform_onEnvironment, Outcome.andThen_ok, hstart,
    Action.perform_bind, Action.perform_attempt, Outcome.andThen_ok, Action.perform_within, hframed]
  generalize (PreparedStatement.execute parameters).perform s.statement env = p
  obtain ⟨result, t, reached⟩ := p
  obtain ⟨stop, clock₂, h₂, hstop⟩ := reached.takeTime_framed h₁ []
  obtain ⟨took, shown, hshown, hkeep⟩ :=
    keepOutcome_perform { s with statement := t } (congrArg Prod.fst hstop) result
  rw [hstop] at hkeep
  dsimp only [Outcome.framed]
  rw [hkeep]
  exact ⟨⟨rfl, rfl, rfl, rfl⟩, ⟨took, shown, hshown, rfl, rfl⟩, h₂⟩

/-! ### Any request -/

theorem Follows.returning {log : String} {o : Outcome LoggedStatement Unit}
    {p : Outcome PreparedStatement Unit} (h : Follows log o p) (answer : α) :
    Follows log (o.andThen fun _ => pure answer) (p.andThen fun _ => pure answer) := by
  obtain ⟨result, s, env⟩ := o
  obtain ⟨result', t, env'⟩ := p
  obtain ⟨rfl, hstatement, hlog, henvironment⟩ := h
  cases result with
  | ok u => exact ⟨rfl, hstatement, hlog, henvironment⟩
  | error e => exact ⟨rfl, hstatement, hlog, henvironment⟩

theorem Logs.returning {log : String} {o : Outcome LoggedStatement Unit}
    {p : Outcome PreparedStatement Unit} (h : Logs log o p) (hresult : o.result = p.result)
    (answer : α) : Logs log (o.andThen fun _ => pure answer) (p.andThen fun _ => pure answer) := by
  obtain ⟨result, s, env⟩ := o
  obtain ⟨result', t, env'⟩ := p
  obtain rfl : result = result' := hresult
  cases result with
  | ok u => exact h
  | error e => exact h

/-- What is recorded: of an execution its entry, behind what the statement itself has recorded. -/
def Recorded (log : String) (o : Outcome LoggedStatement Value)
    (p : Outcome PreparedStatement Value) : Request → Prop
  | .execute _ =>
    Logs log o p ∧ ∀ record ∈ p.environment.records, record.channel = .preparedStatement
  | _ => o.environment.records = p.environment.records

theorem answer_follows (request : Request) (s : LoggedStatement) (env : Environment)
    {clock : List Instant} (h : Fractions clock) :
    let o := (answer request).perform s (env.nextStep.framed clock [])
    let p := (PreparedStatement.answer request).perform s.statement env.nextStep
    Follows s.log o p ∧ Recorded s.log o p request ∧ Fractions o.environment.clock := by
  have hother : ∀ action : Action PreparedStatement Value, Action.Unaware action →
      let o := (onStatement action).perform s (env.nextStep.framed clock [])
      let p := action.perform s.statement env.nextStep
      Follows s.log o p ∧ o.environment.records = p.environment.records ∧
        Fractions o.environment.clock := by
    intro action hunaware
    have hframed := hunaware.perform_framed s.statement env.nextStep clock []
    unfold onStatement
    rw [Action.perform_within, hframed]
    exact ⟨⟨rfl, rfl, rfl, rfl⟩, rfl, h⟩
  cases request with
  | execute parameters =>
    obtain ⟨hfollows, hlogs, hfractions⟩ := execute_follows parameters s env.nextStep h
    obtain ⟨more, hmore, hchannel⟩ :=
      PreparedStatement.writesOn_execute parameters s.statement env.nextStep
    have hreached := hfollows.returning (Value.bool true)
    have hlogged := hlogs.returning hfollows.result_eq (Value.bool true)
    rw [← Action.perform_bind, ← Action.perform_bind] at hreached hlogged
    have hclock := (Action.returning_keeps (.bool true) (execute parameters) s
      (env.nextStep.framed clock [])).2
    have hplain := (Action.returning_keeps (.bool true) (PreparedStatement.execute parameters)
      s.statement env.nextStep).2
    refine ⟨hreached, ⟨hlogged, ?_⟩, ?_⟩
    · show ∀ record ∈ (((PreparedStatement.execute parameters).returning (.bool true)).perform
        s.statement env.nextStep).environment.records, record.channel = .preparedStatement
      rw [hplain, hmore]
      exact hchannel
    · show Fractions (((execute parameters).returning (.bool true)).perform s
        (env.nextStep.framed clock [])).environment.clock
      rw [hclock]
      exact hfractions
  | _ => exact hother _ (PreparedStatement.unaware_answer _)

/-! ### Runs -/

theorem follows_outcomes (requests : List Request) (s : LoggedStatement) {env env' : Environment}
    {clock : List Instant} (h : Fractions clock)
    (hframed : env'.nextStep = env.nextStep.framed clock []) :
    List.Forall₂ (fun item p => Follows s.log item.2 p ∧ Recorded s.log item.2 p item.1)
      (Action.history answer requests s env')
      (Action.outcomes (requests.map PreparedStatement.answer) s.statement env) := by
  induction requests generalizing s env env' clock with
  | nil => exact .nil
  | cons request rest ih =>
    obtain ⟨hfollows, hrecorded, hfractions⟩ := answer_follows request s env h
    rw [← hframed] at hfollows hrecorded hfractions
    let o := (answer request).perform s env'.nextStep
    let p := (PreparedStatement.answer request).perform s.statement env.nextStep
    have hnext : o.environment.nextStep =
        p.environment.nextStep.framed o.environment.clock [] := by
      rw [hfollows.environment_eq]
      rfl
    have hrest := ih o.state hfractions hnext
    rw [hfollows.log_eq, hfollows.statement_eq] at hrest
    exact .cons ⟨hfollows, hrecorded⟩ hrest

def refusedExecution : Fault := { kind := .other "DatabaseError", text := "ORA-06550" }

/-- A database that refuses the first execution. -/
def refusing : Environment where
  answering := .inTurn [{ failure := some refusedExecution }]

end LoggedStatement

end OracleCatalog
