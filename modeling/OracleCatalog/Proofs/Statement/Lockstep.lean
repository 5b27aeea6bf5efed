import OracleCatalog.Proofs.Statement.Bindings
import OracleCatalog.Proofs.Statement.Placeholder
import OracleCatalog.Session.Connection

/-!
# Executions and their log

Every execution that sends values to the database writes the statement to the log, with the bound
values in the place of its placeholders. What is sent and what is bound does not depend on the text:
two statements of different texts that are asked for the same stay in lockstep.
-/

namespace OracleCatalog

/-! ### The clock -/

def Environment.TellsFractions (env : Environment) : Prop :=
  ∀ time ∈ env.clock, ∃ seconds, time = .binary seconds

theorem Environment.takeTime_keeps {env : Environment} (h : env.TellsFractions) :
    (∃ seconds, env.takeTime.1 = .binary seconds) ∧ env.takeTime.2.TellsFractions ∧
      env.takeTime.2.events = env.events := by
  unfold takeTime
  cases hclock : env.clock with
  | nil => exact ⟨⟨0, rfl⟩, h, rfl⟩
  | cons time clock =>
    unfold TellsFractions at h
    rw [hclock] at h
    obtain ⟨seconds, rfl⟩ := h time List.mem_cons_self
    exact ⟨⟨seconds, rfl⟩, fun time ht => h time (List.mem_cons_of_mem _ ht), rfl⟩

theorem Environment.tellsFractions_of_clock {env reached : Environment} (h : env.TellsFractions)
    (hclock : reached.clock = env.clock) : reached.TellsFractions := by
  unfold TellsFractions
  rw [hclock]
  exact h

/-! ### What the log shows of an execution -/

/-- The text with the values in the place of its placeholders; values that cannot be put in place
leave it as it is. -/
def shownText (bound : Entries) (sql : String) : String :=
  match LogEntry.interpolated { statement := sql, bound } with
  | .ok text => text
  | .error _ => sql

namespace LogEntry

def record (entry : LogEntry) (log took text : String) : Record :=
  { channel := .statements log
    level := .debug
    text := "duration=" ++ took ++ "ms rows=" ++ entry.rows.toText ++ " " ++ text ++
      entry.failureText }

/-- The warnings before the record of an entry: one where its values cannot be put in place. -/
def warnings (log : String) (entry : LogEntry) : List Record :=
  match entry.interpolated with
  | .ok _ => []
  | .error _ => [{
      channel := .statements log
      level := .warning
      text := "Could not interpolate statement parameters: " }]

theorem shown_cases (entry : LogEntry) (log : String) :
    (entry.warnings log = [] ∧
        entry.shown log = pure (shownText entry.bound entry.statement)) ∨
      ∃ warning, entry.warnings log =
          [{ channel := .statements log, level := .warning, text := warning }] ∧
        entry.shown log = do
          Noted.note (.statements log) .warning warning
          return shownText entry.bound entry.statement := by
  have hsame : entry.interpolated =
      interpolated { statement := entry.statement, bound := entry.bound } := rfl
  unfold shown shownText warnings
  rw [hsame]
  cases hbound : entry.bound with
  | nil =>
    have hnone : ∀ e ∈ ([] : Entries), ∃ i, e.1 = .int i := by
      intro e he
      cases he
    have hempty : interpolated { statement := entry.statement } =
        .ok (filled [] entry.statement) := interpolated_of_positions hnone
    rw [filled, List.map_nil, fillQuestions_nil, String.ofList_toList] at hempty
    rw [hempty]
    exact .inl ⟨rfl, rfl⟩
  | cons e rest =>
    cases interpolated { statement := entry.statement, bound := e :: rest } with
    | ok text => exact .inl ⟨rfl, rfl⟩
    | error e => exact .inr ⟨_, rfl, rfl⟩

theorem log_outcome {entry : LogEntry} {took : String} (htook : onePlaceText entry.took = .ok took)
    (log : String) :
    (entry.log log).outcome = (.ok (shownText entry.bound entry.statement),
      entry.warnings log ++ [entry.record log took (shownText entry.bound entry.statement)]) := by
  unfold LogEntry.log
  rcases shown_cases entry log with ⟨hwarnings, h⟩ | ⟨warning, hwarnings, h⟩
  · rw [h, htook, hwarnings]
    rfl
  · rw [h, htook, hwarnings]
    rfl

end LogEntry

namespace LoggedStatement

variable {α : Type} {sql sql' : String}

/-- The last record is that of an execution and shows the text. -/
def Shows (o : Outcome LoggedStatement α) (text : String) : Prop :=
  ∃ entry took, o.state.last = some entry ∧ onePlaceText entry.took = .ok took ∧
    o.environment.records.getLast? = some (entry.record o.state.log took text)

theorem Shows.unique {o : Outcome LoggedStatement α} {text text' : String} (h : Shows o text)
    (h' : Shows o text') : text = text' := by
  obtain ⟨entry, took, hentry, htook, hrecord⟩ := h
  obtain ⟨entry', took', hentry', htook', hrecord'⟩ := h'
  obtain rfl := Option.some.inj (hentry.symm.trans hentry')
  obtain rfl := Except.ok.inj (htook.symm.trans htook')
  have htexts := congrArg Record.text (Option.some.inj (hrecord.symm.trans hrecord'))
  exact (String.append_right_inj _).1 ((String.append_left_inj _).1 htexts)

theorem Shows.of_eq {β : Type} {o : Outcome LoggedStatement α} {p : Outcome LoggedStatement β}
    {text : String} (h : Shows o text)
    (hp : p.state = o.state ∧ p.environment = o.environment) : Shows p text := by
  unfold Shows at h ⊢
  rw [hp.1, hp.2]
  exact h

def entryOf (s : LoggedStatement) (seconds stop : Float) (rows : Value) (failure : Option Error) :
    LogEntry :=
  { statement := s.statement.text
    bound := s.statement.bound
    took := .float ((stop - seconds) * 1000)
    rows
    failure }

theorem keep_perform (s : LoggedStatement) {env : Environment} {seconds stop : Float}
    (hstop : env.takeTime.1 = .binary stop) (rows : Value) (failure : Option Error) :
    ∃ took, onePlaceText (entryOf s seconds stop rows failure).took = .ok took ∧
      (keep (.binary seconds) rows failure).perform s env =
        { result := .ok ()
          state := { s with last := some (entryOf s seconds stop rows failure) }
          environment := { env.takeTime.2 with
            records := env.takeTime.2.records ++
              ((entryOf s seconds stop rows failure).warnings s.log ++
                [(entryOf s seconds stop rows failure).record s.log took
                  (shownText s.statement.bound s.statement.text)]) } } := by
  have helapsed : Instant.elapsed (.binary seconds) (.binary stop) =
      .ok (.float ((stop - seconds) * 1000)) := rfl
  obtain ⟨took, htook⟩ : ∃ took, onePlaceText (entryOf s seconds stop rows failure).took =
      .ok took := ⟨_, rfl⟩
  have hlog := LogEntry.log_outcome htook s.log
  refine ⟨took, htook, ?_⟩
  unfold entryOf at hlog
  unfold keep readClock
  rw [Action.perform_bind, Action.perform_onEnvironment, Outcome.andThen_ok, hstop,
    Action.perform_bind, Action.perform_ofExcept, helapsed, Outcome.andThen_ok,
    Action.perform_bind, Action.perform_state, Outcome.andThen_ok, Action.perform_bind,
    Action.perform_change, Outcome.andThen_ok, Action.perform_bind, Action.perform_ofNoted, hlog,
    Outcome.andThen_ok, Action.perform_pure]
  rfl

theorem keep_spec (s : LoggedStatement) {env : Environment} (fractions : env.TellsFractions)
    (seconds : Float) (rows : Value) (failure : Option Error) :
    ((keep (.binary seconds) rows failure).perform s env).result = .ok () ∧
      ((keep (.binary seconds) rows failure).perform s env).state.statement = s.statement ∧
      ((keep (.binary seconds) rows failure).perform s env).environment.events = env.events ∧
      ((keep (.binary seconds) rows failure).perform s env).environment.TellsFractions ∧
      Shows ((keep (.binary seconds) rows failure).perform s env)
        (shownText s.statement.bound s.statement.text) := by
  obtain ⟨⟨stop, hstop⟩, hfractions, hevents⟩ := Environment.takeTime_keeps fractions
  obtain ⟨took, htook, hkeep⟩ := keep_perform s hstop rows failure
  rw [hkeep]
  refine ⟨rfl, rfl, hevents, hfractions, _, took, rfl, htook, ?_⟩
  dsimp only
  rw [← List.append_assoc]
  exact List.getLast?_concat

/-! ### One request -/

/-- An execution that has sent the values that are bound on the cursor, and shows the values that
the statement keeps as bound. -/
structure Executed (sql : String) (o : Outcome LoggedStatement α) : Prop where
  sends : ∃ cursor, o.environment.events =
    [.execute cursor sql o.state.statement.inner.base.bindings.sent]
  shows : Shows o (shownText o.state.statement.bound sql)

/-- What two statements with the same bindings come to when they are asked for the same. -/
structure Lockstep (sql sql' : String) (o o' : Outcome LoggedStatement α) : Prop where
  bindings : PreparedStatement.SameBindings sql sql' o.state.statement o'.state.statement
  fractions : o.environment.TellsFractions
  fractions' : o'.environment.TellsFractions
  cases : (o.environment.events = [] ∧ o'.environment.events = []) ∨
    Executed sql o ∧ Executed sql' o'

theorem execute_kept (parameters : Value) (s : LoggedStatement) {env : Environment}
    {seconds : Float} (hstart : env.takeTime.1 = .binary seconds)
    {o : Outcome PreparedStatement Unit}
    (ho : (PreparedStatement.execute parameters).perform s.statement env.takeTime.2 = o)
    (hkeep : ∀ rows failure, ((keep (.binary seconds) rows failure).perform
      { s with statement := o.state } o.environment).result = .ok ()) :
    ∃ rows failure,
      ((execute parameters).perform s env).state =
          ((keep (.binary seconds) rows failure).perform { s with statement := o.state }
            o.environment).state ∧
        ((execute parameters).perform s env).environment =
          ((keep (.binary seconds) rows failure).perform { s with statement := o.state }
            o.environment).environment := by
  unfold execute readClock onStatement
  rw [Action.perform_bind, Action.perform_onEnvironment, Outcome.andThen_ok, hstart,
    Action.perform_bind, Action.perform_attempt, Outcome.andThen_ok, Action.perform_within, ho]
  dsimp only
  obtain ⟨result, state, environment⟩ := o
  cases result with
  | ok _ =>
    refine ⟨state.rowCount, none, ?_⟩
    dsimp only
    rw [Action.perform_bind, Action.perform_state, Outcome.andThen_ok]
    exact ⟨rfl, rfl⟩
  -- the failure is raised again once its entry is kept
  | error e =>
    refine ⟨.int 0, some e, ?_⟩
    dsimp only
    rw [Action.perform_bind]
    unfold Outcome.andThen
    rw [hkeep (.int 0) (some e)]
    exact ⟨rfl, rfl⟩

theorem execute_spec (parameters : Value) (s : LoggedStatement) {env : Environment}
    (fractions : env.TellsFractions) {o : Outcome PreparedStatement Unit}
    (ho : (PreparedStatement.execute parameters).perform s.statement env.takeTime.2 = o)
    (hfractions : o.environment.TellsFractions) :
    ((execute parameters).perform s env).state.statement = o.state ∧
      ((execute parameters).perform s env).environment.events = o.environment.events ∧
      ((execute parameters).perform s env).environment.TellsFractions ∧
      Shows ((execute parameters).perform s env) (shownText o.state.bound o.state.text) := by
  obtain ⟨⟨seconds, hstart⟩, -, -⟩ := Environment.takeTime_keeps fractions
  have hkeep := fun rows failure =>
    keep_spec { s with statement := o.state } hfractions seconds rows failure
  obtain ⟨rows, failure, hreached⟩ :=
    execute_kept parameters s hstart ho fun rows failure => (hkeep rows failure).1
  obtain ⟨-, hstatement, hevents, hclock, hshows⟩ := hkeep rows failure
  refine ⟨?_, ?_, ?_, hshows.of_eq hreached⟩
  · rw [hreached.1]
    exact hstatement
  · rw [hreached.2]
    exact hevents
  · rw [hreached.2]
    exact hclock

theorem executed_of_send {parameters : Value} {s : LoggedStatement} {env env₁ : Environment}
    {s₁ : PreparedStatement} (fractions : env.TellsFractions)
    (hsend : (PreparedStatement.execute parameters).perform s.statement env.takeTime.2 =
      PreparedStatement.send.perform s₁ env₁)
    (hs₁ : PreparedStatement.SameBindings sql sql s₁ s₁) (hevents : env₁.events = [])
    (fractions₁ : env₁.TellsFractions) :
    Executed sql ((execute parameters).perform s env) ∧
      PreparedStatement.SameBindings sql sql ((execute parameters).perform s env).state.statement
        s₁ ∧
      ((execute parameters).perform s env).environment.TellsFractions := by
  obtain ⟨hsame, hclock, hsent⟩ := PreparedStatement.send_spec hs₁ env₁
  obtain ⟨hstate, hev, hfr, hshows⟩ := execute_spec parameters s fractions hsend
    (Environment.tellsFractions_of_clock fractions₁ hclock)
  rw [hevents, List.nil_append] at hsent
  rw [hsent] at hev
  rw [hsame.text_eq] at hshows
  rw [← hstate] at hshows hsame
  rw [← hsame.base.bindings_eq] at hev
  exact ⟨⟨⟨_, hev⟩, hshows⟩, hsame, hfr⟩

theorem lockstep_execute (parameters : Value) {s t : LoggedStatement}
    (hst : PreparedStatement.SameBindings sql sql' s.statement t.statement)
    {env env' : Environment} (hevents : env.events = []) (hevents' : env'.events = [])
    (fractions : env.TellsFractions) (fractions' : env'.TellsFractions) :
    Lockstep sql sql' ((execute parameters).perform s env)
      ((execute parameters).perform t env') := by
  obtain ⟨-, htime, htimeEvents⟩ := Environment.takeTime_keeps fractions
  obtain ⟨-, htime', htimeEvents'⟩ := Environment.takeTime_keeps fractions'
  obtain ⟨s₁, t₁, env₁, env₁', hbindings, ⟨hev, hcl⟩, ⟨hev', hcl'⟩, hcases⟩ :=
    PreparedStatement.execute_cases parameters hst env.takeTime.2 env'.takeTime.2
  have hquiet : env₁.events = [] := hev.trans (htimeEvents.trans hevents)
  have hquiet' : env₁'.events = [] := hev'.trans (htimeEvents'.trans hevents')
  have hfr₁ : env₁.TellsFractions := Environment.tellsFractions_of_clock htime hcl
  have hfr₁' : env₁'.TellsFractions := Environment.tellsFractions_of_clock htime' hcl'
  rcases hcases with ⟨hs, ht⟩ | ⟨e, hs, ht⟩
  · obtain ⟨hexecuted, hsame, hfr⟩ :=
      executed_of_send fractions hs hbindings.refl_left hquiet hfr₁
    obtain ⟨hexecuted', hsame', hfr'⟩ :=
      executed_of_send fractions' ht hbindings.symm.refl_left hquiet' hfr₁'
    exact ⟨hsame.trans (hbindings.trans hsame'.symm), hfr, hfr', .inr ⟨hexecuted, hexecuted'⟩⟩
  · obtain ⟨hstate, hev₂, hfr, -⟩ := execute_spec parameters s fractions hs hfr₁
    obtain ⟨hstate', hev₂', hfr', -⟩ := execute_spec parameters t fractions' ht hfr₁'
    refine ⟨?_, hfr, hfr', .inl ⟨hev₂.trans hquiet, hev₂'.trans hquiet'⟩⟩
    rw [hstate, hstate']
    exact hbindings

theorem lockstep_onStatement {action : Action PreparedStatement α} {s t : LoggedStatement}
    {env env' : Environment}
    (h : Action.Agree (PreparedStatement.Still env env')
      (PreparedStatement.SameBindings sql sql') Eq action action)
    (hst : PreparedStatement.SameBindings sql sql' s.statement t.statement)
    (hevents : env.events = []) (hevents' : env'.events = [])
    (fractions : env.TellsFractions) (fractions' : env'.TellsFractions) :
    Lockstep sql sql' ((onStatement action).perform s env)
      ((onStatement action).perform t env') := by
  obtain ⟨-, hstate, henv, henv'⟩ := h s.statement t.statement env env' hst ⟨rfl, rfl⟩
  refine ⟨hstate, ?_, ?_, .inl ⟨?_, ?_⟩⟩
  · exact henv.symm ▸ fractions
  · exact henv'.symm ▸ fractions'
  · exact (congrArg Environment.events henv).trans hevents
  · exact (congrArg Environment.events henv').trans hevents'

theorem Executed.of_eq {β : Type} {o : Outcome LoggedStatement α} {p : Outcome LoggedStatement β}
    (h : Executed sql o) (hp : p.state = o.state ∧ p.environment = o.environment) :
    Executed sql p := by
  have hshows := h.shows.of_eq hp
  rw [← hp.1] at hshows
  refine ⟨?_, hshows⟩
  rw [hp.1, hp.2]
  exact h.sends

theorem Lockstep.of_eq {β : Type} {o o' : Outcome LoggedStatement α}
    {p p' : Outcome LoggedStatement β} (h : Lockstep sql sql' o o')
    (hp : p.state = o.state ∧ p.environment = o.environment)
    (hp' : p'.state = o'.state ∧ p'.environment = o'.environment) : Lockstep sql sql' p p' := by
  refine ⟨?_, hp.2.symm ▸ h.fractions, hp'.2.symm ▸ h.fractions', ?_⟩
  · rw [hp.1, hp'.1]
    exact h.bindings
  · rcases h.cases with ⟨hquiet, hquiet'⟩ | ⟨hexecuted, hexecuted'⟩
    · exact .inl ⟨hp.2.symm ▸ hquiet, hp'.2.symm ▸ hquiet'⟩
    · exact .inr ⟨hexecuted.of_eq hp, hexecuted'.of_eq hp'⟩

theorem lockstep_answer {P : Value → Prop} {request : Request} (h : request.BindsOnly P)
    {s t : LoggedStatement}
    (hst : PreparedStatement.SameBindings sql sql' s.statement t.statement)
    {env env' : Environment} (hevents : env.events = []) (hevents' : env'.events = [])
    (fractions : env.TellsFractions) (fractions' : env'.TellsFractions) :
    Lockstep sql sql' ((answer request).perform s env) ((answer request).perform t env') := by
  cases request with
  | bind parameters types =>
    refine lockstep_onStatement ?_ hst hevents hevents' fractions fractions'
    exact Action.agree_bind_eq (PreparedStatement.agree_bind parameters types)
      fun _ => Action.agree_pure rfl
  | bindValue placeholder value type =>
    refine lockstep_onStatement ?_ hst hevents hevents' fractions fractions'
    exact Action.agree_bind_eq (PreparedStatement.agree_bindValue placeholder value type)
      fun _ => Action.agree_pure rfl
  | execute parameters =>
    exact (lockstep_execute parameters hst hevents hevents' fractions fractions').of_eq
      (Action.returning_keeps _ _ s env) (Action.returning_keeps _ _ t env')
  | _ => exact h.elim

/-! ### Runs -/

/-- Two statements with the same bindings stay in lockstep while both are asked for the same. -/
theorem lockstep_outcomes {P : Value → Prop} {requests : List Request}
    (h : ∀ request ∈ requests, request.BindsOnly P) {s t : LoggedStatement}
    (hst : PreparedStatement.SameBindings sql sql' s.statement t.statement)
    {env env' : Environment} (fractions : env.TellsFractions) (fractions' : env'.TellsFractions)
    {i : Nat} {o o' : Outcome LoggedStatement Value}
    (ho : (Action.outcomes (requests.map answer) s env)[i]? = some o)
    (ho' : (Action.outcomes (requests.map answer) t env')[i]? = some o') :
    Lockstep sql sql' o o' := by
  induction requests generalizing s t env env' i with
  | nil => cases ho
  | cons request rest ih =>
    have hstep : Lockstep sql sql' ((answer request).perform s env.nextStep)
        ((answer request).perform t env'.nextStep) :=
      lockstep_answer (h request List.mem_cons_self) hst rfl rfl fractions fractions'
    cases i with
    | zero =>
      cases ho
      cases ho'
      exact hstep
    | succ i =>
      exact ih (fun r hr => h r (List.mem_cons_of_mem _ hr)) hstep.bindings hstep.fractions
        hstep.fractions' ho ho'

/-- The statement that a connection prepares on a cursor. -/
def prepared (cursor : Cursor) (buffering : Value) (placeholders : Entries) (log sql : String) :
    LoggedStatement :=
  { statement := { inner := .plain { cursor, sql }, buffering, placeholders }, log }

theorem prepare_result (sql : String) (buffering : Value) (placeholders : Entries)
    (connection : Connection) (env : Environment) :
    ((Connection.prepare sql buffering placeholders).perform connection env).result =
      (Connection.openCursor.perform connection env).result.map fun cursor =>
        prepared cursor buffering placeholders
          (Connection.openCursor.perform connection env).state.log sql := by
  unfold Connection.prepare
  rw [Action.perform_bind]
  unfold Outcome.andThen
  cases (Connection.openCursor.perform connection env).result with
  | ok cursor => rfl
  | error e => rfl

theorem sameBindings_prepared (cursor : Cursor) (buffering : Value) (placeholders : Entries)
    (log sql sql' : String) :
    PreparedStatement.SameBindings sql sql'
      (prepared cursor buffering placeholders log sql).statement
      (prepared cursor buffering placeholders log sql').statement :=
  ⟨rfl, rfl, rfl, ⟨rfl, rfl, rfl⟩, rfl, rfl⟩

theorem tellsFractions_default : Environment.TellsFractions {} := by
  intro time htime
  cases htime

/-- What a prepared statement comes to when it is asked for one thing after the other. -/
def run (cursor : Cursor) (buffering : Value) (placeholders : Entries) (log : String)
    (env : Environment) (requests : List Request) (sql : String) :
    List (Outcome LoggedStatement Value) :=
  Action.outcomes (requests.map answer) (prepared cursor buffering placeholders log sql) env

section Runs

variable {P : Value → Prop} {R : Entries → Bindings → Prop} {cursor : Cursor} {buffering : Value}
  {placeholders : Entries} {log : String} {env : Environment} {requests : List Request}

theorem exists_counterpart (h : ∀ request ∈ requests, request.BindsOnly P)
    (fractions : env.TellsFractions) (sql' : String) {o : Outcome LoggedStatement Value}
    (ho : o ∈ run cursor buffering placeholders log env requests sql) :
    ∃ o' ∈ run cursor buffering placeholders log env requests sql', Lockstep sql sql' o o' := by
  obtain ⟨i, ho⟩ := List.mem_iff_getElem?.1 ho
  obtain ⟨hi, -⟩ := List.getElem?_eq_some_iff.1 ho
  have hi' : i < (run cursor buffering placeholders log env requests sql').length := by
    unfold run at hi ⊢
    rw [Action.length_outcomes] at hi ⊢
    exact hi
  exact ⟨_, List.getElem_mem hi', lockstep_outcomes h
    (sameBindings_prepared cursor buffering placeholders log sql sql') fractions fractions ho
    (List.getElem?_eq_getElem hi')⟩

theorem executed_of_run (h : ∀ request ∈ requests, request.BindsOnly P)
    (fractions : env.TellsFractions) {o : Outcome LoggedStatement Value}
    (ho : o ∈ run cursor buffering placeholders log env requests sql) :
    o.environment.events = [] ∨ Executed sql o := by
  obtain ⟨i, hi⟩ := List.mem_iff_getElem?.1 ho
  have hcases := (lockstep_outcomes h
    (sameBindings_prepared cursor buffering placeholders log sql sql) fractions fractions hi
    hi).cases
  exact hcases.imp And.left And.left

theorem related_of_run (tracking : Tracking P R)
    (finals : ∀ v ∈ OrderedMap.values placeholders, P v)
    (h : ∀ request ∈ requests, request.BindsOnly P) {o : Outcome LoggedStatement Value}
    (ho : o ∈ run cursor buffering placeholders log env requests sql) :
    R o.state.statement.bound o.state.statement.inner.base.bindings := by
  have hkeeps : ∀ action ∈ requests.map answer, Action.Keeps
      (fun s : LoggedStatement => PreparedStatement.Tracks R placeholders s.statement) action := by
    intro action haction
    obtain ⟨request, hrequest, rfl⟩ := List.mem_map.1 haction
    exact keeps_answer
      (PreparedStatement.keeps_answer tracking finals (h request hrequest).bindsIn)
  exact (Action.keeps_outcomes hkeeps ⟨rfl, tracking.start⟩ env o ho).related

end Runs

end LoggedStatement

end OracleCatalog
