import OracleCatalog.Proofs.Statement.Wrapping

/-!
# What a request asks of the cursor

Fetching asks the cursor for rows until a buffer has found the end and closed it, and for none from
then on. An execution asks once, if it gets that far, and its buffer has not found the end.
-/

namespace OracleCatalog

open OracleCatalog.Action (Keeps Quiet)

/-! ### Requests to a cursor -/

/-- The event needs the cursor to be open. -/
def Event.Uses (cursor : Nat) : Event → Prop
  | .execute n _ _ => n = cursor
  | .fetchOne n => n = cursor
  | .fetchAll n => n = cursor
  | _ => False

/-- What is asked of a cursor, from not having found the end of the rows, or having done so: nothing
at all, or for rows, and then to close it when the end has been found. -/
inductive Asked (cursor : Nat) : Bool → List Event → Bool → Prop where
  | nothing (ended : Bool) : Asked cursor ended [] ended
  | uses {event : Event} {events : List Event} {ended : Bool} (use : event.Uses cursor)
      (rest : Asked cursor false events ended) : Asked cursor false (event :: events) ended
  | ends {event : Event} (use : event.Uses cursor) :
      Asked cursor false [event, .close cursor] true

namespace Asked

variable {cursor : Nat} {before middle after : Bool} {events more : List Event}

theorem of_ended (h : Asked cursor true events after) : events = [] ∧ after = true := by
  cases h with
  | nothing _ => exact ⟨rfl, rfl⟩

theorem append (h : Asked cursor before events middle) (h' : Asked cursor middle more after) :
    Asked cursor before (events ++ more) after := by
  induction h with
  | nothing _ => exact h'
  | uses use _ ih => exact .uses use (ih h')
  | ends use =>
    obtain ⟨rfl, rfl⟩ := h'.of_ended
    exact .ends use

theorem exists_use (h : Asked cursor before events after) (hne : events ≠ []) :
    ∃ event ∈ events, event.Uses cursor := by
  cases h with
  | nothing _ => exact absurd rfl hne
  | uses use _ => exact ⟨_, List.mem_cons_self, use⟩
  | ends use => exact ⟨_, List.mem_cons_self, use⟩

theorem ended_of_close (h : Asked cursor before events after) (hclose : .close cursor ∈ events) :
    after = true := by
  induction h with
  | nothing _ => cases hclose
  | uses use _ ih =>
    rcases List.mem_cons.1 hclose with rfl | hrest
    · exact use.elim
    · exact ih hrest
  | ends _ => rfl

theorem close_of_ended (h : Asked cursor before events after) (hafter : after = true) :
    before = true ∨ .close cursor ∈ events := by
  induction h with
  | nothing _ => exact .inl hafter
  | uses _ _ ih =>
    rcases ih hafter with hfalse | hrest
    · cases hfalse
    · exact .inr (List.mem_cons_of_mem _ hrest)
  | ends _ => exact .inr (List.mem_cons_of_mem _ List.mem_cons_self)

/-- Closing is the last thing that is asked. -/
theorem unused_once_closed (h : Asked cursor before events after) :
    events.Pairwise fun e e' => e = .close cursor → ¬ e'.Uses cursor := by
  induction h with
  | nothing _ => exact List.Pairwise.nil
  | uses use _ ih =>
    refine List.pairwise_cons.2 ⟨fun e' _ heq => ?_, ih⟩
    rw [heq] at use
    exact use.elim
  | ends use =>
    refine List.pairwise_pair.2 fun heq => ?_
    rw [heq] at use
    exact use.elim

end Asked

/-! ### Actions -/

namespace Action

variable {σ α β : Type} {cursor : Nat} {I : σ → Prop} {ended : σ → Bool}

/-- Where the property holds, the action keeps it and asks this of the cursor. -/
def Asks (cursor : Nat) (I : σ → Prop) (ended : σ → Bool) (action : Action σ α) : Prop :=
  ∀ s env, I s → I (action.perform s env).state ∧
    ∃ events, (action.perform s env).environment.events = env.events ++ events ∧
      Asked cursor (ended s) events (ended (action.perform s env).state)

theorem asks_of_quiet {action : Action σ α} (hquiet : Quiet action) (hkeeps : Keeps I action)
    (hended : ∀ b, Keeps (ended · = b) action) : Asks cursor I ended action := by
  intro s env hs
  refine ⟨hkeeps s env hs, [], ?_, ?_⟩
  · rw [List.append_nil]
    exact (hquiet s env).1
  · rw [hended (ended s) s env rfl]
    exact .nothing _

theorem asks_pure (a : α) : Asks cursor I ended (pure a) :=
  asks_of_quiet (quiet_pure a) (keeps_pure a) fun _ => keeps_pure a

theorem asks_ofReading (reading : Reading α) : Asks cursor I ended (ofReading reading) :=
  asks_of_quiet (quiet_ofReading reading) (keeps_ofReading reading) fun _ =>
    keeps_ofReading reading

theorem asks_bind {action : Action σ α} {next : α → Action σ β} (h : Asks cursor I ended action)
    (hnext : ∀ a, Asks cursor I ended (next a)) : Asks cursor I ended (action >>= next) := by
  intro s env hs
  obtain ⟨hstate, events, hevents, hasked⟩ := h s env hs
  rw [perform_bind]
  unfold Outcome.andThen
  cases (action.perform s env).result with
  | error e => exact ⟨hstate, events, hevents, hasked⟩
  | ok a =>
    obtain ⟨hstate', more, hmore, hasked'⟩ := hnext a _ (action.perform s env).environment hstate
    refine ⟨hstate', events ++ more, ?_, hasked.append hasked'⟩
    rw [hmore, hevents, List.append_assoc]

end Action

open OracleCatalog.Action (Asks)

/-! ### The inner statement -/

namespace InnerStatement

/-- A buffer that has found the end of the rows, and closed the cursor. -/
def ended : InnerStatement → Bool
  | .plain _ => false
  | .buffered _ buffer => buffer.isComplete

theorem ended_withBase (inner : InnerStatement) (s : PlainStatement) :
    (inner.withBase s).ended = inner.ended := by
  cases inner with
  | plain _ => rfl
  | buffered inner buffer => rfl

variable {origin : PlainStatement} {held : Cursor} {wrapping : Wrapping}

theorem Pulls.asked {shape : RowShape} {s : PlainStatement} {buffer : Buffer}
    {env env' : Environment} {reached : InnerStatement} (h : Pulls shape s buffer env reached env')
    (hreading : buffer.isComplete = false) :
    ∃ events, env'.events = env.events ++ events ∧
      Asked s.cursor.number false events reached.ended := by
  have use : Event.Uses s.cursor.number (.fetchOne s.cursor.number) := rfl
  cases h with
  | fails =>
    refine ⟨[.fetchOne s.cursor.number], rfl, .uses use ?_⟩
    rw [ended, hreading]
    exact .nothing _
  | ends =>
    refine ⟨[.fetchOne s.cursor.number, .close s.cursor.number], ?_, .ends use⟩
    simp [Environment.observe]
  | takes taken kept_eq => exact ⟨[.fetchOne s.cursor.number], rfl, .uses use (.nothing _)⟩

theorem asks_fetch (shape : RowShape) :
    Asks origin.cursor.number (Wrapped origin held wrapping) ended (fetch shape) := by
  intro inner env h
  refine ⟨keeps_wrapped_fetch shape inner env h, ?_⟩
  have hnumber := h.later.number_eq
  show ∃ events, (fetchFrom shape inner env).environment.events = _ ∧
    Asked _ inner.ended events (fetchFrom shape inner env).state.ended
  cases h with
  | @bare _ s _ _ _ =>
    refine ⟨[.fetchOne s.cursor.number], ?_, .uses hnumber (.nothing _)⟩
    rw [fetchFrom_plain]
    rfl
  | @buffered s buffer _ _ _ =>
    cases hcomplete : buffer.isComplete with
    | false =>
      have hasked := (fetchFrom_pulls shape s env hcomplete).asked hcomplete
      rw [ended, hcomplete, ← hnumber]
      exact hasked
    | true =>
      refine ⟨[], ?_, ?_⟩
      · unfold fetchFrom
        simp [hcomplete]
      · unfold fetchFrom
        simp only [hcomplete, if_true]
        exact .nothing _

theorem asks_drain (shape : RowShape) (bound : Nat) :
    Asks origin.cursor.number (Wrapped origin held wrapping) ended (drain shape bound) := by
  induction bound with
  | zero => exact Action.asks_pure ()
  | succ bound ih =>
    have hstate : Asks origin.cursor.number (Wrapped origin held wrapping) ended Action.state :=
      Action.asks_of_quiet Action.quiet_state (fun _ _ h => h) fun _ _ _ h => h
    refine Action.asks_bind hstate fun s => ?_
    cases s.isComplete with
    | true => exact Action.asks_pure ()
    | false => exact Action.asks_bind (asks_fetch shape) fun _ => ih

theorem asks_fetchAll (shape : RowShape) :
    Asks origin.cursor.number (Wrapped origin held wrapping) ended (fetchAll shape) := by
  have hstate : Asks origin.cursor.number (Wrapped origin held wrapping) ended Action.state :=
    Action.asks_of_quiet Action.quiet_state (fun _ _ h => h) fun _ _ _ h => h
  intro inner env h
  cases inner with
  | buffered inner buffer =>
    have hdrained : Asks origin.cursor.number (Wrapped origin held wrapping) ended
        (do drain shape (remaining (.buffered inner buffer) + 1)
            return ((← Action.state).buffer?.map (·.rows)).getD []) :=
      Action.asks_bind (asks_drain shape _) fun _ => Action.asks_bind hstate fun _ =>
        Action.asks_pure _
    exact hdrained _ env h
  | plain s =>
    refine ⟨keeps_wrapped_fetchAll shape _ env h, ?_⟩
    have hnumber := h.later.number_eq
    have hasked : (fetchAll shape).perform (.plain s) env =
        (onBase (PlainStatement.fetchAll shape)).perform (.plain s) env := rfl
    rw [hasked, onBase, Action.perform_within, base, PlainStatement.fetchAll_perform]
    exact ⟨[.fetchAll s.cursor.number], rfl, .uses hnumber (.nothing _)⟩

end InnerStatement

namespace PreparedStatement

/-! ### Binding -/

variable {origin : PlainStatement}

theorem ignoresBindings_ended (b : Bool) : IgnoresBindings (·.inner.ended = b) where
  shown := fun h _ _ => h
  sent := fun h _ => (InnerStatement.ended_withBase _ _).trans h

theorem ignoresBindings_whole : IgnoresBindings (Whole origin) where
  shown := fun h _ _ => h
  sent := fun ⟨held, h⟩ bindings => ⟨held, steady_wrapped.ignores.sent h bindings⟩

theorem asks_bindValue (placeholder value type : Value) :
    Asks origin.cursor.number (Whole origin) (·.inner.ended) (bindValue placeholder value type) :=
  Action.asks_of_quiet (quiet_binding.bindValue placeholder value type)
    (ignoresBindings_whole.binding.bindValue placeholder value type)
    fun b => (ignoresBindings_ended b).binding.bindValue placeholder value type

theorem asks_bind (parameters types : Value) :
    Asks origin.cursor.number (Whole origin) (·.inner.ended) (bind parameters types) :=
  Action.asks_of_quiet (quiet_binding.bindAll parameters types)
    (ignoresBindings_whole.binding.bindAll parameters types)
    fun b => (ignoresBindings_ended b).binding.bindAll parameters types

/-! ### Fetching -/

theorem asks_onInner {α : Type} {action : Action InnerStatement α}
    (h : ∀ held wrapping, Asks origin.cursor.number
      (InnerStatement.Wrapped origin held wrapping) InnerStatement.ended action) :
    Asks origin.cursor.number (Whole origin) (·.inner.ended) (onInner action) := by
  rintro s env ⟨held, hs⟩
  obtain ⟨hwrapped, hasked⟩ := h held s.wrapping s.inner env hs
  exact ⟨⟨held, hwrapped⟩, hasked⟩

/-! ### Executing -/

theorem Fresh.ended_eq {s : PreparedStatement} (h : Fresh origin s) : s.inner.ended = false := by
  cases h with
  | bare _ _ inner_eq _ => rw [inner_eq]; rfl
  | buffered _ _ inner_eq _ => rw [inner_eq]; rfl

/-- An execution asks once or, if it fails before that, not at all. -/
theorem execute_asked (parameters : Value) {s : PreparedStatement} (hwhole : Whole origin s)
    (env : Environment) :
    Whole origin ((execute parameters).perform s env).state ∧
      ∃ events, ((execute parameters).perform s env).environment.events = env.events ++ events ∧
        Asked origin.cursor.number false events
          ((execute parameters).perform s env).state.inner.ended := by
  obtain ⟨held, hs⟩ := hwhole
  have hafter := fresh_of_execute parameters hs env
  refine ⟨⟨_, hafter.wrapped⟩, ?_⟩
  rw [hafter.ended_eq]
  obtain ⟨hprepared, hfresh⟩ := fresh_of_prepareBuffer hs env
  obtain ⟨hquiet, -⟩ := quiet_prepareBuffer s env
  rw [execute_perform parameters hprepared]
  generalize prepareBuffer.perform s env = o at *
  have hrebound :=
    ignoresBindings_fresh.binding.rebind parameters o.state o.environment hfresh
  obtain ⟨hquiet', -⟩ := quiet_binding.rebind parameters o.state o.environment
  generalize (rebind parameters).perform o.state o.environment = b at *
  unfold Outcome.andThen
  split
  · refine ⟨[.execute b.state.inner.base.cursor.number b.state.inner.base.sql
      b.state.inner.base.bindings.sent], ?_, .uses hrebound.wrapped.later.number_eq (.nothing _)⟩
    rw [← hquiet, ← hquiet', send_sends]
  · refine ⟨[], ?_, .nothing _⟩
    rw [List.append_nil]
    exact hquiet'.trans hquiet

/-! ### Requests -/

theorem asks_returning {action : Action PreparedStatement Unit}
    (h : Asks origin.cursor.number (Whole origin) (·.inner.ended) action) (answer : Value) :
    Asks origin.cursor.number (Whole origin) (·.inner.ended) (action.returning answer) :=
  Action.asks_bind h fun _ => Action.asks_pure answer

theorem asks_reading (f : PreparedStatement → Value) :
    Asks origin.cursor.number (Whole origin) (·.inner.ended)
      (Action.state >>= fun s => pure (f s)) :=
  Action.asks_of_quiet (Action.quiet_bind Action.quiet_state fun s => Action.quiet_pure (f s))
    (Action.keeps_reading f) fun _ => Action.keeps_reading f

theorem asks_answer {request : Request} (hclose : request ≠ .close)
    (hexecute : ∀ parameters, request ≠ .execute parameters) :
    Asks origin.cursor.number (Whole origin) (·.inner.ended) (answer request) := by
  cases request with
  | close => exact absurd rfl hclose
  | execute parameters => exact absurd rfl (hexecute parameters)
  | bind parameters types => exact asks_returning (asks_bind parameters types) _
  | bindValue placeholder value type =>
    exact asks_returning (asks_bindValue placeholder value type) _
  | clearBindings =>
    exact asks_returning (Action.asks_of_quiet quiet_binding.clearBindings
      ignoresBindings_whole.binding.clearBindings
      fun b => (ignoresBindings_ended b).binding.clearBindings) _
  | fetch shape =>
    exact Action.asks_bind (asks_onInner fun _ _ => InnerStatement.asks_fetch shape) fun _ =>
      Action.asks_ofReading _
  | fetchAll shape =>
    refine Action.asks_bind (Action.asks_bind
      (asks_onInner fun _ _ => InnerStatement.asks_fetchAll shape) fun _ =>
        Action.asks_ofReading _) fun _ => Action.asks_pure _
  | rowCount => exact asks_reading _
  | text => exact asks_reading _
  | bound => exact asks_reading _
  | buffer wanted =>
    refine asks_returning (Action.asks_of_quiet (Action.quiet_change _) ?_ fun b => ?_) _
    · exact Action.keeps_change fun _ hs => hs
    · exact Action.keeps_change fun _ hs => hs

/-- A request that does not close the cursor goes on from what has been found before; an execution
begins again. -/
theorem answer_asked {request : Request} (hclose : request ≠ .close) {s : PreparedStatement}
    (hwhole : Whole origin s) (env : Environment) :
    Whole origin ((answer request).perform s env).state ∧
      ∃ start events,
        (start = s.inner.ended ∨ start = false ∧ ∃ parameters, request = .execute parameters) ∧
        ((answer request).perform s env).environment.events = env.events ++ events ∧
        Asked origin.cursor.number start events
          ((answer request).perform s env).state.inner.ended := by
  by_cases hexecute : ∃ parameters, request = .execute parameters
  · obtain ⟨parameters, rfl⟩ := hexecute
    obtain ⟨hwhole', events, hevents, hasked⟩ := execute_asked parameters hwhole env
    obtain ⟨hstate, henv⟩ := Action.returning_keeps (.bool true) (execute parameters) s env
    rw [← hstate] at hwhole' hasked
    rw [← henv] at hevents
    exact ⟨hwhole', false, events, .inr ⟨rfl, parameters, rfl⟩, hevents, hasked⟩
  · have hother : ∀ parameters, request ≠ .execute parameters :=
      fun parameters heq => hexecute ⟨parameters, heq⟩
    obtain ⟨hwhole', events, hevents, hasked⟩ := asks_answer hclose hother s env hwhole
    exact ⟨hwhole', s.inner.ended, events, .inl rfl, hevents, hasked⟩

end PreparedStatement

end OracleCatalog
