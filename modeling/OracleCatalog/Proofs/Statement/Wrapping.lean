import OracleCatalog.Proofs.Statement.BindingFrame
import OracleCatalog.Proofs.Statement.Pulling

/-!
# Buffers around a statement

A prepared statement holds its statement on the cursor, or one buffer directly around it. An
execution decides which of the two, before anything can fail, and starts with an empty buffer. So
what a buffer has kept are rows that the cursor held behind the last execution.
-/

namespace OracleCatalog

open OracleCatalog.Action (Keeps)

/-! ### Later states of a statement -/

/-- The same statement at a later time: its cursor and its text do not change. -/
structure PlainStatement.IsLater (origin s : PlainStatement) : Prop where
  number_eq : s.cursor.number = origin.cursor.number
  sql_eq : s.sql = origin.sql

/-- The same cursor at a later time of one execution, when rows may have been fetched. -/
structure Cursor.IsRest (held cursor : Cursor) : Prop where
  columns_eq : cursor.columns = held.columns
  rows : cursor.rows <:+ held.rows

/-- Every row that the buffer has kept was held by the cursor. -/
def Buffer.DrawsFrom (held : Cursor) (buffer : Buffer) : Prop :=
  ∀ kept ∈ buffer.rows, ∃ row ∈ held.rows, ∃ (shape : RowShape) (shelf : Shelf),
    shelf.kept shape held.columns row = .ok kept

namespace PlainStatement

variable {origin s : PlainStatement} {held : Cursor}

theorem behindRow_later (h : origin.IsLater s) : origin.IsLater s.behindRow := by
  obtain ⟨hnumber, -, -⟩ := s.cursor.takeRow_spec
  exact ⟨hnumber.trans h.number_eq, h.sql_eq⟩

theorem behindRow_rest (h : held.IsRest s.cursor) : held.IsRest s.behindRow.cursor := by
  obtain ⟨-, hcolumns, hrows⟩ := s.cursor.takeRow_spec
  exact ⟨hcolumns.trans h.columns_eq, hrows.trans h.rows⟩

theorem execute_later (h : origin.IsLater s) (env : Environment) :
    origin.IsLater ((execute .null).perform s env).state := by
  rw [execute_null_perform, onCursor, Action.perform_within]
  unfold Cursor.execute
  rw [Action.perform_ofFunction]
  simp only [Environment.takeReply]
  split <;> exact ⟨h.number_eq, h.sql_eq⟩

end PlainStatement

/-! ### One buffer at most -/

namespace InnerStatement

/-- The statement on the cursor, or one buffer directly around it, as the wrapping says. -/
inductive Wrapped (origin : PlainStatement) (held : Cursor) : Wrapping → InnerStatement → Prop where
  | bare {wrapping : Wrapping} {s : PlainStatement} (unbuffered : wrapping ≠ .buffered)
      (later : origin.IsLater s) (rest : held.IsRest s.cursor) :
      Wrapped origin held wrapping (.plain s)
  | buffered {s : PlainStatement} {buffer : Buffer} (later : origin.IsLater s)
      (rest : held.IsRest s.cursor) (drawn : buffer.DrawsFrom held) :
      Wrapped origin held .buffered (.buffered (.plain s) buffer)

variable {origin : PlainStatement} {held : Cursor} {wrapping : Wrapping} {inner : InnerStatement}

theorem Wrapped.later (h : Wrapped origin held wrapping inner) : origin.IsLater inner.base := by
  cases h with
  | bare _ later _ => exact later
  | buffered later _ _ => exact later

theorem Wrapped.rest (h : Wrapped origin held wrapping inner) :
    held.IsRest inner.base.cursor := by
  cases h with
  | bare _ _ rest => exact rest
  | buffered _ rest _ => exact rest

theorem Wrapped.unwrapped_eq (h : Wrapped origin held wrapping inner) :
    inner.unwrapped = .plain inner.base := by
  cases h with
  | bare _ _ _ => rfl
  | buffered _ _ _ => rfl

theorem Wrapped.eq_plain (h : Wrapped origin held wrapping inner) (hw : wrapping ≠ .buffered) :
    inner = .plain inner.base := by
  cases h with
  | bare _ _ _ => rfl
  | buffered _ _ _ => exact absurd rfl hw

theorem Wrapped.buffered_iff (h : Wrapped origin held wrapping inner) :
    wrapping = .buffered ↔
      ∃ s buffer, inner = .buffered (.plain s) buffer ∧ origin.IsLater s := by
  cases h with
  | bare unbuffered _ _ => simp [unbuffered]
  | @buffered s buffer later _ _ => exact ⟨fun _ => ⟨s, buffer, rfl, later⟩, fun _ => rfl⟩

theorem Wrapped.drawn (h : Wrapped origin held wrapping inner) {buffer : Buffer}
    (hbuffer : inner.buffer? = some buffer) : buffer.DrawsFrom held := by
  cases h with
  | bare _ _ _ => cases hbuffer
  | buffered _ _ drawn =>
    obtain rfl := Option.some.inj hbuffer
    exact drawn

theorem Wrapped.withBase (h : Wrapped origin held wrapping inner) {t : PlainStatement}
    (later : origin.IsLater t) (rest : held.IsRest t.cursor) :
    Wrapped origin held wrapping (inner.withBase t) := by
  cases h with
  | bare unbuffered _ _ => exact .bare unbuffered later rest
  | buffered _ _ drawn => exact .buffered later rest drawn

theorem keeps_wrapped_close : Keeps (Wrapped origin held wrapping) close := by
  intro inner env h
  cases h with
  | bare unbuffered later rest => exact .bare unbuffered later rest
  | @buffered s buffer later rest drawn =>
    show Wrapped origin held .buffered (closeFrom (.buffered (.plain s) buffer) env).state
    unfold closeFrom
    cases buffer.isComplete with
    | true => exact .buffered later rest drawn
    | false => exact .buffered later rest drawn

theorem Pulls.wrapped {shape : RowShape} {s : PlainStatement} {buffer : Buffer}
    {env env' : Environment} {reached : InnerStatement} (h : Pulls shape s buffer env reached env')
    (later : origin.IsLater s) (rest : held.IsRest s.cursor) (drawn : buffer.DrawsFrom held) :
    Wrapped origin held .buffered reached := by
  have later' := PlainStatement.behindRow_later later
  have rest' := PlainStatement.behindRow_rest rest
  cases h with
  | fails => exact .buffered later' rest' drawn
  | ends => exact .buffered later' rest' drawn
  | @takes row kept shelf taken kept_eq =>
    refine .buffered later' rest' fun r hr => ?_
    rcases List.mem_append.1 hr with hr | hr
    · exact drawn r hr
    · have hkept := kept_eq r hr
      rw [rest.columns_eq] at hkept
      exact ⟨row, rest.rows.subset taken, shape, env.shelf, hkept⟩

theorem keeps_wrapped_fetch (shape : RowShape) :
    Keeps (Wrapped origin held wrapping) (fetch shape) := by
  intro inner env h
  show Wrapped origin held wrapping (fetchFrom shape inner env).state
  cases h with
  | @bare _ s unbuffered later rest =>
    rw [fetchFrom_plain]
    exact .bare unbuffered (PlainStatement.behindRow_later later)
      (PlainStatement.behindRow_rest rest)
  | @buffered s buffer later rest drawn =>
    cases hcomplete : buffer.isComplete with
    | false => exact (fetchFrom_pulls shape s env hcomplete).wrapped later rest drawn
    | true =>
      have hreplayed : (fetchFrom shape (.buffered (.plain s) buffer) env).state =
          .buffered (.plain s) { buffer with index := buffer.index + 1 } := by
        unfold fetchFrom
        simp only [hcomplete, if_true]
        rfl
      rw [hreplayed]
      exact .buffered later rest drawn

theorem keeps_wrapped_drain (shape : RowShape) (bound : Nat) :
    Keeps (Wrapped origin held wrapping) (drain shape bound) := by
  induction bound with
  | zero => exact Action.keeps_pure _
  | succ bound ih =>
    refine Action.keeps_state_bind fun s _ => ?_
    cases s.isComplete with
    | true => exact Action.keeps_pure _
    | false => exact Action.keeps_bind (keeps_wrapped_fetch shape) fun _ => ih

theorem keeps_wrapped_fetchAll (shape : RowShape) :
    Keeps (Wrapped origin held wrapping) (fetchAll shape) := by
  refine Action.keeps_state_bind fun asked _ => ?_
  cases asked with
  | buffered inner buffer =>
    refine Action.keeps_bind (keeps_wrapped_drain shape _) fun _ => ?_
    exact Action.keeps_state_bind fun _ _ => Action.keeps_pure _
  | plain _ =>
    intro inner env h
    obtain ⟨hnumber, hcolumns, hrows⟩ := inner.base.cursor.takeRows_spec
    show Wrapped origin held wrapping
      (inner.withBase ((PlainStatement.fetchAll shape).perform inner.base env).state)
    rw [PlainStatement.fetchAll_perform]
    exact h.withBase ⟨hnumber.trans h.later.number_eq, h.later.sql_eq⟩
      ⟨hcolumns.trans h.rest.columns_eq, hrows.trans h.rest.rows⟩

end InnerStatement

namespace PreparedStatement

/-! ### Executions -/

variable {origin : PlainStatement} {held : Cursor}

/-- What an execution leaves behind: an empty buffer around the statement if rows are to be
buffered, and the statement alone if not. -/
inductive Fresh (origin : PlainStatement) (s : PreparedStatement) : Prop where
  | bare {p : PlainStatement} (unwanted : s.buffering.truthy = false) (later : origin.IsLater p)
      (inner_eq : s.inner = .plain p) (wrapping_eq : s.wrapping = .unwrapped)
  | buffered {p : PlainStatement} (wanted : s.buffering.truthy = true) (later : origin.IsLater p)
      (inner_eq : s.inner = .buffered (.plain p) {}) (wrapping_eq : s.wrapping = .buffered)

theorem Fresh.wrapped {s : PreparedStatement} (h : Fresh origin s) :
    s.inner.Wrapped origin s.inner.base.cursor s.wrapping := by
  cases h with
  | bare _ later inner_eq wrapping_eq =>
    rw [inner_eq, wrapping_eq]
    exact .bare nofun later ⟨rfl, List.suffix_refl _⟩
  | buffered _ later inner_eq wrapping_eq =>
    have hempty : ∀ cursor : Cursor, Buffer.DrawsFrom cursor {} := fun _ _ hkept => by cases hkept
    rw [inner_eq, wrapping_eq]
    exact .buffered later ⟨rfl, List.suffix_refl _⟩ (hempty _)

theorem Fresh.withBase {s : PreparedStatement} (h : Fresh origin s) {t : PlainStatement}
    (later : origin.IsLater t) : Fresh origin { s with inner := s.inner.emptied.withBase t } := by
  cases h with
  | bare unwanted _ inner_eq wrapping_eq =>
    rw [inner_eq]
    exact .bare unwanted later rfl wrapping_eq
  | buffered wanted _ inner_eq wrapping_eq =>
    rw [inner_eq]
    exact .buffered wanted later rfl wrapping_eq

theorem ignoresBindings_fresh : IgnoresBindings (Fresh origin) where
  shown := by
    intro s h bound offset
    cases h with
    | bare unwanted later inner_eq wrapping_eq => exact .bare unwanted later inner_eq wrapping_eq
    | buffered wanted later inner_eq wrapping_eq =>
      exact .buffered wanted later inner_eq wrapping_eq
  sent := by
    intro s h bindings
    have later : origin.IsLater { s.inner.base with bindings } :=
      ⟨h.wrapped.later.number_eq, h.wrapped.later.sql_eq⟩
    cases h with
    | bare unwanted _ inner_eq wrapping_eq =>
      rw [inner_eq] at later ⊢
      exact .bare unwanted later rfl wrapping_eq
    | buffered wanted _ inner_eq wrapping_eq =>
      rw [inner_eq] at later ⊢
      exact .buffered wanted later rfl wrapping_eq

theorem released_inner {s : PreparedStatement} (h : s.inner.Wrapped origin held s.wrapping) :
    s.released.inner = .plain s.inner.base := by
  unfold released
  split
  · exact h.unwrapped_eq
  · next hwrapping => exact h.eq_plain (by simpa using hwrapping)

theorem fresh_of_prepareBuffer {s : PreparedStatement}
    (h : s.inner.Wrapped origin held s.wrapping) (env : Environment) :
    (prepareBuffer.perform s env).result = .ok () ∧
      Fresh origin (prepareBuffer.perform s env).state := by
  have hinner := released_inner h
  unfold prepareBuffer
  rw [Action.perform_bind, Action.perform_change, Outcome.andThen_ok, Action.perform_bind,
    Action.perform_state, Outcome.andThen_ok]
  cases hwanted : s.released.buffering.truthy with
  | true =>
    have hwrapped := congrArg (InnerStatement.buffered · {}) hinner
    exact ⟨rfl, .buffered hwanted h.later hwrapped rfl⟩
  | false => exact ⟨rfl, .bare hwanted h.later hinner rfl⟩

theorem keeps_fresh_send : Keeps (Fresh origin) send := by
  intro s env h
  rw [send_perform, InnerStatement.base_emptied]
  exact h.withBase (PlainStatement.execute_later h.wrapped.later env)

/-- An execution that fails leaves the same behind as one that succeeds. -/
theorem fresh_of_execute (parameters : Value) {s : PreparedStatement}
    (h : s.inner.Wrapped origin held s.wrapping) (env : Environment) :
    Fresh origin ((execute parameters).perform s env).state := by
  obtain ⟨hprepared, hfresh⟩ := fresh_of_prepareBuffer h env
  have hrebound := ignoresBindings_fresh.binding.rebind parameters _
    (prepareBuffer.perform s env).environment hfresh
  rw [execute_perform parameters hprepared]
  unfold Outcome.andThen
  split
  · exact keeps_fresh_send _ _ hrebound
  · exact hrebound

/-! ### Between executions -/

/-- A property that nothing changes but executions and what is asked of the buffer. -/
structure Steady (I : PreparedStatement → Prop) : Prop where
  ignores : IgnoresBindings I
  fetch : ∀ shape, Keeps I (onInner (InnerStatement.fetch shape))
  fetchAll : ∀ shape, Keeps I (onInner (InnerStatement.fetchAll shape))
  close : Keeps I (onInner InnerStatement.close)

theorem Steady.keeps_answer {I : PreparedStatement → Prop} (steady : Steady I) {request : Request}
    (hexecute : ∀ parameters, request ≠ .execute parameters)
    (hbuffer : ∀ wanted, request ≠ .buffer wanted) : Keeps I (answer request) := by
  cases request with
  | execute parameters => exact absurd rfl (hexecute parameters)
  | buffer wanted => exact absurd rfl (hbuffer wanted)
  | bind parameters types =>
    exact Action.keeps_returning (steady.ignores.binding.bindAll parameters types) _
  | bindValue placeholder value type =>
    exact Action.keeps_returning (steady.ignores.binding.bindValue placeholder value type) _
  | clearBindings => exact Action.keeps_returning steady.ignores.binding.clearBindings _
  | fetch shape => exact Action.keeps_bind (steady.fetch shape) fun _ => Action.keeps_ofReading _
  | fetchAll shape =>
    have hread := Action.keeps_bind (steady.fetchAll shape) fun rows =>
      Action.keeps_ofReading (rows.mapM Value.readLobs)
    exact Action.keeps_bind hread fun _ => Action.keeps_pure _
  | close => exact Action.keeps_returning steady.close _
  | rowCount => exact Action.keeps_reading _
  | text => exact Action.keeps_reading _
  | bound => exact Action.keeps_reading _

theorem steady_wrapped : Steady fun s => s.inner.Wrapped origin held s.wrapping where
  ignores := ⟨fun h _ _ => h, fun h _ => h.withBase ⟨h.later.number_eq, h.later.sql_eq⟩ h.rest⟩
  fetch := fun shape s env hs => InnerStatement.keeps_wrapped_fetch shape s.inner env hs
  fetchAll := fun shape s env hs => InnerStatement.keeps_wrapped_fetchAll shape s.inner env hs
  close := fun s env hs => InnerStatement.keeps_wrapped_close s.inner env hs

theorem keeps_wrapped_answer {request : Request}
    (h : ∀ parameters, request ≠ .execute parameters) :
    Keeps (fun s => s.inner.Wrapped origin held s.wrapping) (answer request) := by
  by_cases hbuffer : ∃ wanted, request = .buffer wanted
  · obtain ⟨wanted, rfl⟩ := hbuffer
    exact Action.keeps_returning (Action.keeps_change fun s hs => hs) .null
  · exact steady_wrapped.keeps_answer h fun wanted heq => hbuffer ⟨wanted, heq⟩

/-! ### What has been asked of the buffer -/

/-- Whether rows are to be buffered once a request has been answered. -/
def wanted (current : Value) : Request → Value
  | .buffer wanted => wanted
  | _ => current

/-- Whether rows are to be buffered once all requests have been answered. -/
def requested (buffering : Value) (requests : List Request) : Value :=
  requests.foldl wanted buffering

theorem steady_buffering (buffering : Value) : Steady (·.buffering = buffering) where
  ignores := ⟨fun h _ _ => h, fun h _ => h⟩
  fetch := fun _ _ _ h => h
  fetchAll := fun _ _ _ h => h
  close := fun _ _ h => h

theorem keeps_buffering_execute (buffering parameters : Value) :
    Keeps (·.buffering = buffering) (execute parameters) := by
  have binding := (steady_buffering buffering).ignores.binding
  have hreleased : ∀ s : PreparedStatement, s.released.buffering = s.buffering := by
    intro s
    unfold released
    split <;> rfl
  have hprepared : Keeps (·.buffering = buffering) prepareBuffer := by
    refine Action.keeps_bind (Action.keeps_change fun s hs => (hreleased s).trans hs) fun _ => ?_
    refine Action.keeps_state_bind fun s _ => ?_
    split
    · exact Action.keeps_bind (Action.keeps_change fun s hs => hs) fun _ =>
        Action.keeps_note _ _ _
    · exact Action.keeps_change fun s hs => hs
  exact binding.execute hprepared (fun _ _ hs => hs) parameters

theorem buffering_answer (request : Request) (s : PreparedStatement) (env : Environment) :
    ((answer request).perform s env).state.buffering = wanted s.buffering request := by
  cases request with
  | buffer wanted => rfl
  | execute parameters =>
    exact Action.keeps_returning (keeps_buffering_execute _ parameters) _ s env rfl
  | _ => exact (steady_buffering s.buffering).keeps_answer (by simp) (by simp) s env rfl

theorem buffering_outcomes {requests : List Request} {s : PreparedStatement} {env : Environment}
    {i : Nat} {o : Outcome PreparedStatement Value}
    (ho : (Action.outcomes (requests.map answer) s env)[i]? = some o) :
    o.state.buffering = requested s.buffering (requests.take (i + 1)) := by
  induction requests generalizing s env i with
  | nil => cases ho
  | cons request rest ih =>
    have hstep := buffering_answer request s env.nextStep
    cases i with
    | zero =>
      cases ho
      exact hstep
    | succ i =>
      rw [List.take_succ_cons, requested, List.foldl_cons, ← hstep]
      exact ih ho

/-! ### Runs -/

/-- A statement on the cursor or one buffer around it, with rows of some execution. -/
def Whole (origin : PlainStatement) (s : PreparedStatement) : Prop :=
  ∃ held, s.inner.Wrapped origin held s.wrapping

theorem keeps_whole_answer (request : Request) : Keeps (Whole origin) (answer request) := by
  rintro s env ⟨held, hs⟩
  by_cases hexecute : ∃ parameters, request = .execute parameters
  · obtain ⟨parameters, rfl⟩ := hexecute
    have hfresh := fresh_of_execute parameters hs env
    obtain ⟨hstate, -⟩ := Action.returning_keeps (.bool true) (execute parameters) s env
    rw [← hstate] at hfresh
    exact ⟨_, hfresh.wrapped⟩
  · have hother : ∀ parameters, request ≠ .execute parameters :=
      fun parameters heq => hexecute ⟨parameters, heq⟩
    exact ⟨held, keeps_wrapped_answer hother s env hs⟩

section Runs

variable {statement : PlainStatement} {buffering : Value} {placeholders : Entries}
  {ownText : Option String} {env : Environment} {requests : List Request}

/-- What a prepared statement comes to when it is asked for one thing after the other. -/
def run (statement : PlainStatement) (buffering : Value) (placeholders : Entries)
    (ownText : Option String) (env : Environment) (requests : List Request) :
    List (Outcome PreparedStatement Value) :=
  Action.outcomes (requests.map answer)
    { inner := .plain statement, buffering, placeholders, ownText } env

theorem whole_start : Whole statement
    { inner := .plain statement, buffering, placeholders, ownText } :=
  ⟨statement.cursor, .bare nofun ⟨rfl, rfl⟩ ⟨rfl, List.suffix_refl _⟩⟩

theorem keeps_whole_of_mem : ∀ action ∈ requests.map answer, Keeps (Whole statement) action := by
  intro action haction
  obtain ⟨request, -, rfl⟩ := List.mem_map.1 haction
  exact keeps_whole_answer request

theorem whole_of_run {o : Outcome PreparedStatement Value}
    (ho : o ∈ run statement buffering placeholders ownText env requests) :
    Whole statement o.state :=
  Action.keeps_outcomes keeps_whole_of_mem whole_start env o ho

theorem fresh_of_run {i : Nat} {o : Outcome PreparedStatement Value} {parameters : Value}
    (hrequest : requests[i]? = some (.execute parameters))
    (ho : (run statement buffering placeholders ownText env requests)[i]? = some o) :
    Fresh statement o.state := by
  have haction : (requests.map answer)[i]? = some (answer (.execute parameters)) := by
    rw [List.getElem?_map, hrequest]
    rfl
  obtain ⟨s, env', ⟨held, hs⟩, rfl⟩ :=
    Action.exists_perform_of_outcomes keeps_whole_of_mem whole_start haction ho
  obtain ⟨hstate, -⟩ :=
    Action.returning_keeps (.bool true) (execute parameters) s env'.nextStep
  have hfresh := fresh_of_execute parameters hs env'.nextStep
  rw [← hstate] at hfresh
  exact hfresh

theorem wrapped_of_run {i j : Nat} (hij : i ≤ j) {o o' : Outcome PreparedStatement Value}
    (hbetween : ∀ k parameters, i < k → k ≤ j → requests[k]? ≠ some (.execute parameters))
    (ho : (run statement buffering placeholders ownText env requests)[i]? = some o)
    (ho' : (run statement buffering placeholders ownText env requests)[j]? = some o')
    (hwrapped : o.state.inner.Wrapped statement held o.state.wrapping) :
    o'.state.inner.Wrapped statement held o'.state.wrapping := by
  refine Action.keeps_between (I := fun s => s.inner.Wrapped statement held s.wrapping) hij ?_ ho
    ho' hwrapped
  intro k action hik hkj haction
  rw [List.getElem?_map] at haction
  obtain ⟨request, hrequest, rfl⟩ := Option.map_eq_some_iff.1 haction
  refine keeps_wrapped_answer fun parameters heq => ?_
  rw [heq] at hrequest
  exact hbetween k parameters hik hkj hrequest

end Runs

/-- In every state that is reached the wrapping tells whether there is a buffer, which then is the
only one and directly around the statement. Every execution that is to buffer its rows leaves an
empty buffer behind, whether it succeeds or fails, and what a buffer keeps before the next execution
are rows that the cursor held behind this one. -/
theorem buffered_once_and_afresh (statement : PlainStatement) (buffering : Value)
    (placeholders : Entries) (ownText : Option String) (env : Environment)
    (requests : List Request) :
    (∀ o ∈ run statement buffering placeholders ownText env requests,
      (o.state.wrapping = .buffered ↔
        ∃ s buffer, o.state.inner = .buffered (.plain s) buffer ∧ statement.IsLater s) ∧
      (o.state.wrapping ≠ .buffered → ∃ s, o.state.inner = .plain s ∧ statement.IsLater s)) ∧
    ∀ i o parameters, requests[i]? = some (.execute parameters) →
      (run statement buffering placeholders ownText env requests)[i]? = some o →
      ((requested buffering (requests.take i)).truthy = true →
        ∃ s, o.state.inner = .buffered (.plain s) {}) ∧
      ∀ j o' buffer, i ≤ j →
        (∀ k parameters, i < k → k ≤ j → requests[k]? ≠ some (.execute parameters)) →
        (run statement buffering placeholders ownText env requests)[j]? = some o' →
        o'.state.inner.buffer? = some buffer → buffer.DrawsFrom o.state.inner.base.cursor := by
  constructor
  · intro o ho
    obtain ⟨held, hwrapped⟩ := whole_of_run ho
    exact ⟨hwrapped.buffered_iff, fun hunbuffered =>
      ⟨_, hwrapped.eq_plain hunbuffered, hwrapped.later⟩⟩
  · intro i o parameters hrequest ho
    have hfresh := fresh_of_run hrequest ho
    constructor
    · intro hwanted
      have hbuffering := buffering_outcomes ho
      rw [List.take_add_one, hrequest, requested, List.foldl_append] at hbuffering
      cases hfresh with
      | bare unwanted _ _ _ =>
        rw [hbuffering] at unwanted
        exact absurd (unwanted.symm.trans hwanted) Bool.false_ne_true
      | buffered _ _ inner_eq _ => exact ⟨_, inner_eq⟩
    · intro j o' buffer hij hbetween ho' hbuffer
      exact (wrapped_of_run hij hbetween ho ho' hfresh.wrapped).drawn hbuffer

/-- All rows of a first execution are buffered, and the second execution is refused. -/
def refusedRequests : List Request :=
  [.buffer (.bool true), .execute .null, .fetchAll .sequence, .execute .null, .fetch .sequence]

def refusal : Fault := { kind := .other "DatabaseError", text := "refused" }

def refusedRun : List (Outcome PreparedStatement Value) :=
  run { cursor := { number := 0 }, sql := "SELECT 1 FROM dual" } (.bool false) [] none
    { answering := .inTurn [{ rows := [[.int 1], [.int 2]] }, { failure := some refusal }] }
    refusedRequests

theorem buffered_afresh_when_refused :
    refusedRun[2].state.inner.buffer?.map (·.rows) = some [.list [.int 1], .list [.int 2]] ∧
      refusedRun[3].result = .error (.raised refusal) ∧
      (∃ s, refusedRun[3].state.inner = .buffered (.plain s) {}) ∧
      ∃ buffer, refusedRun[4].state.inner.buffer? = some buffer ∧
        buffer.DrawsFrom refusedRun[3].state.inner.base.cursor := by
  obtain ⟨-, hafresh⟩ := buffered_once_and_afresh
    { cursor := { number := 0 }, sql := "SELECT 1 FROM dual" } (.bool false) [] none
    { answering := .inTurn [{ rows := [[.int 1], [.int 2]] }, { failure := some refusal }] }
    refusedRequests
  obtain ⟨hempty, hdraws⟩ := hafresh 3 refusedRun[3] .null rfl rfl
  refine ⟨rfl, rfl, hempty rfl, _, rfl, hdraws 4 refusedRun[4] _ (by decide) ?_ rfl rfl⟩
  intro k parameters hk hk'
  obtain rfl : k = 4 := by omega
  nofun

end PreparedStatement

end OracleCatalog
