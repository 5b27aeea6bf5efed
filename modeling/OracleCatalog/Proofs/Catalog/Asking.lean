import OracleCatalog.Proofs.Catalog.Cursors
import OracleCatalog.Proofs.Query.Shape
import OracleCatalog.Proofs.Routine.Document
import OracleCatalog.Proofs.Session.Stores
import OracleCatalog.Proofs.Statement.Tracking

/-!
# Describing from the catalog

To describe a routine the catalog is asked: a cursor is requested, and the listing query is sent
unless the request fails. Whatever the database answers, no cache and no directory is changed, and a
description that is made has parameters that may all be declared.
-/

namespace OracleCatalog

open OracleCatalog.Action (Spares anyAnswer)

/-! ### What is kept -/

namespace Catalog

variable {α : Type} {P : α → Prop}

theorem spares_execute (channel : Channel) (query : Query) :
    Spares Connection.dialect anyAnswer (execute channel query) := by
  refine Action.spares_bind (Action.spares_attempt (Connection.spares_execute _ _)) ?_
  rintro (e | s) -
  · dsimp only
    cases e.isCatalog with
    | true => exact Action.spares_throw e
    | false =>
      exact Action.spares_bind (Action.spares_note _ _ _) fun _ _ => Action.spares_throw e.wrap
  · exact Action.spares_pure trivial

theorem spares_withQuery (channel : Channel) (query : Query) {read : Action PlainStatement α}
    (h : PlainStatement.Sparing P read) :
    Spares Connection.dialect P (withQuery channel query read) := by
  refine Action.spares_bind (spares_execute channel query) fun s _ => ?_
  refine Action.spares_bind (Action.spares_apart h) ?_
  rintro ⟨outcome, reached⟩ hanswer
  refine Action.spares_bind (Action.spares_apart PlainStatement.sparing_close) ?_
  rintro ⟨closed, reached'⟩ -
  refine Action.spares_ofExcept fun a ha => ?_
  cases closed with
  | ok _ => exact hanswer a ha
  | error e => cases ha

theorem sparing_firstValues (bound : Nat) :
    PlainStatement.Sparing anyAnswer (firstValues bound) := by
  induction bound with
  | zero => exact Action.spares_pure trivial
  | succ bound ih =>
    refine Action.spares_bind PlainStatement.sparing_fetchRow fun row _ => ?_
    cases row with
    | none => exact Action.spares_pure trivial
    | some row =>
      cases row with
      | nil => exact Action.spares_throw _
      | cons v rest => exact Action.spares_bind ih fun _ _ => Action.spares_pure trivial

theorem spares_firstColumn (channel : Channel) (query : Query) :
    Spares Connection.dialect anyAnswer (firstColumn channel query) :=
  spares_withQuery channel query
    (Action.spares_bind Action.spares_state fun _ _ => sparing_firstValues _)

theorem sparing_fetchRows : PlainStatement.Sparing anyAnswer fetchRows :=
  Action.spares_bind (PlainStatement.sparing_fetchAll .keyed) fun _ _ => Action.spares_pure trivial

end Catalog

namespace Routines

variable (routines : Routines)

theorem spares_find (name : Value) :
    Spares Connection.dialect anyAnswer (routines.find name) := by
  refine Action.spares_bind Action.spares_state fun connection _ => ?_
  refine Action.spares_bind (P := anyAnswer) (Action.spares_ofExcept fun _ _ => trivial)
    fun query _ => ?_
  exact Catalog.spares_firstColumn routines.channel query

theorem spares_foldParameters (name : Value) :
    Spares Connection.dialect RoutineBuilder.IsSound (routines.foldParameters name) := by
  refine Action.spares_bind (P := anyAnswer) (Action.spares_ofExcept fun _ _ => trivial)
    fun target _ => ?_
  refine Catalog.spares_withQuery routines.channel _ ?_
  refine Action.spares_bind Catalog.sparing_fetchRows fun rows _ => ?_
  refine Action.spares_ofNoted fun builder hbuilder => ?_
  obtain ⟨_, hgives⟩ := Noted.gives_of_outcome hbuilder
  refine RoutineBuilder.isSound_foldlM ?_ hgives
  intro p hp
  cases hp

/-- Describing changes nothing that is stored, and makes routines that may be declared. -/
theorem spares_describeFresh (name : Value) :
    Spares Connection.dialect Routine.IsSound (routines.describeFresh name) := by
  refine Action.spares_bind (routines.spares_find name) fun found _ => ?_
  have hfold : Spares Connection.dialect Routine.IsSound
      (do return (← routines.foldParameters name).build) :=
    Action.spares_bind (routines.spares_foldParameters name) fun _ hsound =>
      Action.spares_pure hsound
  cases found.isEmpty with
  | true =>
    exact Action.spares_bind (P := anyAnswer) (Action.spares_throw _) fun _ _ => hfold
  | false => exact hfold

end Routines

/-! ### What is asked -/

/-- The error of a catalog query that fails. -/
def Error.ofQuery (e : Error) : Error := if e.isCatalog then e else e.wrap

namespace Catalog

variable {σ τ α β : Type}

/-- The query has been put to the database: a cursor has been requested and, unless that has failed,
the text of the query has been sent. -/
def Asks (query : Query) (connection : Connection) (env : Environment) (o : Outcome σ α) : Prop :=
  let opening := Connection.openCursor.perform connection env
  match opening.result with
  | .ok cursor => ∃ parameters later, o.environment.events =
      opening.environment.events ++ .execute cursor.number query.text parameters :: later
  | .error e => o.result = .error e.ofQuery

/-- An action only adds events. -/
def Grows (action : Action σ α) : Prop :=
  ∀ s env, ∃ events, (action.perform s env).environment.events = env.events ++ events

theorem grows_of_turning {before : σ → Option Nat} {action : Action σ α}
    {after : Except Error α → σ → Option Nat} (h : Action.Turning before action after) :
    Grows action := by
  intro s env
  obtain ⟨events, hevents, -⟩ := h s env
  exact ⟨events, hevents⟩

variable {query : Query} {connection : Connection} {env : Environment}

/-- What comes behind a query does not undo it. -/
theorem Asks.andThen {o : Outcome τ α} (h : Asks query connection env o) {next : α → Action τ β}
    (hnext : ∀ a, Grows (next a)) : Asks query connection env (o.andThen next) := by
  unfold Asks at h ⊢
  dsimp only at h ⊢
  cases hopened : (Connection.openCursor.perform connection env).result with
  | error e =>
    rw [hopened] at h
    dsimp only at h ⊢
    unfold Outcome.andThen
    rw [h]
  | ok cursor =>
    rw [hopened] at h
    obtain ⟨parameters, later, hevents⟩ := h
    unfold Outcome.andThen
    cases o.result with
    | error e => exact ⟨parameters, later, hevents⟩
    | ok a =>
      obtain ⟨more, hmore⟩ := hnext a o.state o.environment
      refine ⟨parameters, later ++ more, ?_⟩
      dsimp only
      rw [hmore, hevents, List.append_assoc, List.cons_append]

theorem events_executeCursor (s : PlainStatement) (sql : String) (parameters : Value) :
    ((PlainStatement.onCursor (Cursor.execute sql parameters)).perform s env).environment.events =
      env.events ++ [.execute s.cursor.number sql parameters] := by
  unfold PlainStatement.onCursor Cursor.execute
  rw [Action.perform_within, Action.perform_ofFunction]
  simp only [Environment.takeReply]
  split <;> rfl

/-- Binding by names succeeds and asks nothing of the database. -/
theorem bindEach_names (env : Environment) (s : PlainStatement) (binds : OrderedMap String Value) :
    ∃ bindings,
      (PlainStatement.bindEach (binds.map fun (name, v) => (.text name, v))).perform s env =
      { result := .ok (), state := { s with bindings }, environment := env } := by
  induction binds generalizing s with
  | nil => exact ⟨s.bindings, rfl⟩
  | cons bind rest ih =>
    obtain ⟨name, v⟩ := bind
    obtain ⟨bindings, hrest⟩ := ih { s with
      bindings := { s.bindings with named := s.bindings.named.put (.text (bareName name)) v } }
    refine ⟨bindings, ?_⟩
    show (PlainStatement.bindValue (.text name) v >>= fun _ =>
      PlainStatement.bindEach (rest.map fun (name, v) => (.text name, v))).perform s env = _
    rw [Action.perform_bind, PlainStatement.bindValue_perform (Bindings.bind_text _ name v),
      Outcome.andThen_ok, hrest]

theorem events_executeStatement (query : Query) (s : PlainStatement) (env : Environment) :
    ∃ parameters, ((PlainStatement.execute (.map query.boundEntries)).perform s
      env).environment.events = env.events ++ [.execute s.cursor.number s.sql parameters] := by
  unfold PlainStatement.execute
  cases (Value.map query.boundEntries).truthy with
  | false =>
    refine ⟨s.bindings.sent, ?_⟩
    rw [if_neg Bool.false_ne_true]
    show ((PlainStatement.onCursor (Cursor.execute s.sql s.bindings.sent)).perform s
      env).environment.events = _
    exact events_executeCursor s s.sql s.bindings.sent
  | true =>
    obtain ⟨bindings, hbound⟩ := bindEach_names env { s with bindings := {} } query.binds
    refine ⟨bindings.sent, ?_⟩
    rw [if_pos rfl]
    show ((PlainStatement.bindEach query.boundEntries >>= fun _ => do
      let s ← Action.state
      PlainStatement.onCursor (Cursor.execute s.sql s.bindings.sent)).perform
        { s with bindings := {} } env).environment.events = _
    rw [Action.perform_bind, Query.boundEntries, hbound, Outcome.andThen_ok]
    exact events_executeCursor { s with bindings } s.sql bindings.sent

/-- The query of a statement is sent first; when it fails, the cursor is closed behind it. -/
theorem events_closingOnFailure (s : PlainStatement) (connection : Connection) (env : Environment) :
    ∃ parameters later, ((Connection.closingOnFailure s
      (PlainStatement.execute (.map query.boundEntries))).perform connection
        env).environment.events =
      env.events ++ .execute s.cursor.number s.sql parameters :: later := by
  obtain ⟨parameters, hsent⟩ := events_executeStatement query s env
  unfold Connection.closingOnFailure
  rw [Action.perform_bind, Action.perform_apart, Outcome.andThen_ok]
  cases ((PlainStatement.execute (.map query.boundEntries)).perform s env).result with
  | ok _ => exact ⟨parameters, [], hsent⟩
  | error e =>
    generalize (PlainStatement.execute (.map query.boundEntries)).perform s env = reached at hsent
    refine ⟨parameters, [.close reached.state.cursor.number], ?_⟩
    show reached.environment.events ++ [Event.close reached.state.cursor.number] = _
    rw [hsent, List.append_assoc, List.singleton_append]

/-- Sending a query with the cursor that has been opened for it. -/
def send (query : Query) (cursor : Cursor) : Action Connection PlainStatement := do
  Connection.noteQuery query.text
  Connection.closingOnFailure { cursor, sql := query.text }
    (PlainStatement.execute (.map query.boundEntries))

theorem events_send (cursor : Cursor) (connection : Connection) (env : Environment) :
    ∃ parameters later, ((send query cursor).perform connection env).environment.events =
      env.events ++ .execute cursor.number query.text parameters :: later := by
  unfold send Connection.noteQuery
  rw [Action.perform_bind, Action.perform_note, Outcome.andThen_ok]
  exact events_closingOnFailure { cursor, sql := query.text } connection _

/-- What the connection comes to is what the query comes to, up to the error. -/
theorem execute_perform (channel : Channel) (query : Query) (connection : Connection)
    (env : Environment) :
    ((execute channel query).perform connection env).result =
        (((Connection.openCursor >>= send query).perform connection env).result).mapError
          Error.ofQuery ∧
      ((execute channel query).perform connection env).environment.events =
        ((Connection.openCursor >>= send query).perform connection env).environment.events := by
  unfold execute
  rw [Connection.execute_text, Action.perform_bind, Action.perform_attempt, Outcome.andThen_ok]
  show _ = ((((Connection.openCursor >>= send query).perform connection env).result).mapError
    Error.ofQuery) ∧ _
  unfold send
  generalize (Connection.openCursor >>= _).perform connection env = o
  cases o.result with
  | ok s => exact ⟨rfl, rfl⟩
  | error e =>
    unfold Error.ofQuery Except.mapError
    dsimp only
    cases e.isCatalog <;> exact ⟨rfl, rfl⟩

theorem asks_execute (channel : Channel) :
    Asks query connection env ((execute channel query).perform connection env) := by
  obtain ⟨hresult, hevents⟩ := execute_perform channel query connection env
  unfold Asks
  dsimp only
  rw [hresult, hevents, Action.perform_bind]
  unfold Outcome.andThen
  cases (Connection.openCursor.perform connection env).result with
  | error e => exact rfl
  | ok cursor => exact events_send cursor _ _

theorem asks_withQuery (channel : Channel) {read : Action PlainStatement α}
    (h : PlainStatement.Reads read) :
    Asks query connection env ((withQuery channel query read).perform connection env) := by
  unfold withQuery
  rw [Action.perform_bind]
  refine (asks_execute channel).andThen fun s => ?_
  exact grows_of_turning (turning_read s h)

end Catalog

namespace Routines

variable (routines : Routines) {connection : Connection} {env : Environment} {query : Query}

/-- Describing a name puts the listing query of the name to the database. -/
theorem asks_describeFresh {name : Value}
    (h : Query.routines connection.dialect.folding { connection.settings with objectName := name } =
      .ok query) :
    Catalog.Asks query connection env ((routines.describeFresh name).perform connection env) := by
  have hfind : (routines.find name).perform connection env =
      (Catalog.firstColumn routines.channel query).perform connection env := by
    unfold find listing
    rw [Action.perform_bind, Action.perform_state, Outcome.andThen_ok]
    dsimp only
    rw [h]
    rfl
  unfold describeFresh
  rw [Action.perform_bind, hfind]
  refine (Catalog.asks_withQuery routines.channel ?_).andThen fun found => ?_
  · exact PlainStatement.reads_bind PlainStatement.reads_state fun _ =>
      Catalog.reads_firstValues _
  · have hfold : Action.Settles (do return (← routines.foldParameters name).build) :=
      Action.settles_bind (routines.settles_foldParameters name) fun _ => Action.settles_pure _
    cases found.isEmpty with
    | true => exact Catalog.grows_of_turning (Action.settles_throw _)
    | false => exact Catalog.grows_of_turning hfold

/-- There is a listing query of a name when schema and name are texts or missing, and it is put. -/
theorem exists_asks_describeFresh {name : Value} (hschema : connection.settings.schema.IsName)
    (hname : name.IsName) :
    ∃ query, Query.routines connection.dialect.folding
        { connection.settings with objectName := name } = .ok query ∧
      Catalog.Asks query connection env
        ((routines.describeFresh name).perform connection env) := by
  have hschema' : { connection.settings with objectName := name }.schema.IsName := hschema
  obtain ⟨query, hquery⟩ := CatalogQuestion.exists_query hschema' hname .routines
  exact ⟨query, hquery, routines.asks_describeFresh hquery⟩

/-- A description that is made has been asked for. -/
theorem events_ne_nil_of_describeFresh {name : Value} {routine : Routine}
    (h : ((routines.describeFresh name).perform connection env).result = .ok routine) :
    ((routines.describeFresh name).perform connection env).environment.events ≠ [] := by
  cases hquery : Query.routines connection.dialect.folding
      { connection.settings with objectName := name } with
  | error e =>
    unfold describeFresh find listing at h
    rw [Action.perform_bind, Action.perform_bind, Action.perform_state, Outcome.andThen_ok] at h
    dsimp only at h
    rw [hquery] at h
    cases h
  | ok query =>
    have hasks : Catalog.Asks query connection env
        ((routines.describeFresh name).perform connection env) :=
      routines.asks_describeFresh hquery
    unfold Catalog.Asks at hasks
    dsimp only at hasks
    cases hopened : (Connection.openCursor.perform connection env).result with
    | error e =>
      rw [hopened] at hasks
      dsimp only at hasks
      rw [h] at hasks
      cases hasks
    | ok cursor =>
      rw [hopened] at hasks
      obtain ⟨parameters, later, hevents⟩ := hasks
      rw [hevents]
      exact List.append_ne_nil_of_right_ne_nil _ (List.cons_ne_nil _ _)

end Routines

end OracleCatalog
