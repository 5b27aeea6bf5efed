import OracleCatalog.Catalog.Routines
import OracleCatalog.Catalog.Tables
import OracleCatalog.Proofs.Session.Cursors

/-!
# Cursors of the catalog

A catalog query closes the cursor that it has opened, whether executing or reading it fails or not.
So an operation of the catalog closes every cursor that it opens, before it opens the next one.
-/

namespace OracleCatalog

open OracleCatalog.Action (Turning Settles)

namespace Catalog

/-! ### Queries -/

/-- The cursor that an attempt to execute a query leaves open. -/
def attemptHolding : Except Error (Except Error PlainStatement) → Connection → Option Nat
  | .ok (.ok s), _ => s.holding
  | _, _ => none

theorem turning_execute (channel : Channel) (query : Query) :
    Turning (fun _ => none) (execute channel query)
      (Action.holdingIn fun s => s.cursor.number) := by
  have hattempt : Turning (fun _ => none)
      (Action.attempt (Connection.execute (.text query.text) (.map query.boundEntries) false))
      attemptHolding := by
    intro connection env
    have hturned := Connection.turning_execute query.text (.map query.boundEntries) connection env
    rw [Action.perform_attempt]
    generalize (Connection.execute (.text query.text) (.map query.boundEntries) false).perform
      connection env = o at *
    obtain ⟨result, state, environment⟩ := o
    cases result <;> exact hturned
  refine Action.turning_bind hattempt (fun _ _ => rfl) fun outcome => ?_
  cases outcome with
  | ok s => exact Action.turning_of_quiet (Action.quiet_pure s) fun _ _ => rfl
  | error e =>
    dsimp only
    cases e.isCatalog with
    | true => exact Action.turning_of_quiet (Action.quiet_throw e) fun _ _ => rfl
    | false =>
      refine Action.turning_of_quiet (Action.quiet_bind (Action.quiet_note _ _ _) fun _ =>
        Action.quiet_throw e.wrap) fun _ _ => rfl

/-- The cursor of a statement is closed behind it, whatever its reading comes to. -/
theorem turning_read {α : Type} (s : PlainStatement) {read : Action PlainStatement α}
    (h : PlainStatement.Reads read) :
    Turning (fun _ => s.holding)
      (do
        let (outcome, reached) ← Action.apart s read
        let (closed, _) ← Action.apart reached PlainStatement.close
        Action.ofExcept (closed.bind fun _ => outcome) : Action Connection α)
      fun _ _ => none := by
  refine Action.turning_bind (Connection.turning_apart s h) (fun _ _ => rfl) ?_
  rintro ⟨outcome, reached⟩
  refine Action.turning_bind (Connection.turning_apart reached PlainStatement.turning_close)
    (fun _ _ => rfl) ?_
  rintro ⟨closed, reached'⟩
  exact Action.settles_ofExcept _

theorem settles_withQuery {α : Type} (channel : Channel) (query : Query)
    {read : Action PlainStatement α} (h : PlainStatement.Reads read) :
    Settles (withQuery channel query read) :=
  Action.turning_bind (turning_execute channel query) (fun _ _ => rfl) fun s => turning_read s h

theorem reads_firstValues (bound : Nat) : PlainStatement.Reads (firstValues bound) := by
  induction bound with
  | zero => exact PlainStatement.reads_pure []
  | succ bound ih =>
    refine PlainStatement.reads_bind PlainStatement.reads_fetchRow fun row => ?_
    cases row with
    | none => exact PlainStatement.reads_pure []
    | some row =>
      cases row with
      | nil => exact PlainStatement.reads_throw _
      | cons v rest =>
        exact PlainStatement.reads_bind ih fun _ => PlainStatement.reads_pure _

theorem settles_firstColumn (channel : Channel) (query : Query) :
    Settles (firstColumn channel query) :=
  settles_withQuery channel query
    (PlainStatement.reads_bind PlainStatement.reads_state fun _ => reads_firstValues _)

theorem reads_fetchRows : PlainStatement.Reads fetchRows :=
  PlainStatement.reads_bind (PlainStatement.reads_fetchAll .keyed) fun _ =>
    PlainStatement.reads_pure _

/-! ### Tables -/

theorem settles_listTables : Settles listTables := by
  refine Action.settles_bind Action.settles_state fun connection => ?_
  refine Action.settles_bind (Action.settles_ofExcept _) fun query => ?_
  exact settles_firstColumn .tables query

theorem settles_foldQuery (name : Value) (query : TableName → Query) (kind : Row → TableRow)
    (builder : TableBuilder) : Settles (foldQuery name query kind builder) := by
  refine Action.settles_bind Action.settles_state fun connection => ?_
  refine Action.settles_bind (Action.settles_ofExcept _) fun target => ?_
  refine Action.settles_bind (settles_withQuery .tables _ ?_) fun builder => ?_
  · exact PlainStatement.reads_bind reads_fetchRows fun _ => PlainStatement.reads_ofNoted _
  · split
    · exact Action.settles_pure builder
    · exact Action.settles_throw _

theorem settles_describeTable (name : Value) : Settles (describeTable name) := by
  refine Action.settles_bind (settles_foldQuery name _ _ _) fun builder => ?_
  refine Action.settles_bind (settles_foldQuery name _ _ builder) fun builder => ?_
  refine Action.settles_bind (settles_foldQuery name _ _ builder) fun builder => ?_
  exact Action.settles_pure builder.build

end Catalog

/-! ### Caches -/

namespace Cache

variable {σ : Type}

theorem quiet_checkName (path key : String) :
    Action.Quiet (checkName path key : Action σ Unit) := by
  refine Action.quiet_bind (Action.quiet_reading _) fun tooLong => ?_
  cases tooLong with
  | true => exact Action.quiet_throw _
  | false => exact Action.quiet_pure ()

theorem quiet_get (key : String) (cache : Cache) :
    Action.Quiet (cache.get key : Action σ Value) := by
  cases cache with
  | memory number => exact Action.quiet_reading _
  | files path =>
    refine Action.quiet_bind (quiet_checkName path key) fun _ => ?_
    refine Action.quiet_bind (Action.quiet_reading _) fun file => ?_
    cases file with
    | none => exact Action.quiet_pure _
    | some text =>
      dsimp only
      split
      · exact Action.quiet_pure _
      · exact Action.quiet_bind (Action.quiet_note _ _ _) fun _ => Action.quiet_pure _
      · exact Action.quiet_throw _

theorem quiet_set (key : String) (value : Value) (cache : Cache) :
    Action.Quiet (cache.set key value : Action σ Unit) := by
  cases cache with
  | memory number => exact Action.quiet_update fun env => ⟨rfl, rfl⟩
  | files path =>
    have hmake : Action.Quiet (Action.onEnvironment fun env => ((), env.makeDirectory path) :
        Action σ Unit) := Action.quiet_update fun env => ⟨rfl, rfl⟩
    have hwrite : ∀ text, Action.Quiet (Action.onEnvironment fun env =>
        ((), env.writeFile path (fileName key) text) : Action σ Unit) :=
      fun text => Action.quiet_update fun env => ⟨rfl, rfl⟩
    refine Action.quiet_bind hmake fun _ => ?_
    refine Action.quiet_bind (quiet_checkName path key) fun _ => ?_
    refine Action.quiet_bind (hwrite "") fun _ => ?_
    exact Action.quiet_bind (Action.quiet_ofExcept _) fun storable => hwrite (Yaml.print storable)

end Cache

/-! ### Routines -/

namespace Routines

variable (routines : Routines)

theorem settles_listing (name : Option Value) : Settles (routines.listing name) := by
  refine Action.settles_bind Action.settles_state fun connection => ?_
  refine Action.settles_bind (Action.settles_ofExcept _) fun query => ?_
  exact Catalog.settles_firstColumn routines.channel query

theorem settles_foldParameters (name : Value) : Settles (routines.foldParameters name) := by
  refine Action.settles_bind (Action.settles_ofExcept _) fun target => ?_
  refine Catalog.settles_withQuery routines.channel _ ?_
  exact PlainStatement.reads_bind Catalog.reads_fetchRows fun _ => PlainStatement.reads_ofNoted _

theorem settles_describeFresh (name : Value) : Settles (routines.describeFresh name) := by
  refine Action.settles_bind (routines.settles_listing (some name)) fun found => ?_
  have hfold : Settles (do return (← routines.foldParameters name).build) :=
    Action.settles_bind (routines.settles_foldParameters name) fun _ => Action.settles_pure _
  cases found.isEmpty with
  | true => exact Action.settles_throw _
  | false => exact hfold

theorem settles_cached? (cache : Cache) (key : String) (name : Value) :
    Settles (cached? cache key name) := by
  refine Action.settles_bind (Action.settles_of_quiet (Cache.quiet_get key cache)) fun found => ?_
  cases found.truthy with
  | false => exact Action.settles_pure none
  | true =>
    refine Action.settles_bind (Action.settles_of_quiet (Action.quiet_note _ _ _)) fun _ => ?_
    exact Action.settles_bind (Action.settles_ofExcept _) fun _ => Action.settles_pure _

theorem settles_describeAndKeep (cache : Cache) (key : String) (name : Value) :
    Settles (routines.describeAndKeep cache key name) := by
  refine Action.settles_bind (routines.settles_describeFresh name) fun routine => ?_
  refine Action.settles_bind (Action.settles_of_quiet ?_) fun _ => Action.settles_pure routine
  exact Cache.quiet_set key routine.toDocument cache

theorem settles_describe (name : Value) (fresh : Bool) :
    Settles (routines.describe name fresh) := by
  unfold describe
  cases routines.cache with
  | none => exact routines.settles_describeFresh name
  | some cache =>
    refine Action.settles_bind Action.settles_state fun connection => ?_
    dsimp only
    refine Action.settles_bind ?_ fun found => ?_
    · cases fresh with
      | true => exact Action.settles_pure none
      | false => exact settles_cached? cache _ name
    · cases found with
      | some routine => exact Action.settles_pure routine
      | none => exact routines.settles_describeAndKeep cache _ name

end Routines

/-! ### Operations -/

/-- Wherever it starts and however it ends, the operation closes every cursor that it opens exactly
once, and at any time at most one of them is open. -/
def Action.ClosesCursors {α : Type} (operation : Action Connection α) : Prop :=
  ∀ connection env, ∃ events,
    (operation.perform connection env).environment.events = env.events ++ events ∧
      (∀ c ∈ opened events, (closed events).count c = 1) ∧
      ∀ before, before <+: events →
        ∃ held : Option Nat, opened before = closed before ++ held.toList

theorem Action.Settles.closesCursors {α : Type} {operation : Action Connection α}
    (h : Settles operation) : operation.ClosesCursors := by
  intro connection env
  obtain ⟨events, hevents, hturns⟩ := h connection env
  have hclosed : opened events = closed events := by simpa using hturns.balance
  refine ⟨events, hevents, fun c hc => ?_, fun before hbefore => ?_⟩
  · have hmost := List.nodup_iff_count.1 hturns.nodup_opened c
    have hleast := List.count_pos_iff.2 hc
    rw [← hclosed]
    omega
  · obtain ⟨held, next, hbefore⟩ := hturns.exists_of_prefix hbefore
    exact ⟨held, by simpa using hbefore.balance⟩

/-- Listing and describing routines, with a cache or without, and listing and describing tables. -/
theorem catalog_closes_cursors (routines : Routines) :
    routines.list.ClosesCursors ∧ (∀ name, (routines.find name).ClosesCursors) ∧
      (∀ name fresh, (routines.describe name fresh).ClosesCursors) ∧
      Catalog.listTables.ClosesCursors ∧ ∀ name, (Catalog.describeTable name).ClosesCursors := by
  refine ⟨(routines.settles_listing none).closesCursors, fun name => ?_, fun name fresh => ?_,
    Catalog.settles_listTables.closesCursors, fun name => ?_⟩
  · exact (routines.settles_listing (some name)).closesCursors
  · exact (routines.settles_describe name fresh).closesCursors
  · exact (Catalog.settles_describeTable name).closesCursors

end OracleCatalog
