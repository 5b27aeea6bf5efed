import OracleCatalog.Proofs.Statement.Lockstep

/-!
# The log of values at positions

The database is sent the values of positions in the order of the positions, and the log shows them
in the order in which they have been bound. So the log shows what has been sent exactly when both
orders put the same texts in the place of the question marks.
-/

namespace OracleCatalog

/-! ### Positions -/

def Value.IsPosition (v : Value) : Prop := ∃ i, v = .int i

def Value.GivesPositions (parameters : Value) : Prop :=
  ∀ placements, parameters.placements = .ok placements →
    OrderedMap.KeysIn Value.IsPosition placements

def Request.BindsPositions : Request → Prop
  | .bind parameters _ => parameters.GivesPositions
  | .bindValue placeholder _ _ => placeholder.IsPosition
  | .execute parameters => parameters.GivesPositions
  | _ => False

theorem Request.BindsPositions.bindsOnly {request : Request} (h : request.BindsPositions) :
    request.BindsOnly Value.IsPosition := by
  cases request <;> exact h

/-- The values are bound at positions alone, the same ones on the cursor. -/
structure Positional (bound : Entries) (bindings : Bindings) : Prop where
  bindings_eq : bindings = { named := [], positional := bound }
  positions : OrderedMap.KeysIn Value.IsPosition bound

theorem tracking_positional : Tracking Value.IsPosition Positional where
  start := ⟨rfl, OrderedMap.keysIn_nil⟩
  step := by
    rintro bound bindings placeholder ⟨rfl, positions⟩ ⟨i, rfl⟩ value
    exact ⟨_, rfl, rfl, OrderedMap.keysIn_put positions ⟨i, rfl⟩ value⟩
  behind := by
    rintro placeholder shifted offset ⟨i, rfl⟩ hshifted
    exact ⟨_, (Except.ok.inj hshifted).symm⟩

theorem shownText_of_positions {bound : Entries}
    (positions : OrderedMap.KeysIn Value.IsPosition bound) (sql : String) :
    shownText bound sql = filled (OrderedMap.values bound) sql := by
  have h : ∀ e ∈ bound, ∃ i, e.1 = .int i :=
    fun e he => positions e.1 (List.mem_map.2 ⟨e, he, rfl⟩)
  have hinterpolated : LogEntry.interpolated { statement := sql, bound } =
      .ok (filled (OrderedMap.values bound) sql) := LogEntry.interpolated_of_positions h
  rw [shownText, hinterpolated]

/-! ### What an execution sends and what it shows -/

/-- The values that are sent to the database by position. -/
def sentValues : Value → List Value
  | .list values => values
  | _ => []

theorem sentValues_sent (bound : Entries) :
    sentValues ({ named := [], positional := bound } : Bindings).sent =
      OrderedMap.values ({ named := [], positional := bound } : Bindings).sorted := by
  unfold Bindings.sent Bindings.isNamed
  cases bound with
  | nil =>
    rw [Bindings.sorted, List.mergeSort_nil]
    rfl
  | cons entry rest => rfl

namespace LoggedStatement

variable {α : Type} {sql sql' : String} {placeholders : Entries}

def Sends (o : Outcome LoggedStatement α) (values : List Value) : Prop :=
  ∃ cursor sql sent, .execute cursor sql sent ∈ o.environment.events ∧ values = sentValues sent

def inOrder (s : LoggedStatement) : List Value :=
  OrderedMap.values ({ named := [], positional := s.statement.bound } : Bindings).sorted

/-- An execution that has sent the values in the order of their positions, and shows them in the
order in which they have been bound. -/
structure Executes (sql : String) (o : Outcome LoggedStatement α) : Prop where
  sends : ∀ values, Sends o values ↔ values = o.state.inOrder
  shows : Shows o (filled (OrderedMap.values o.state.statement.bound) sql)

theorem Executed.executes {o : Outcome LoggedStatement α} (h : Executed sql o)
    (hpositional : Positional o.state.statement.bound
      o.state.statement.inner.base.bindings) : Executes sql o := by
  obtain ⟨cursor, hevents⟩ := h.sends
  rw [hpositional.bindings_eq] at hevents
  have hshows := h.shows
  rw [shownText_of_positions hpositional.positions] at hshows
  refine ⟨fun values => ?_, hshows⟩
  unfold Sends inOrder
  rw [hevents, ← sentValues_sent]
  constructor
  · rintro ⟨_, _, _, hmem, rfl⟩
    cases List.mem_singleton.1 hmem
    rfl
  · rintro rfl
    exact ⟨_, _, _, List.mem_singleton.2 rfl, rfl⟩

theorem not_sends {o : Outcome LoggedStatement α} (h : o.environment.events = [])
    (values : List Value) : ¬ Sends o values := by
  rintro ⟨cursor, sql, sent, hmem, -⟩
  rw [h] at hmem
  cases hmem

/-! ### Runs -/

section Runs

variable {cursor : Cursor} {buffering : Value} {log : String} {env : Environment}
  {requests : List Request}

/-- Whatever sends values sends them in the order of their positions, and shows them in the order in
which they have been bound. -/
theorem executes_of_sends (positions : ∀ v ∈ OrderedMap.values placeholders, v.IsPosition)
    (h : ∀ request ∈ requests, request.BindsPositions) (fractions : env.TellsFractions)
    {o : Outcome LoggedStatement Value}
    (ho : o ∈ run cursor buffering placeholders log env requests sql) {values : List Value}
    (hsends : Sends o values) : Executes sql o := by
  have hbinds : ∀ request ∈ requests, request.BindsOnly Value.IsPosition :=
    fun request hrequest => (h request hrequest).bindsOnly
  rcases executed_of_run hbinds fractions ho with hquiet | hexecuted
  · exact absurd hsends (not_sends hquiet values)
  · exact hexecuted.executes (related_of_run tracking_positional positions hbinds ho)

theorem exists_lockstep (positions : ∀ v ∈ OrderedMap.values placeholders, v.IsPosition)
    (h : ∀ request ∈ requests, request.BindsPositions) (fractions : env.TellsFractions)
    (sql' : String) {o : Outcome LoggedStatement Value}
    (ho : o ∈ run cursor buffering placeholders log env requests sql) :
    ∃ o' ∈ run cursor buffering placeholders log env requests sql',
      o.state.statement.bound = o'.state.statement.bound ∧
        ∀ values, Sends o values → Sends o' values := by
  have hbinds : ∀ request ∈ requests, request.BindsOnly Value.IsPosition :=
    fun request hrequest => (h request hrequest).bindsOnly
  obtain ⟨o', ho', hlockstep⟩ := exists_counterpart hbinds fractions sql' ho
  refine ⟨o', ho', hlockstep.bindings.bound_eq, fun values hsends => ?_⟩
  rcases hlockstep.cases with ⟨hquiet, -⟩ | ⟨hexecuted, hexecuted'⟩
  · exact absurd hsends (not_sends hquiet values)
  · have hexecutes := hexecuted.executes (related_of_run tracking_positional positions hbinds ho)
    have hexecutes' :=
      hexecuted'.executes (related_of_run tracking_positional positions hbinds ho')
    refine (hexecutes'.sends values).2 ?_
    rw [(hexecutes.sends values).1 hsends, inOrder, inOrder, hlockstep.bindings.bound_eq]

theorem length_inOrder (s : LoggedStatement) :
    (OrderedMap.values s.statement.bound).length = s.inOrder.length := by
  unfold inOrder OrderedMap.values Bindings.sorted
  rw [List.length_map, List.length_map, List.length_mergeSort]

end Runs

def bindTwo (first second : Int) : List Request :=
  [.bindValue (.int first) (.text "a") .null, .bindValue (.int second) (.text "b") .null,
    .execute .null]

def runTwo (first second : Int) : String → List (Outcome LoggedStatement Value) :=
  run { number := 0 } (.bool false) [] defaultLog {} (bindTwo first second)

theorem bindTwo_bindsPositions (first second : Int) :
    ∀ request ∈ bindTwo first second, request.BindsPositions := by
  intro request hrequest
  rcases List.mem_cons.1 hrequest with rfl | hrequest
  · exact ⟨first, rfl⟩
  rcases List.mem_cons.1 hrequest with rfl | hrequest
  · exact ⟨second, rfl⟩
  obtain rfl := List.mem_singleton.1 hrequest
  intro placements hplacements
  cases hplacements

theorem positions_nil : ∀ v ∈ OrderedMap.values ([] : Entries), v.IsPosition := by
  intro v hv
  cases hv

theorem sends_of_events {o : Outcome LoggedStatement Value} {cursor : Nat} {sql : String}
    {sent : Value} (h : o.environment.events = [.execute cursor sql sent]) {values : List Value}
    (hvalues : values = sentValues sent) : Sends o values := by
  refine ⟨cursor, sql, sent, ?_, hvalues⟩
  rw [h]
  exact List.mem_singleton_self _

end LoggedStatement

end OracleCatalog
