import OracleCatalog.Proofs.Statement.Mirror
import OracleCatalog.Proofs.Statement.Wrapping

/-!
# What an execution hands to the cursor

A cursor takes its values in a list or under names. As long as a position is bound, an execution
hands over the values at positions, in the order of their positions; otherwise it hands over the
values under names. So all values are handed over exactly when they are bound in one of the ways.
-/

namespace OracleCatalog

open OracleCatalog.Action (Keeps)

/-! ### Values that are sent -/

/-- The values among the parameters of an execution. -/
def Value.handed : Value → List Value
  | .list values => values
  | .map entries => OrderedMap.values entries
  | _ => []

/-- The values of some entries in the order of their positions. -/
def Entries.inOrder (entries : Entries) : List Value :=
  OrderedMap.values (entries.mergeSort Bindings.inOrder)

theorem Entries.inOrder_perm (entries : Entries) :
    entries.inOrder.Perm (OrderedMap.values entries) :=
  (List.mergeSort_perm entries Bindings.inOrder).map Prod.snd

namespace Mirrors

variable {bound : Entries} {bindings : Bindings}

theorem textual_or_position (h : Mirrors bound bindings) {entry : Value × Value}
    (hentry : entry ∈ bound) : entry.1.isTextual = !entry.1.position?.isSome := by
  have hplain := h.plain entry.1 (List.mem_map_of_mem hentry)
  cases hposition : entry.1.position?.isSome with
  | true => exact Value.isTextual_of_position hposition
  | false =>
    cases htextual : entry.1.isTextual with
    | true => rfl
    | false =>
      have := hplain.position_of_not_textual htextual
      simp [hposition] at this

/-- Without a position all bound values are under names. -/
theorem sent_of_names (h : Mirrors bound bindings)
    (hnames : ∀ entry ∈ bound, entry.1.position?.isSome = false) :
    bindings.sent = .map bound := by
  have hpositional : bindings.positional = [] := by
    rw [← h.positional, List.filter_eq_nil_iff]
    intro entry hentry
    simp [hnames entry hentry]
  have hnamed : bindings.named = bound := by
    rw [← h.named, List.filter_eq_self]
    intro entry hentry
    simp [h.textual_or_position hentry, hnames entry hentry]
  unfold Bindings.sent Bindings.isNamed
  rw [hpositional, hnamed]
  rfl

theorem sent_of_position (h : Mirrors bound bindings) {entry : Value × Value}
    (hentry : entry ∈ bound) (hposition : entry.1.position?.isSome = true) :
    bindings.sent =
      .list (Entries.inOrder (bound.filter fun entry => entry.1.position?.isSome)) := by
  have hmem : entry ∈ bindings.positional := by
    rw [← h.positional]
    exact List.mem_filter.2 ⟨hentry, hposition⟩
  have hpositional : bindings.isNamed = false := by
    unfold Bindings.isNamed
    exact List.isEmpty_eq_false_iff.2 (List.ne_nil_of_mem hmem)
  unfold Bindings.sent Bindings.sorted Entries.inOrder
  rw [hpositional, h.positional]
  rfl

/-- All bound values are handed over if and only if they are bound in one way. -/
theorem handed_perm_iff (h : Mirrors bound bindings) :
    bindings.sent.handed.Perm (OrderedMap.values bound) ↔
      (∀ k ∈ OrderedMap.keys bound, k.position?.isSome = true) ∨
        ∀ k ∈ OrderedMap.keys bound, k.isTextual = true := by
  have hkeys : ∀ p : Value → Bool, (∀ k ∈ OrderedMap.keys bound, p k = true) ↔
      ∀ entry ∈ bound, p entry.1 = true := by
    intro p
    simp [OrderedMap.keys]
  rw [hkeys fun k => k.position?.isSome, hkeys Value.isTextual]
  by_cases hsome : ∃ entry ∈ bound, entry.1.position?.isSome = true
  · obtain ⟨entry, hentry, hposition⟩ := hsome
    have hnot : ¬ ∀ entry ∈ bound, entry.1.isTextual = true := by
      intro hall
      have htextual := hall entry hentry
      rw [h.textual_or_position hentry, hposition] at htextual
      cases htextual
    rw [h.sent_of_position hentry hposition, or_iff_left hnot]
    constructor
    · intro hperm
      have hlength := ((Entries.inOrder_perm _).symm.trans hperm).length_eq
      simp only [OrderedMap.values, List.length_map] at hlength
      exact List.length_filter_eq_length_iff.1 hlength
    · intro hall
      rw [List.filter_eq_self.2 hall]
      exact Entries.inOrder_perm bound
  · have hnames : ∀ entry ∈ bound, entry.1.position?.isSome = false := by
      intro entry hentry
      exact Bool.eq_false_iff.2 fun hposition => hsome ⟨entry, hentry, hposition⟩
    have htextual : ∀ entry ∈ bound, entry.1.isTextual = true := by
      intro entry hentry
      simp [h.textual_or_position hentry, hnames entry hentry]
    rw [h.sent_of_names hnames]
    exact ⟨fun _ => .inr htextual, fun _ => List.Perm.refl _⟩

end Mirrors

namespace PreparedStatement

/-! ### One execution -/

theorem prepareBuffer_base (s : PreparedStatement) (env : Environment) :
    (prepareBuffer.perform s env).result = .ok () ∧
      (prepareBuffer.perform s env).state.inner.base = s.inner.base ∧
      (prepareBuffer.perform s env).state.bound = s.bound := by
  have hreleased : s.released.inner.base = s.inner.base ∧ s.released.bound = s.bound := by
    unfold released
    split
    · exact ⟨InnerStatement.base_unwrapped s.inner, rfl⟩
    · exact ⟨rfl, rfl⟩
  unfold prepareBuffer
  rw [Action.perform_bind, Action.perform_change, Outcome.andThen_ok, Action.perform_bind,
    Action.perform_state, Outcome.andThen_ok]
  cases s.released.buffering.truthy with
  | true => exact ⟨rfl, hreleased⟩
  | false => exact ⟨rfl, hreleased⟩

/-- An execution without parameters sends what is bound on the cursor, and binds nothing. -/
theorem execute_null_sends (s : PreparedStatement) (env : Environment) :
    ((execute .null).perform s env).environment.events = env.events ++
        [.execute s.inner.base.cursor.number s.inner.base.sql s.inner.base.bindings.sent] ∧
      ((execute .null).perform s env).state.bound = s.bound := by
  obtain ⟨hprepared, hbase, hbound⟩ := prepareBuffer_base s env
  obtain ⟨hevents, -⟩ := quiet_prepareBuffer s env
  have hrebound : ∀ (t : PreparedStatement) (env' : Environment),
      (rebind .null).perform t env' = { result := .ok (), state := t, environment := env' } :=
    fun _ _ => rfl
  rw [execute_perform .null hprepared, hrebound, Outcome.andThen_ok]
  refine ⟨?_, hbound⟩
  rw [send_sends, hbase, hevents]

/-! ### Runs that end with an execution -/

section Runs

variable {cursor : Cursor} {sql : String} {buffering : Value} {placeholders : Entries}
  {ownText : Option String} {env : Environment} {requests : List Request}

theorem last_of_run {o : Outcome PreparedStatement Value}
    (finals : ∀ v ∈ OrderedMap.values placeholders, v.IsPlain)
    (h : ∀ request ∈ requests, request.BindsIn Value.IsPlain)
    (ho : (run { cursor, sql } buffering placeholders ownText env
      (requests ++ [Request.execute .null])).getLast? = some o) :
    ∃ bindings, Mirrors o.state.bound bindings ∧
      o.environment.events = [.execute cursor.number sql bindings.sent] := by
  have hkinds : ∀ request ∈ requests ++ [Request.execute .null],
      request.BindsIn Value.IsPlain := by
    intro request hrequest
    rcases List.mem_append.1 hrequest with hrequest | hrequest
    · exact h request hrequest
    · obtain rfl := List.mem_singleton.1 hrequest
      intro placements hplacements
      cases hplacements
  have hkeeps : ∀ action ∈ (requests ++ [Request.execute .null]).map answer,
      Keeps (fun s => Whole { cursor, sql } s ∧ Tracks Mirrors placeholders s) action := by
    intro action haction
    obtain ⟨request, hrequest, rfl⟩ := List.mem_map.1 haction
    exact fun s env hs => ⟨keeps_whole_answer request s env hs.1,
      keeps_answer tracking_mirrors finals (hkinds request hrequest) s env hs.2⟩
  have haction : ((requests ++ [Request.execute .null]).map answer)[requests.length]? =
      some (answer (.execute .null)) := by simp
  have hlast : (run { cursor, sql } buffering placeholders ownText env
      (requests ++ [Request.execute .null]))[requests.length]? = some o := by
    rw [← ho, List.getLast?_eq_getElem?, run, Action.length_outcomes]
    simp
  obtain ⟨s, env', ⟨⟨held, hwrapped⟩, htracks⟩, rfl⟩ := Action.exists_perform_of_outcomes hkeeps
    ⟨whole_start, ⟨rfl, tracking_mirrors.start⟩⟩ haction hlast
  obtain ⟨hstate, henvironment⟩ :=
    Action.returning_keeps (.bool true) (execute .null) s env'.nextStep
  obtain ⟨hsent, hbound⟩ := execute_null_sends s env'.nextStep
  have hmirrors := htracks.related
  rw [hwrapped.later.number_eq, hwrapped.later.sql_eq, ← henvironment] at hsent
  rw [← hbound, ← hstate] at hmirrors
  exact ⟨s.inner.base.bindings, hmirrors, hsent⟩

end Runs

/-- An execution hands over the values bound at positions, in the order of their positions, if there
are any, and otherwise those bound under names; which are all bound values exactly when they are
bound in one of the two ways. -/
theorem hands_over_one_kind (cursor : Cursor) (sql : String) (buffering : Value)
    (ownText : Option String) (env : Environment) {placeholders : Entries}
    (finals : ∀ v ∈ OrderedMap.values placeholders, v.IsPlain) {requests : List Request}
    (h : ∀ request ∈ requests, request.BindsIn Value.IsPlain) {o : Outcome PreparedStatement Value}
    (ho : (run { cursor, sql } buffering placeholders ownText env
      (requests ++ [Request.execute .null])).getLast? = some o) :
    ∃ sent, o.environment.events = [.execute cursor.number sql sent] ∧
      ((∃ k ∈ OrderedMap.keys o.state.bound, k.position?.isSome = true) →
        sent = .list (Entries.inOrder
          (o.state.bound.filter fun entry => entry.1.position?.isSome))) ∧
      ((∀ k ∈ OrderedMap.keys o.state.bound, k.isTextual = true) → sent = .map o.state.bound) ∧
      (sent.handed.Perm (OrderedMap.values o.state.bound) ↔
        (∀ k ∈ OrderedMap.keys o.state.bound, k.position?.isSome = true) ∨
          ∀ k ∈ OrderedMap.keys o.state.bound, k.isTextual = true) := by
  obtain ⟨bindings, hmirrors, hsent⟩ := last_of_run finals h ho
  refine ⟨bindings.sent, hsent, ?_, ?_, hmirrors.handed_perm_iff⟩
  · rintro ⟨k, hk, hposition⟩
    obtain ⟨entry, hentry, rfl⟩ := List.mem_map.1 hk
    exact hmirrors.sent_of_position hentry hposition
  · intro hnames
    refine hmirrors.sent_of_names fun entry hentry => ?_
    have htextual := hnames entry.1 (List.mem_map_of_mem hentry)
    rw [hmirrors.textual_or_position hentry] at htextual
    simpa using htextual

/-- A position is bound in a list, and a later one by itself before an earlier one. -/
def positionRequests : List Request :=
  [.bind (.list [.text "x"]) .null, .bindValue (.int 2) (.text "z") .null,
    .bindValue (.int 1) (.text "y") .null]

theorem positionRequests_plain : ∀ request ∈ positionRequests,
    request.BindsIn Value.IsPlain := by
  intro request hrequest
  rcases List.mem_cons.1 hrequest with rfl | hrequest
  · intro placements hplacements
    obtain rfl := Except.ok.inj hplacements
    exact OrderedMap.keysIn_cons.2 ⟨.inl rfl, OrderedMap.keysIn_nil⟩
  rcases List.mem_cons.1 hrequest with rfl | hrequest
  · exact .inl rfl
  · obtain rfl := List.mem_singleton.1 hrequest
    exact .inl rfl

theorem hands_over_three_positions :
    ∃ o, (run { cursor := { number := 0 }, sql := "BEGIN P(?, ?, ?); END;" } (.bool false) [] none
        {} (positionRequests ++ [Request.execute .null])).getLast? = some o ∧
      o.environment.events = [.execute 0 "BEGIN P(?, ?, ?); END;"
        (.list [.text "x", .text "y", .text "z"])] ∧
      (Value.list [.text "x", .text "y", .text "z"]).handed.Perm
        (OrderedMap.values o.state.bound) := by
  have finals : ∀ v ∈ OrderedMap.values ([] : Entries), v.IsPlain := nofun
  obtain ⟨sent, hsent, hpositions, -, hall⟩ := hands_over_one_kind { number := 0 }
    "BEGIN P(?, ?, ?); END;" (.bool false) none {} finals positionRequests_plain rfl
  have hsorted : Entries.inOrder
      [(.int 0, .text "x"), (.int 2, .text "z"), (.int 1, .text "y")] =
        [.text "x", .text "y", .text "z"] := by
    simp [Entries.inOrder, List.mergeSort, Bindings.inOrder, Value.position?, OrderedMap.values]
  have hlist : sent = .list [.text "x", .text "y", .text "z"] :=
    (hpositions ⟨.int 0, .head _, rfl⟩).trans (congrArg Value.list hsorted)
  have hkinds : ∀ k ∈ [Value.int 0, .int 2, .int 1], k.position?.isSome = true := by
    simp [Value.position?]
  rw [hlist] at hsent hall
  exact ⟨_, rfl, hsent, hall.2 (.inl hkinds)⟩

theorem name_beside_position_not_handed :
    ∃ o, (run { cursor := { number := 0 }, sql := "BEGIN P(?, :b); END;" } (.bool false) [] none {}
        [.bindValue (.int 0) (.text "a") .null, .bindValue (.text "b") (.text "y") .null,
          .execute .null]).getLast? = some o ∧
      o.state.bound = [(.int 0, .text "a"), (.text "b", .text "y")] ∧
      o.environment.events = [.execute 0 "BEGIN P(?, :b); END;" (.list [.text "a"])] ∧
      ¬ ∀ v ∈ OrderedMap.values o.state.bound, v ∈ (Value.list [.text "a"]).handed := by
  have hsorted : Entries.inOrder [(.int 0, .text "a")] = [.text "a"] := by
    unfold Entries.inOrder
    rw [List.mergeSort_singleton]
    rfl
  rw [← hsorted]
  refine ⟨_, rfl, rfl, rfl, fun hall => ?_⟩
  have hmem : Value.text "y" ∈ Entries.inOrder [(.int 0, .text "a")] :=
    hall (.text "y") (.tail _ (.head _))
  rw [hsorted] at hmem
  simp at hmem

end PreparedStatement

end OracleCatalog
