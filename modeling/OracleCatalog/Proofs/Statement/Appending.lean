import Mathlib.Data.List.Chain
import Mathlib.Data.List.Nodup
import OracleCatalog.Proofs.Session.Runs
import OracleCatalog.Proofs.Statement.Positions
import OracleCatalog.Proofs.Statement.Wrapping

/-!
# Maps of positions one after the other

A call with a map of positions places them behind as many positions as there have been values
before, whatever the largest of these is. So a later call comes behind all earlier ones, and leaves
what they have bound, exactly when each call stays below the next one by the number of its values.
-/

namespace OracleCatalog

/-- A call with a map whose keys are different positions, and the types that can read its values. -/
structure PositionCall where
  values : List Placed
  types : Value := .null
  nonempty : values ≠ []
  distinct : (values.map Placed.position).Nodup
  read : ∀ value ∈ values, readUnder types value.entry = .ok value.taken

namespace PositionCall

/-- A call without types. -/
def untyped (values : List (Nat × Value)) (nonempty : values ≠ [])
    (distinct : (values.map Prod.fst).Nodup) : PositionCall where
  values := values.map fun value => ⟨value.1, value.2, value.2⟩
  nonempty := fun hnil => nonempty (List.map_eq_nil_iff.1 hnil)
  distinct := by
    rw [List.map_map]
    exact distinct
  read := by
    intro value hvalue
    obtain ⟨_, -, rfl⟩ := List.mem_map.1 hvalue
    rfl

def request (call : PositionCall) : Request :=
  .bind (.map (call.values.map Placed.entry)) call.types

def positions (call : PositionCall) : List Nat := call.values.map Placed.position

/-- Each position of the call is less than each of the next call, placed behind the values of this
one. -/
def Precedes (call next : PositionCall) : Prop :=
  ∀ p ∈ call.positions, ∀ q ∈ next.positions, p < q + call.values.length

/-! ### Places -/

/-- What the calls bind, each behind the values of those before. -/
def entriesFrom : Nat → List PositionCall → Entries
  | _, [] => []
  | offset, call :: rest =>
    call.values.map (Placed.behind offset) ++ entriesFrom (offset + call.values.length) rest

/-- The positions to which each call binds, behind the values of those before. -/
def positionsFrom : Nat → List PositionCall → List (List Nat)
  | _, [] => []
  | offset, call :: rest =>
    call.positions.map (· + offset) :: positionsFrom (offset + call.values.length) rest

/-- Every position of a list is less than every one of the other. -/
def Below (earlier later : List Nat) : Prop := ∀ p ∈ earlier, ∀ q ∈ later, p < q

theorem keysIn_entriesFrom (offset : Nat) (calls : List PositionCall) :
    OrderedMap.KeysIn Value.IsPosition (entriesFrom offset calls) := by
  induction calls generalizing offset with
  | nil => exact OrderedMap.keysIn_nil
  | cons call rest ih =>
    unfold entriesFrom
    exact OrderedMap.keysIn_append.2 ⟨Placed.keysIn_behind offset call.values, ih _⟩

theorem keys_entriesFrom (offset : Nat) (calls : List PositionCall) :
    OrderedMap.keys (entriesFrom offset calls) =
      (positionsFrom offset calls).flatten.map fun (p : Nat) => Value.int p := by
  induction calls generalizing offset with
  | nil => rfl
  | cons call rest ih =>
    have hfirst : OrderedMap.keys (call.values.map (Placed.behind offset)) =
        (call.positions.map (· + offset)).map fun (p : Nat) => Value.int p := by
      simp only [OrderedMap.keys, positions, List.map_map]
      rfl
    have hsplit : OrderedMap.keys (entriesFrom offset (call :: rest)) =
        OrderedMap.keys (call.values.map (Placed.behind offset)) ++
          OrderedMap.keys (entriesFrom (offset + call.values.length) rest) := List.map_append
    rw [hsplit, hfirst, ih, positionsFrom, List.flatten_cons, List.map_append]

theorem length_entriesFrom_cons (offset : Nat) (call : PositionCall) (rest : List PositionCall) :
    (entriesFrom offset (call :: rest)).length =
      call.values.length + (entriesFrom (offset + call.values.length) rest).length := by
  rw [entriesFrom, List.length_append, List.length_map]

theorem nodup_of_mem_positionsFrom {offset : Nat} {calls : List PositionCall} {l : List Nat}
    (h : l ∈ positionsFrom offset calls) : l.Nodup := by
  induction calls generalizing offset with
  | nil => cases h
  | cons call rest ih =>
    rcases List.mem_cons.1 h with rfl | h
    · exact call.distinct.map fun _ _ heq => Nat.add_right_cancel heq
    · exact ih h

theorem ne_nil_of_mem_positionsFrom {offset : Nat} {calls : List PositionCall} {l : List Nat}
    (h : l ∈ positionsFrom offset calls) : l ≠ [] := by
  induction calls generalizing offset with
  | nil => cases h
  | cons call rest ih =>
    rcases List.mem_cons.1 h with rfl | h
    · simpa [positions] using call.nonempty
    · exact ih h

/-- The calls write no position twice exactly when they have no position in common. -/
theorem nodup_entriesFrom_iff (offset : Nat) (calls : List PositionCall) :
    (OrderedMap.keys (entriesFrom offset calls)).Nodup ↔
      (positionsFrom offset calls).Pairwise List.Disjoint := by
  have hinjective : Function.Injective fun (p : Nat) => Value.int p :=
    fun _ _ heq => Int.ofNat.inj (Value.int.inj heq)
  rw [keys_entriesFrom, List.nodup_map_iff hinjective, List.nodup_flatten]
  exact and_iff_right fun _ => nodup_of_mem_positionsFrom

/-! ### Order -/

theorem Below.disjoint {earlier later : List Nat} (h : Below earlier later) :
    earlier.Disjoint later :=
  fun p hp hq => Nat.lt_irrefl p (h p hp p hq)

theorem pairwise_below_of_isChain {lists : List (List Nat)} (nonempty : ∀ l ∈ lists, l ≠ [])
    (h : lists.IsChain Below) : lists.Pairwise Below := by
  induction lists with
  | nil => exact .nil
  | cons first rest ih =>
    obtain ⟨-, hrest⟩ := List.forall_mem_cons.1 nonempty
    have hpairs := ih hrest h.tail
    refine List.pairwise_cons.2 ⟨?_, hpairs⟩
    cases rest with
    | nil => nofun
    | cons second others =>
      obtain ⟨hsecond, -⟩ := List.forall_mem_cons.1 hrest
      have hfirst : Below first second := (List.isChain_cons_cons.1 h).1
      refine List.forall_mem_cons.2 ⟨hfirst, fun later hlater p hp q hq => ?_⟩
      -- a position of the second list lies between those of the first one and of a later one
      obtain ⟨m, hm⟩ := List.exists_mem_of_ne_nil second hsecond
      exact (hfirst p hp m hm).trans ((List.pairwise_cons.1 hpairs).1 later hlater m hm q hq)

theorem below_iff_precedes (offset : Nat) (call next : PositionCall) :
    Below (call.positions.map (· + offset))
        (next.positions.map (· + (offset + call.values.length))) ↔ call.Precedes next := by
  unfold Below Precedes
  simp only [List.forall_mem_map]
  refine forall₂_congr fun p _ => forall₂_congr fun q _ => ?_
  omega

theorem isChain_positionsFrom_iff (offset : Nat) (calls : List PositionCall) :
    (positionsFrom offset calls).IsChain Below ↔ calls.IsChain Precedes := by
  induction calls generalizing offset with
  | nil => exact iff_of_true .nil .nil
  | cons call rest ih =>
    cases rest with
    | nil => exact iff_of_true (.singleton _) (.singleton _)
    | cons next others =>
      have hrest := ih (offset + call.values.length)
      rw [positionsFrom] at hrest ⊢
      rw [positionsFrom, List.isChain_cons_cons, List.isChain_cons_cons, hrest,
        below_iff_precedes]

/-- Later calls come behind all earlier ones exactly when each comes behind the one before it. -/
theorem ascending_iff (offset : Nat) (calls : List PositionCall) :
    (positionsFrom offset calls).Pairwise Below ↔ calls.IsChain Precedes := by
  rw [← isChain_positionsFrom_iff offset]
  exact ⟨List.Pairwise.isChain, pairwise_below_of_isChain fun _ => ne_nil_of_mem_positionsFrom⟩

/-! ### Runs -/

open PreparedStatement (run)

/-- What the statement shows as bound is on the cursor, under positions alone. -/
structure Appended (entries : Entries) (offset : Nat) (s : PreparedStatement) : Prop where
  bound_eq : s.bound = entries
  holds : s.Holds { named := [], positional := entries } offset

theorem appended_perform {entries : Entries} {offset : Nat} {s : PreparedStatement}
    (h : Appended entries offset s) (call : PositionCall) (env : Environment) :
    ((PreparedStatement.answer call.request).perform s env).result = .ok .null ∧
      Appended (entries.update (call.values.map (Placed.behind offset)))
        (offset + call.values.length)
        ((PreparedStatement.answer call.request).perform s env).state := by
  have hentries : call.values.map Placed.entry ≠ [] :=
    fun hnil => call.nonempty (List.map_eq_nil_iff.1 hnil)
  have htruthy : (Value.map (call.values.map Placed.entry)).truthy = true := by
    obtain ⟨entry, rest, heq⟩ := List.exists_cons_of_ne_nil hentries
    rw [heq]
    rfl
  obtain ⟨reached, hperform, hbound, hholds⟩ :=
    h.holds.exists_bind_perform htruthy rfl call.nonempty call.read env
  rw [h.bound_eq] at hbound
  show (((PreparedStatement.bind _ call.types).returning .null).perform s env).result = _ ∧
    Appended _ _ (((PreparedStatement.bind _ call.types).returning .null).perform s env).state
  unfold Action.returning
  rw [Action.perform_bind, hperform, Outcome.andThen_ok]
  exact ⟨rfl, hbound, hholds⟩

theorem appended_run {entries : Entries} {offset : Nat} {s : PreparedStatement}
    (h : Appended entries offset s) (calls : List PositionCall) (env : Environment) :
    let actions := (calls.map request).map PreparedStatement.answer
    (∀ o ∈ Action.outcomes actions s env, o.result = .ok .null) ∧
      Appended (entries.update (entriesFrom offset calls))
        (offset + (entriesFrom offset calls).length) (Action.ending actions s env).1 := by
  induction calls generalizing entries offset s env with
  | nil => exact ⟨nofun, h⟩
  | cons call rest ih =>
    obtain ⟨hresult, hstep⟩ := appended_perform h call env.nextStep
    obtain ⟨hresults, hrest⟩ := ih hstep
      ((PreparedStatement.answer call.request).perform s env.nextStep).environment
    rw [← OrderedMap.update_append, Nat.add_assoc, ← length_entriesFrom_cons] at hrest
    exact ⟨List.forall_mem_cons.2 ⟨hresult, hresults⟩, hrest⟩

/-- Calls with maps of positions all succeed, and what they bind is what the cursor has. All their
values are there exactly when no two of them bind to one position, and they are there with later
calls behind all earlier ones exactly when each call stays below the next one. -/
theorem placed_behind_earlier_iff (cursor : Cursor) (sql : String) (buffering : Value)
    (ownText : Option String) (env : Environment) (calls : List PositionCall)
    {o : Outcome PreparedStatement Value}
    (ho : (run { cursor, sql } buffering [] ownText env (calls.map request)).getLast? = some o) :
    (∀ o ∈ run { cursor, sql } buffering [] ownText env (calls.map request),
      o.result = .ok .null) ∧
    o.state.bound = OrderedMap.ofEntries (entriesFrom 0 calls) ∧
    o.state.inner.base.bindings = { named := [], positional := o.state.bound } ∧
    o.state.offset = (entriesFrom 0 calls).length ∧
    (o.state.bound = entriesFrom 0 calls ↔ (positionsFrom 0 calls).Pairwise List.Disjoint) ∧
    (o.state.bound = entriesFrom 0 calls ∧ (positionsFrom 0 calls).Pairwise Below ↔
      calls.IsChain Precedes) := by
  have hstart : Appended [] 0
      { inner := .plain { cursor, sql }, buffering, placeholders := [], ownText } :=
    ⟨rfl, rfl, rfl, rfl⟩
  obtain ⟨hresults, hreached⟩ := appended_run hstart calls env
  rw [Action.ending_of_getLast? ho] at hreached
  obtain ⟨hbound, hholds⟩ := hreached
  have hall : o.state.bound = entriesFrom 0 calls ↔
      (positionsFrom 0 calls).Pairwise List.Disjoint := by
    rw [hbound, ← nodup_entriesFrom_iff]
    exact OrderedMap.ofEntries_eq_self_iff Value.lawfulOn_isPosition (keysIn_entriesFrom 0 calls)
  refine ⟨hresults, hbound, ?_, hholds.offset_eq.trans (Nat.zero_add _), hall, ?_⟩
  · rw [hbound]
    exact hholds.bindings_eq
  · rw [hall, ← ascending_iff 0]
    exact and_iff_right_of_imp fun h => h.imp Below.disjoint

/-- The second call stays below the two values of the first one. -/
def ascendingCalls : List PositionCall :=
  [untyped [(0, .text "a"), (2, .text "b")] nofun (by decide),
    untyped [(1, .text "c")] nofun (by decide)]

theorem two_calls_placed_behind_earlier :
    ∃ o, (run { cursor := { number := 0 }, sql := "BEGIN P(?, ?, ?); END;" } (.bool false) [] none
        {} (ascendingCalls.map request)).getLast? = some o ∧
      o.state.bound = [(.int 0, .text "a"), (.int 2, .text "b"), (.int 3, .text "c")] ∧
      (positionsFrom 0 ascendingCalls).Pairwise Below := by
  have hchain : ascendingCalls.IsChain Precedes := by
    simp [ascendingCalls, Precedes, positions, untyped]
  obtain ⟨-, -, -, -, -, hascending⟩ := placed_behind_earlier_iff { number := 0 }
    "BEGIN P(?, ?, ?); END;" (.bool false) none {} ascendingCalls rfl
  obtain ⟨hbound, hbelow⟩ := hascending.2 hchain
  exact ⟨_, rfl, hbound, hbelow⟩

/-- The second call goes on at the position that the first one has bound. -/
def collidingCalls : List PositionCall :=
  [untyped [(1, .text "a")] nofun (by decide), untyped [(0, .text "b")] nofun (by decide)]

theorem later_call_overwrites :
    ∃ o, (run { cursor := { number := 0 }, sql := "BEGIN P(?, ?); END;" } (.bool false) [] none {}
        (collidingCalls.map request)).getLast? = some o ∧
      positionsFrom 0 collidingCalls = [[1], [1]] ∧
      o.state.bound = [(.int 1, .text "b")] ∧
      o.state.inner.base.bindings.positional = [(.int 1, .text "b")] :=
  ⟨_, rfl, rfl, rfl, rfl⟩

end PositionCall

end OracleCatalog
