import Mathlib.Data.List.Forall2
import OracleCatalog.Proofs.Statement.Buffered
import OracleCatalog.Proofs.Statement.Pulling

/-!
# Rows that a buffer loses

A row is taken from the cursor before its large objects are read, and it is kept once all of them
could be read. So a call that fails because of a large object loses the row that it has taken, and a
list of all rows that is handed out later lacks it. Each row of the cursor is accounted for: it is
kept, it is lost by a call that has failed, or it has not been taken.
-/

namespace OracleCatalog

/-! ### Reading fails because of a large object -/

namespace Reading

variable {α β : Type}

/-- The reading fails only because a large object cannot be read. -/
def FailsUnread (reading : Reading α) : Prop :=
  ∀ shelf e, (reading.run.run shelf).1 = .error e → ∃ text, e = .lobUnreadable text

theorem failsUnread_pure (a : α) : FailsUnread (pure a : Reading α) := fun _ _ => nofun

theorem failsUnread_bind {reading : Reading α} {next : α → Reading β} (h : FailsUnread reading)
    (hnext : ∀ a, FailsUnread (next a)) : FailsUnread (reading >>= next) := by
  intro shelf e he
  rw [run_bind] at he
  cases hread : reading.run.run shelf with
  | mk result left =>
    rw [hread] at he
    cases result with
    | ok a => exact hnext a left e he
    | error e' =>
      cases he
      exact h shelf e (congrArg Prod.fst hread)

theorem failsUnread_mapM {f : α → Reading β} (h : ∀ a, FailsUnread (f a)) (as : List α) :
    FailsUnread (as.mapM f) := by
  induction as with
  | nil =>
    rw [List.mapM_nil]
    exact failsUnread_pure []
  | cons a rest ih =>
    rw [List.mapM_cons]
    exact failsUnread_bind (h a) fun _ => failsUnread_bind ih fun _ => failsUnread_pure _

theorem failsUnread_read (handle : Nat) : FailsUnread (Shelf.read handle) := by
  intro shelf e he
  cases hlob : shelf[handle]? with
  | none =>
    rw [run_read_of_none hlob] at he
    cases he
    exact ⟨"", rfl⟩
  | some lob =>
    rw [run_read_of_some hlob] at he
    change lob.outcome = .error e at he
    unfold Lob.outcome at he
    cases hfailure : lob.failure with
    | none =>
      rw [hfailure] at he
      cases he
    | some text =>
      rw [hfailure] at he
      cases he
      exact ⟨text, rfl⟩

end Reading

namespace Value

theorem failsUnread_readLob (v : Value) : v.readLob.FailsUnread := by
  cases v with
  | lob handle => exact Reading.failsUnread_read handle
  | _ => exact Reading.failsUnread_pure _

theorem failsUnread_readLobs (v : Value) : v.readLobs.FailsUnread := by
  cases v with
  | list items =>
    exact Reading.failsUnread_bind (Reading.failsUnread_mapM failsUnread_readLob items)
      fun _ => Reading.failsUnread_pure _
  | tuple items =>
    exact Reading.failsUnread_bind (Reading.failsUnread_mapM failsUnread_readLob items)
      fun _ => Reading.failsUnread_pure _
  | map entries =>
    have hentry : ∀ entry : Value × Value,
        Reading.FailsUnread (do return (entry.1, ← entry.2.readLob)) := fun entry =>
      Reading.failsUnread_bind (failsUnread_readLob entry.2) fun _ => Reading.failsUnread_pure _
    exact Reading.failsUnread_bind (Reading.failsUnread_mapM hentry entries)
      fun _ => Reading.failsUnread_pure _
  | _ => exact Reading.failsUnread_pure _

end Value

/-! ### Rows that are kept and rows that are lost -/

/-- A failure because of a large object. -/
def lobFailed {α : Type} : Except Error α → Bool
  | .error (.lobUnreadable _) => true
  | _ => false

/-- How many of the calls have failed because of a large object. -/
def lobFailures {σ α : Type} (run : List (Outcome σ α)) : Nat :=
  run.countP fun o => lobFailed o.result

namespace Shelf

/-- The rows that have been taken from a cursor, those of them that are kept, and how many are
lost. -/
inductive Collected (shelf : Shelf) (columns : List Value) :
    List (List Value) → List Value → Nat → Prop where
  | nothing : Collected shelf columns [] [] 0
  | keeps {rows : List (List Value)} {list : List Value} {lost : Nat} {shape : RowShape}
      {row : List Value} {r : Value} (before : Collected shelf columns rows list lost)
      (kept_eq : shelf.kept shape columns row = .ok r) :
      Collected shelf columns (rows ++ [row]) (list ++ [r]) lost
  | loses {rows : List (List Value)} {list : List Value} {lost : Nat} {shape : RowShape}
      {row : List Value} {e : Error} (before : Collected shelf columns rows list lost)
      (kept_eq : shelf.kept shape columns row = .error e) :
      Collected shelf columns (rows ++ [row]) list (lost + 1)

/-- The list holds every row, in order and as it is kept. -/
def Whole (shelf : Shelf) (columns : List Value) (rows : List (List Value)) (list : List Value) :
    Prop :=
  List.Forall₂ (fun row r => ∃ shape, shelf.kept shape columns row = .ok r) rows list

variable {shelf : Shelf} {columns : List Value} {rows : List (List Value)} {list : List Value}
  {lost : Nat}

/-- Each row is accounted for. -/
theorem Collected.length_add (h : Collected shelf columns rows list lost) :
    list.length + lost = rows.length := by
  induction h with
  | nothing => rfl
  | keeps _ _ ih =>
    rw [List.length_append, List.length_append, List.length_singleton, List.length_singleton]
    omega
  | loses _ _ ih =>
    rw [List.length_append, List.length_singleton]
    omega

theorem Collected.whole_iff (h : Collected shelf columns rows list lost) :
    Whole shelf columns rows list ↔ lost = 0 := by
  constructor
  · intro hwhole
    have hlength := List.Forall₂.length_eq hwhole
    have hadd := h.length_add
    omega
  · intro hlost
    induction h with
    | nothing => exact .nil
    | keeps _ kept_eq ih => exact List.rel_append (ih hlost) (.cons ⟨_, kept_eq⟩ .nil)
    | loses _ _ _ => cases hlost

end Shelf

open OracleCatalog.Shelf (Collected Whole)

/-! ### One row -/

/-- Taking a row leaves the others, and only an overdue failure of the cursor prevents it. -/
theorem Cursor.takeRow_cases (cursor : Cursor) :
    (∃ fault, cursor.takeRow = (.error (.raised fault), cursor)) ∨
      (cursor.rows = [] ∧ cursor.takeRow = (.ok none, cursor)) ∨
      ∃ row rest, cursor.rows = row :: rest ∧ cursor.takeRow =
        (.ok (some row), { cursor with rows := rest, fetched := cursor.fetched + 1 }) := by
  unfold takeRow
  cases cursor.nextFault with
  | some fault => exact .inl ⟨fault, rfl⟩
  | none =>
    cases hrows : cursor.rows with
    | nil => exact .inr (.inl ⟨rfl, rfl⟩)
    | cons row rest => exact .inr (.inr ⟨row, rest, rfl, rfl⟩)

namespace InnerStatement

section Gathers

variable {shelf : Shelf} {columns : List Value} {rows : List (List Value)} {lost : Nat}

/-- How far the rows have been gathered, of which so many are lost. -/
inductive Gathers (shelf : Shelf) (columns : List Value) (rows : List (List Value)) (lost : Nat) :
    InnerStatement → Environment → Prop where
  | taking {s : PlainStatement} {buffer : Buffer} {taken : List (List Value)} {env : Environment}
      (reading : buffer.isComplete = false)
      (columns_eq : s.cursor.columns = columns)
      (alike : shelf.Alike env.shelf)
      (rows_eq : taken ++ s.cursor.rows = rows)
      (collected : Collected shelf columns taken buffer.rows lost) :
      Gathers shelf columns rows lost (.buffered (.plain s) buffer) env
  | complete {s : PlainStatement} {buffer : Buffer} {env : Environment}
      (complete : buffer.isComplete = true)
      (collected : Collected shelf columns rows buffer.rows lost) :
      Gathers shelf columns rows lost (.buffered (.plain s) buffer) env

theorem Gathers.nextStep {st : InnerStatement} {env : Environment}
    (h : Gathers shelf columns rows lost st env) :
    Gathers shelf columns rows lost st env.nextStep := by
  cases h with
  | taking reading columns_eq alike rows_eq collected =>
    exact .taking reading columns_eq alike rows_eq collected
  | complete complete collected => exact .complete complete collected

theorem remaining_taking {s : PlainStatement} {buffer : Buffer}
    (hreading : buffer.isComplete = false) :
    (buffered (.plain s) buffer).remaining = s.cursor.rows.length := by
  unfold remaining
  rw [hreading]
  rfl

variable {shape : RowShape} {s : PlainStatement} {buffer : Buffer} {env : Environment}

theorem fetchFrom_fault {fault : Fault} (hreading : buffer.isComplete = false)
    (htaken : s.cursor.takeRow = (.error (.raised fault), s.cursor)) :
    fetchFrom shape (.buffered (.plain s) buffer) env =
      { result := .error (.raised fault)
        state := .buffered (.plain s) buffer
        environment := env.observe (.fetchOne s.cursor.number) } := by
  have hbehind : s.behindRow = s := by
    unfold PlainStatement.behindRow
    rw [htaken]
  unfold fetchFrom
  rw [fetchFrom_plain, hbehind, htaken, hreading]
  rfl

theorem fetchFrom_last (hreading : buffer.isComplete = false)
    (htaken : s.cursor.takeRow = (.ok none, s.cursor)) :
    fetchFrom shape (.buffered (.plain s) buffer) env =
      { result := .ok .null
        state := .buffered (.plain s) buffer.completed
        environment :=
          (env.observe (.fetchOne s.cursor.number)).observe (.close s.cursor.number) } := by
  have hbehind : s.behindRow = s := by
    unfold PlainStatement.behindRow
    rw [htaken]
  unfold fetchFrom
  rw [fetchFrom_plain, hbehind, htaken, hreading]
  rfl

/-- A row that is taken is kept if its large objects can be read, and is gone otherwise. -/
theorem fetchFrom_taken {row : List Value} (hreading : buffer.isComplete = false)
    (htaken : s.cursor.takeRow.1 = .ok (some row))
    (htruthy : (shape.row s.cursor.columns row).truthy = true) :
    fetchFrom shape (.buffered (.plain s) buffer) env =
      { result := env.shelf.kept shape s.cursor.columns row
        state := .buffered (.plain s.behindRow)
          { buffer with
            progress := .reading
            rows := buffer.rows ++ (env.shelf.kept shape s.cursor.columns row).toOption.toList }
        environment :=
          { env.observe (.fetchOne s.cursor.number) with
            shelf := ((shape.row s.cursor.columns row).readLobs.run.run env.shelf).2 } } := by
  have hshelf : (env.observe (.fetchOne s.cursor.number)).shelf = env.shelf := rfl
  unfold fetchFrom
  rw [fetchFrom_plain, htaken, hreading]
  simp only [Bool.false_eq_true, if_false, Except.map, RowShape.answer, htruthy, Bool.not_true,
    hshelf]
  unfold Shelf.kept
  cases (shape.row s.cursor.columns row).readLobs.run.run env.shelf with
  | mk result left =>
    cases result with
    | ok r => rfl
    | error e => simp [Except.toOption]

/-- The rows that are lost behind an outcome. -/
def lostWith {σ α : Type} (lost : Nat) (o : Outcome σ α) : Nat :=
  lost + (lobFailed o.result).toNat

theorem fetchFrom_gathers_row {taken rest : List (List Value)} {row : List Value}
    (reading : buffer.isComplete = false) (alike : shelf.Alike env.shelf)
    (rows_eq : taken ++ s.cursor.rows = rows)
    (collected : Collected shelf s.cursor.columns taken buffer.rows lost)
    (hrows : s.cursor.rows = row :: rest)
    (htaken : s.cursor.takeRow =
      (.ok (some row), { s.cursor with rows := rest, fetched := s.cursor.fetched + 1 }))
    (htruthy : (shape.row s.cursor.columns row).truthy = true) :
    let o := fetchFrom shape (.buffered (.plain s) buffer) env
    Gathers shelf s.cursor.columns rows (lostWith lost o) o.state o.environment ∧
      ∀ v, o.result = .ok v → o.state.remaining < s.cursor.rows.length := by
  have hcursor : s.behindRow.cursor =
      { s.cursor with rows := rest, fetched := s.cursor.fetched + 1 } := congrArg Prod.snd htaken
  have hcolumns : s.behindRow.cursor.columns = s.cursor.columns := by rw [hcursor]
  have hrest : taken ++ [row] ++ s.behindRow.cursor.rows = rows := by
    rw [hcursor, List.append_assoc, ← rows_eq, hrows]
    rfl
  have hfewer : s.behindRow.cursor.rows.length < s.cursor.rows.length := by
    rw [hcursor, hrows]
    exact Nat.lt_succ_self _
  -- only counts of reads tell the shelf of the environment from the one at the start
  have hkept : env.shelf.kept shape s.cursor.columns row =
      shelf.kept shape s.cursor.columns row := (alike.kept_eq shape _ row).symm
  have hrepeat := Value.repeatable_readLobs (shape.row s.cursor.columns row)
  have hshelf := alike.trans (hrepeat env.shelf env.shelf (Shelf.Alike.refl _)).2
  rw [fetchFrom_taken reading (congrArg Prod.fst htaken) htruthy, hkept]
  cases hresult : shelf.kept shape s.cursor.columns row with
  | ok r =>
    have hcollected := collected.keeps hresult
    exact ⟨.taking rfl hcolumns hshelf hrest hcollected, fun _ _ => hfewer⟩
  | error e =>
    obtain ⟨text, rfl⟩ := Value.failsUnread_readLobs _ _ _ hresult
    have hcollected : Collected shelf s.cursor.columns (taken ++ [row]) (buffer.rows ++ [])
        (lost + 1) := by
      rw [List.append_nil]
      exact collected.loses hresult
    refine ⟨.taking rfl hcolumns hshelf hrest hcollected, fun v hv => ?_⟩
    cases hv

theorem fetch_gathers {st : InnerStatement}
    (hcolumns : ∀ row ∈ rows, shape.HasColumns columns row)
    (h : Gathers shelf columns rows lost st env) :
    let o := (fetch shape).perform st env
    Gathers shelf columns rows (lostWith lost o) o.state o.environment ∧
      ∀ v, o.result = .ok v → o.state.isComplete = true ∨ o.state.remaining < st.remaining := by
  rw [fetch, Action.perform_ofFunction]
  cases h with
  | @complete s buffer env complete collected =>
    rw [fetchFrom_replay complete]
    exact ⟨.complete complete collected, fun _ _ => .inl complete⟩
  | @taking s buffer taken env reading columns_eq alike rows_eq collected =>
    obtain ⟨fault, htaken⟩ | ⟨hnone, htaken⟩ | ⟨row, rest, hrows, htaken⟩ :=
      s.cursor.takeRow_cases
    -- the cursor fails and hands out nothing
    · rw [fetchFrom_fault reading htaken]
      refine ⟨.taking reading columns_eq alike rows_eq collected, fun v hv => ?_⟩
      cases hv
    -- every row has been taken
    · rw [fetchFrom_last reading htaken]
      rw [hnone, List.append_nil] at rows_eq
      subst rows_eq
      exact ⟨.complete rfl collected, fun _ _ => .inl rfl⟩
    · subst columns_eq
      have hrow : row ∈ rows := by
        rw [← rows_eq, hrows]
        exact List.mem_append_right _ List.mem_cons_self
      obtain ⟨hgathers, hfewer⟩ := fetchFrom_gathers_row reading alike rows_eq collected hrows
        htaken (hcolumns row hrow).truthy
      refine ⟨hgathers, fun v hv => .inr ?_⟩
      rw [remaining_taking reading]
      exact hfewer v hv

/-! ### All rows -/

theorem lostWith_ok {σ α : Type} {o : Outcome σ α} {a : α} (h : o.result = .ok a) :
    lostWith lost o = lost := by
  unfold lostWith
  rw [h]
  rfl

theorem lostWith_congr {σ τ α β : Type} {o : Outcome σ α} {o' : Outcome τ β} (e : Error)
    (h : o.result = .error e) (h' : o'.result = .error e) : lostWith lost o = lostWith lost o' := by
  unfold lostWith
  rw [h, h']
  cases e <;> rfl

theorem drain_gathers {st : InnerStatement} {bound : Nat}
    (hcolumns : ∀ row ∈ rows, shape.HasColumns columns row)
    (h : Gathers shelf columns rows lost st env)
    (hbound : st.isComplete = true ∨ st.remaining < bound) :
    let o := (drain shape bound).perform st env
    Gathers shelf columns rows (lostWith lost o) o.state o.environment ∧
      (o.result = .ok () → o.state.isComplete = true) := by
  -- a fetch that does not fail leaves fewer rows to be taken, or none
  induction bound generalizing st env with
  | zero => exact ⟨h, fun _ => hbound.resolve_right (Nat.not_lt_zero _)⟩
  | succ bound ih =>
    unfold drain
    rw [Action.perform_bind, Action.perform_state, Outcome.andThen_ok]
    cases hcomplete : st.isComplete with
    | true => exact ⟨h, fun _ => hcomplete⟩
    | false =>
      obtain ⟨hgathers, hfewer⟩ := fetch_gathers hcolumns h
      have hlt : st.remaining < bound + 1 := by
        rw [hcomplete] at hbound
        exact hbound.resolve_left Bool.false_ne_true
      rw [if_neg Bool.false_ne_true, Action.perform_bind]
      cases hresult : ((fetch shape).perform st env).result with
      | ok v =>
        rw [Outcome.andThen_of_ok hresult]
        rw [lostWith_ok hresult] at hgathers
        refine ih hgathers ((hfewer v hresult).imp_right fun hless => ?_)
        omega
      | error e =>
        rw [Outcome.andThen_of_error hresult]
        refine ⟨?_, fun hok => ?_⟩
        · rw [lostWith_congr e rfl hresult]
          exact hgathers
        · cases hok

theorem Gathers.collected {st : InnerStatement} (h : Gathers shelf columns rows lost st env)
    (hcomplete : st.isComplete = true) :
    Collected shelf columns rows ((st.buffer?.map (·.rows)).getD []) lost := by
  cases h with
  | taking reading => exact absurd hcomplete (by rw [isComplete, reading]; exact nofun)
  | complete _ collected => exact collected

theorem answer_fetchAll {inner : InnerStatement} :
    (answer (.fetchAll shape)).perform (.buffered inner buffer) env =
      ((drain shape ((buffered inner buffer).remaining + 1)).perform
        (.buffered inner buffer) env).andThen fun _ => do
          return .list (((← Action.state).buffer?.map (·.rows)).getD []) := by
  unfold answer fetchAll
  rw [Action.perform_bind, Action.perform_bind, Action.perform_state, Outcome.andThen_ok]
  rw [Action.perform_bind]
  generalize (drain shape ((buffered inner buffer).remaining + 1)).perform
    (.buffered inner buffer) env = drained
  obtain ⟨result, st, reached⟩ := drained
  cases result <;> rfl

/-- Either call loses a row exactly when it fails because of a large object, and what is handed out
as all rows are those that have been kept. -/
theorem answer_gathers {st : InnerStatement} (pull : Pull)
    (hcolumns : ∀ row ∈ rows, shape.HasColumns columns row)
    (h : Gathers shelf columns rows lost st env) :
    let o := (answer (pull.request shape)).perform st env
    Gathers shelf columns rows (lostWith lost o) o.state o.environment ∧
      (pull = .all → ∀ v, o.result = .ok v →
        ∃ list, v = .list list ∧ Collected shelf columns rows list lost) := by
  cases pull with
  | next => exact ⟨(fetch_gathers hcolumns h).1, nofun⟩
  | all =>
    obtain ⟨hgathers, hcomplete⟩ :=
      drain_gathers hcolumns h (.inr (Nat.lt_succ_self st.remaining))
    obtain ⟨inner, buffer, rfl⟩ : ∃ inner buffer, st = .buffered inner buffer := by
      cases h with
      | taking => exact ⟨_, _, rfl⟩
      | complete => exact ⟨_, _, rfl⟩
    dsimp only
    rw [show Pull.all.request shape = .fetchAll shape from rfl, answer_fetchAll]
    cases hresult : ((drain shape ((buffered inner buffer).remaining + 1)).perform
        (.buffered inner buffer) env).result with
    | ok u =>
      rw [lostWith_ok hresult] at hgathers
      rw [Outcome.andThen_of_ok hresult]
      refine ⟨hgathers, fun _ v hv => ⟨_, (Except.ok.inj hv).symm, ?_⟩⟩
      exact hgathers.collected (hcomplete hresult)
    | error e =>
      rw [Outcome.andThen_of_error hresult]
      refine ⟨?_, fun _ _ => nofun⟩
      rw [lostWith_congr e rfl hresult]
      exact hgathers

/-! ### Runs -/

/-- What a statement comes to when it is called one time after the other, each time in a shape. -/
def called (calls : List (Pull × RowShape)) (st : InnerStatement) (env : Environment) :
    List (Outcome InnerStatement Value) :=
  Action.outcomes (calls.map fun call => answer (call.1.request call.2)) st env

theorem collected_called {calls : List (Pull × RowShape)} {st : InnerStatement}
    (hcolumns : ∀ call ∈ calls, ∀ row ∈ rows, call.2.HasColumns columns row)
    (h : Gathers shelf columns rows lost st env) {j : Nat} {v : Value}
    (hcall : (calls[j]?.map Prod.fst) = some .all)
    (hv : (called calls st env)[j]?.map Outcome.result = some (.ok v)) :
    ∃ list, v = .list list ∧
      Collected shelf columns rows list (lost + lobFailures ((called calls st env).take j)) := by
  induction calls generalizing st env lost j with
  | nil => cases hcall
  | cons call rest ih =>
    obtain ⟨hfirst, hrest⟩ := List.forall_mem_cons.1 hcolumns
    obtain ⟨hgathers, hall⟩ := answer_gathers call.1 hfirst h.nextStep
    cases j with
    | zero => exact hall (Option.some.inj hcall) v (Option.some.inj hv)
    | succ j =>
      obtain ⟨list, hlist, hcollected⟩ := ih hrest hgathers hcall hv
      refine ⟨list, hlist, ?_⟩
      let o := (answer (call.1.request call.2)).perform st env.nextStep
      have hlost : lost + lobFailures ((called (call :: rest) st env).take (j + 1)) =
          lostWith lost o + lobFailures ((called rest o.state o.environment).take j) := by
        show lost + lobFailures (o :: (called rest o.state o.environment).take j) = _
        unfold lobFailures lostWith
        rw [List.countP_cons]
        cases lobFailed o.result with
        | false => rfl
        | true =>
          rw [if_pos rfl, Bool.toNat_true]
          omega
      rw [hlost]
      exact hcollected

end Gathers

/-- What an execution leaves behind has gathered nothing yet. -/
theorem gathers_executed {parameters : Value} {s : PlainStatement} {buffer : Buffer}
    {env : Environment} {o : Outcome InnerStatement Unit}
    (executed : (execute parameters).perform (.buffered (.plain s) buffer) env = o) :
    Gathers o.environment.shelf o.state.base.cursor.columns o.state.base.cursor.rows 0 o.state
      o.environment := by
  obtain ⟨s', hstate⟩ := exists_executed executed
  rw [hstate]
  exact .taking rfl rfl (Shelf.Alike.refl _) (List.nil_append _) .nothing

/-- Whatever rows are called for behind an execution: a list of all rows accounts for every row of
the cursor, and holds every row exactly when no call before it has failed because of a large
object. -/
theorem list_whole_iff {parameters : Value} {s : PlainStatement} {buffer : Buffer}
    {env : Environment} {o : Outcome InnerStatement Unit} {calls : List (Pull × RowShape)} {j : Nat}
    {v : Value}
    (executed : (execute parameters).perform (.buffered (.plain s) buffer) env = o)
    (hcolumns : ∀ call ∈ calls, ∀ row ∈ o.state.base.cursor.rows,
      call.2.HasColumns o.state.base.cursor.columns row)
    (hcall : (calls[j]?.map Prod.fst) = some .all)
    (hv : (called calls o.state o.environment)[j]?.map Outcome.result = some (.ok v)) :
    ∃ list, v = .list list ∧
      Collected o.environment.shelf o.state.base.cursor.columns o.state.base.cursor.rows list
        (lobFailures ((called calls o.state o.environment).take j)) ∧
      (Whole o.environment.shelf o.state.base.cursor.columns o.state.base.cursor.rows list ↔
        lobFailures ((called calls o.state o.environment).take j) = 0) := by
  obtain ⟨list, hlist, hcollected⟩ :=
    collected_called hcolumns (gathers_executed executed) hcall hv
  rw [Nat.zero_add] at hcollected
  exact ⟨list, hlist, hcollected, hcollected.whole_iff⟩

/-- A reply of two rows, the first with a large object. -/
def rowsWithLob (lob : Lob) : Environment where
  answering := .inTurn [{ columns := some [.text "ID"], rows := [[.lob 0], [.int 2]] }]
  shelf := [lob]

def executedWithLob (lob : Lob) : Outcome InnerStatement Unit :=
  (execute .null).perform (.buffered (.plain { cursor := { number := 7 }, sql := "" }) {})
    (rowsWithLob lob)

theorem hasColumns_executedWithLob (lob : Lob) (shape : RowShape) :
    ∀ row ∈ (executedWithLob lob).state.base.cursor.rows,
      shape.HasColumns (executedWithLob lob).state.base.cursor.columns row := by
  intro row hrow
  refine ⟨?_, fun _ => List.cons_ne_nil _ _⟩
  obtain rfl | hrow := List.mem_cons.1 hrow
  · exact List.cons_ne_nil _ _
  · obtain rfl := List.mem_singleton.1 hrow
    exact List.cons_ne_nil _ _

/-- A call for one row and then one for all. -/
def nextThenAll : List (Pull × RowShape) := [(.next, .sequence), (.all, .sequence)]

/-- A large object that can be read costs no row. -/
theorem list_whole_with_lob :
    Whole [{ content := .text "long", reads := 0 }] [.text "ID"] [[.lob 0], [.int 2]]
      [.list [.text "long"], .list [.int 2]] := by
  let o := executedWithLob { content := .text "long" }
  have executed : (execute .null).perform
      (.buffered (.plain { cursor := { number := 7 }, sql := "" }) {})
      (rowsWithLob { content := .text "long" }) = o := rfl
  have hcolumns : ∀ call ∈ nextThenAll, ∀ row ∈ o.state.base.cursor.rows,
      call.2.HasColumns o.state.base.cursor.columns row :=
    fun call _ => hasColumns_executedWithLob _ call.2
  have hcall : nextThenAll[1]?.map Prod.fst = some .all := rfl
  have hv : (called nextThenAll o.state o.environment)[1]?.map Outcome.result =
      some (.ok (.list [.list [.text "long"], .list [.int 2]])) := rfl
  obtain ⟨list, hlist, -, hwhole⟩ := list_whole_iff executed hcolumns hcall hv
  cases hlist
  exact hwhole.2 rfl

/-- The row whose large object cannot be read is missing from the list that is handed out behind
the failure. -/
theorem list_lacks_unread_row :
    (called nextThenAll (executedWithLob { content := .null, failure := some "boom" }).state
      (executedWithLob { content := .null, failure := some "boom" }).environment).map
        Outcome.result = [.error (.lobUnreadable "boom"), .ok (.list [.list [.int 2]])] ∧
      ¬ Whole (executedWithLob { content := .null, failure := some "boom" }).environment.shelf
        [.text "ID"] [[.lob 0], [.int 2]] [.list [.int 2]] := by
  refine ⟨rfl, fun hwhole => ?_⟩
  have hlength := List.Forall₂.length_eq hwhole
  cases hlength

end InnerStatement

end OracleCatalog
