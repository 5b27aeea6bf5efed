import OracleCatalog.Proofs.Session.Runs
import OracleCatalog.Proofs.Statement.Closing
import OracleCatalog.Proofs.Statement.LobReads

/-!
# Large objects are read once

A prepared statement reads the large objects of the rows that it is given by a statement on the
cursor or by a buffer, and a buffer has read those of its rows already. Either way the objects of a
row are read when the row is taken from the cursor, once, and whatever is handed out holds none.
-/

namespace OracleCatalog

/-! ### The cursor -/

namespace Cursor

/-- The failure that the cursor runs into. -/
def FailsWith (cursor : Cursor) (e : Error) : Prop :=
  ∃ failure, cursor.failure = some failure ∧ e = .raised failure.fault

/-- The same cursor once these rows have been taken. -/
structure HasTaken (held cursor : Cursor) (taken : List (List Value)) : Prop where
  columns_eq : cursor.columns = held.columns
  failure_eq : cursor.failure = held.failure
  rows_eq : taken ++ cursor.rows = held.rows

variable {held cursor : Cursor} {taken : List (List Value)}

theorem failsWith_of_nextFault {fault : Fault} (h : cursor.nextFault = some fault) :
    cursor.FailsWith (.raised fault) := by
  unfold nextFault at h
  cases hfailure : cursor.failure with
  | none =>
    rw [hfailure] at h
    cases h
  | some failure =>
    rw [hfailure] at h
    obtain ⟨-, hfault⟩ := Option.ite_none_right_eq_some.1 h
    exact ⟨failure, hfailure, congrArg Error.raised (Option.some.inj hfault).symm⟩

theorem HasTaken.failsWith (h : held.HasTaken cursor taken) {e : Error}
    (hfails : cursor.FailsWith e) : held.FailsWith e := by
  obtain ⟨failure, hfailure, he⟩ := hfails
  exact ⟨failure, h.failure_eq.symm.trans hfailure, he⟩

theorem HasTaken.subset (h : held.HasTaken cursor taken) : taken ⊆ held.rows :=
  h.rows_eq ▸ List.subset_append_left _ _

theorem HasTaken.takeRow (h : held.HasTaken cursor taken) :
    (∃ fault, held.FailsWith (.raised fault) ∧
        cursor.takeRow = (.error (.raised fault), cursor)) ∨
      cursor.takeRow = (.ok none, cursor) ∨
      ∃ row ∈ held.rows, cursor.takeRow.1 = .ok (some row) ∧
        held.HasTaken cursor.takeRow.2 (taken ++ [row]) := by
  unfold Cursor.takeRow
  cases hfault : cursor.nextFault with
  | some fault => exact .inl ⟨fault, h.failsWith (failsWith_of_nextFault hfault), rfl⟩
  | none =>
    cases hrows : cursor.rows with
    | nil => exact .inr (.inl rfl)
    | cons row rest =>
      have hall := h.rows_eq
      rw [hrows] at hall
      have hrow : row ∈ held.rows := hall ▸ List.mem_append_right _ List.mem_cons_self
      have hrest : taken ++ [row] ++ rest = held.rows := (List.append_cons _ _ _).symm.trans hall
      exact .inr (.inr ⟨row, hrow, rfl, h.columns_eq, h.failure_eq, hrest⟩)

theorem HasTaken.takeRows (h : held.HasTaken cursor taken) :
    (∃ e, held.FailsWith e ∧ cursor.takeRows = (.error e, cursor)) ∨
      cursor.takeRows.1 = .ok cursor.rows ∧
        held.HasTaken cursor.takeRows.2 (taken ++ cursor.rows) := by
  unfold Cursor.takeRows
  cases hfault : cursor.nextFault with
  | some fault => exact .inl ⟨_, h.failsWith (failsWith_of_nextFault hfault), rfl⟩
  | none => exact .inr ⟨rfl, h.columns_eq, h.failure_eq, (List.append_nil _).trans h.rows_eq⟩

/-- A row counts as the end only if there are no columns. -/
theorem HoldsReadable.eq_nil_of_not_truthy {shelf : Shelf} (readable : held.HoldsReadable shelf)
    {row : List Value} (hrow : row ∈ held.rows) {shape : RowShape}
    (h : (shape.row held.columns row).truthy = false) : row = [] := by
  by_contra hne
  have hcolumns : held.columns ≠ [] := by
    intro hnil
    have hlength := readable.width row hrow
    rw [hnil] at hlength
    exact hne (List.length_eq_zero_iff.1 hlength)
  have htruthy : (shape.row held.columns row).truthy = true :=
    RowShape.HasColumns.truthy ⟨hne, fun _ => hcolumns⟩
  exact Bool.false_ne_true (h.symm.trans htruthy)

end Cursor

/-! ### What has been read -/

/-- The rows that an answer hands out. -/
def handedOut (pull : Pull) (answer : Value) : List Value := rowsOf pull (.ok answer)

theorem eq_of_mem_handedOut {r answer : Value} (h : r ∈ handedOut .next answer) :
    r = answer ∧ answer ≠ .null := by
  cases answer with
  | null => cases h
  | _ => exact ⟨List.mem_singleton.1 h, nofun⟩

theorem mem_handedOut_self {answer : Value} (h : answer ≠ .null) :
    answer ∈ handedOut .next answer := by
  cases answer with
  | null => exact absurd rfl h
  | _ => exact List.mem_singleton_self _

namespace InnerStatement

/-- These rows of the cursor have been taken and read, and the buffer has kept none but them. -/
inductive HasRead (held : Cursor) (start : Shelf) (taken : List (List Value)) :
    InnerStatement → Shelf → Prop where
  | bare {s : PlainStatement} {shelf : Shelf} (hasTaken : held.HasTaken s.cursor taken)
      (hasRead : start.HasRead shelf taken) : HasRead held start taken (.plain s) shelf
  | buffered {s : PlainStatement} {buffer : Buffer} {shelf : Shelf}
      (hasTaken : held.HasTaken s.cursor taken) (hasRead : start.HasRead shelf taken)
      (kept : ∀ r ∈ buffer.rows, start.Shows taken r) :
      HasRead held start taken (.buffered (.plain s) buffer) shelf

/-- A call goes on from there: it takes and reads more rows, hands out rows that have been taken,
and fails only with the cursor. -/
def GoesOn {α : Type} (held : Cursor) (start : Shelf) (taken : List (List Value))
    (rows : α → List Value) (result : Except Error α) (st : InnerStatement) (shelf : Shelf) :
    Prop :=
  ∃ more, HasRead held start (taken ++ more) st shelf ∧
    (∀ a, result = .ok a → ∀ r ∈ rows a, start.Shows (taken ++ more) r) ∧
    ∀ e, result = .error e → held.FailsWith e

variable {held : Cursor} {start : Shelf} {taken : List (List Value)} {st : InnerStatement}
  {shelf : Shelf} {env : Environment} {s : PlainStatement} {buffer : Buffer} {shape : RowShape}

theorem HasRead.hasTaken (h : HasRead held start taken st shelf) :
    held.HasTaken st.base.cursor taken := by
  cases h with
  | bare hasTaken _ => exact hasTaken
  | buffered hasTaken _ _ => exact hasTaken

theorem HasRead.hasRead (h : HasRead held start taken st shelf) : start.HasRead shelf taken := by
  cases h with
  | bare _ hasRead => exact hasRead
  | buffered _ hasRead _ => exact hasRead

theorem HasRead.goesOn_ok {α : Type} {rows : α → List Value} {a : α}
    (h : HasRead held start taken st shelf) (hrows : ∀ r ∈ rows a, start.Shows taken r) :
    GoesOn held start taken rows (.ok a) st shelf := by
  refine ⟨[], ?_, ?_, nofun⟩
  · rw [List.append_nil]
    exact h
  · rintro _ ⟨⟩
    rw [List.append_nil]
    exact hrows

theorem HasRead.goesOn_error {α : Type} {rows : α → List Value} {e : Error}
    (h : HasRead held start taken st shelf) (hfails : held.FailsWith e) :
    GoesOn held start taken rows (.error e) st shelf := by
  refine ⟨[], ?_, nofun, ?_⟩
  · rw [List.append_nil]
    exact h
  · rintro _ ⟨⟩
    exact hfails

theorem GoesOn.andThen {σ α β : Type} (inner : σ → InnerStatement) {rows : α → List Value}
    {rows' : β → List Value} {o : Outcome σ α} {next : α → Action σ β}
    (h : GoesOn held start taken rows o.result (inner o.state) o.environment.shelf)
    (hnext : ∀ a more, HasRead held start (taken ++ more) (inner o.state) o.environment.shelf →
      (∀ r ∈ rows a, start.Shows (taken ++ more) r) →
      let o' := (next a).perform o.state o.environment
      GoesOn held start (taken ++ more) rows' o'.result (inner o'.state) o'.environment.shelf) :
    let o' := o.andThen next
    GoesOn held start taken rows' o'.result (inner o'.state) o'.environment.shelf := by
  obtain ⟨more, hread, hrows, hfails⟩ := h
  obtain ⟨result, s, reached⟩ := o
  cases result with
  | error e =>
    rw [Outcome.andThen_error]
    refine ⟨more, hread, nofun, ?_⟩
    rintro _ ⟨⟩
    exact hfails e rfl
  | ok a =>
    obtain ⟨others, hread', hrows', hfails'⟩ := hnext a more hread (hrows a rfl)
    rw [List.append_assoc] at hread' hrows'
    exact ⟨more ++ others, hread', hrows', hfails'⟩

/-! ### Rows from a buffer -/

theorem fetchFrom_blank {row : List Value} (hreading : buffer.isComplete = false)
    (htaken : s.cursor.takeRow.1 = .ok (some row))
    (hblank : (shape.row s.cursor.columns row).truthy = false) :
    fetchFrom shape (.buffered (.plain s) buffer) env =
      { result := .ok .null
        state := .buffered (.plain s.behindRow) buffer.completed
        environment :=
          (env.observe (.fetchOne s.cursor.number)).observe
            (.close s.behindRow.cursor.number) } := by
  unfold fetchFrom
  rw [fetchFrom_plain, htaken, hreading]
  simp only [Bool.false_eq_true, if_false, Except.map, RowShape.answer, hblank, Bool.not_false,
    if_true]
  rfl

/-- What a buffer hands out again has been read. -/
theorem replay_goesOn (hcomplete : buffer.isComplete = true)
    (h : HasRead held start taken (.buffered (.plain s) buffer) env.shelf)
    (kept : ∀ r ∈ buffer.rows, start.Shows taken r) :
    let o := fetchFrom shape (.buffered (.plain s) buffer) env
    GoesOn held start taken (handedOut .next) o.result o.state o.environment.shelf := by
  rw [fetchFrom_replay hcomplete]
  have hbehind : HasRead held start taken
      (.buffered (.plain s) { buffer with index := buffer.index + 1 }) env.shelf :=
    .buffered h.hasTaken h.hasRead kept
  refine hbehind.goesOn_ok fun r hr => ?_
  obtain ⟨rfl, hne⟩ := eq_of_mem_handedOut hr
  cases hrow : buffer.rows[buffer.index]? with
  | none =>
    have hnull : Buffer.reshaped shape .null = .null := by cases shape <;> rfl
    rw [hrow, Option.getD_none] at hne
    exact absurd hnull hne
  | some again =>
    obtain ⟨row, hmem, hvalues⟩ := kept again (List.mem_of_getElem? hrow)
    refine ⟨row, hmem, ?_⟩
    rw [Option.getD_some, Buffer.rowValues_reshaped]
    exact hvalues

/-- A row that a buffer takes is read when it is taken. -/
theorem take_goesOn (readable : held.HoldsReadable start) (hreading : buffer.isComplete = false)
    (hasTaken : held.HasTaken s.cursor taken) (hasRead : start.HasRead env.shelf taken)
    (kept : ∀ r ∈ buffer.rows, start.Shows taken r) {row : List Value} (hrow : row ∈ held.rows)
    (htaken : s.cursor.takeRow.1 = .ok (some row))
    (hbehind : held.HasTaken s.behindRow.cursor (taken ++ [row])) :
    let o := fetchFrom shape (.buffered (.plain s) buffer) env
    GoesOn held start taken (handedOut .next) o.result o.state o.environment.shelf := by
  have hkept : ∀ r ∈ buffer.rows, start.Shows (taken ++ [row]) r := fun r hr =>
    (kept r hr).mono (List.subset_append_left _ _)
  obtain ⟨r, hr, hshows, hread⟩ := hasRead.readRow readable hrow shape
  rw [← hasTaken.columns_eq] at hr hread
  cases htruthy : (shape.row s.cursor.columns row).truthy with
  | true =>
    have hkeeps : env.shelf.kept shape s.cursor.columns row = .ok r := hr
    rw [fetchFrom_taken hreading htaken htruthy, hkeeps]
    have hrows : ∀ r' ∈ buffer.rows ++ [r], start.Shows (taken ++ [row]) r' :=
      List.forall_mem_append.2 ⟨hkept, List.forall_mem_singleton.2 hshows⟩
    refine ⟨[row], .buffered hbehind hread hrows, fun v hv r' hr' => ?_, nofun⟩
    obtain rfl := Except.ok.inj hv
    obtain ⟨rfl, -⟩ := eq_of_mem_handedOut hr'
    exact hshows
  -- a row without values is taken as the end, and there is nothing in it to be read
  | false =>
    rw [fetchFrom_blank hreading htaken htruthy]
    rw [hasTaken.columns_eq] at htruthy
    obtain rfl := readable.eq_nil_of_not_truthy hrow htruthy
    have hnothing : start.HasRead env.shelf (taken ++ [[]]) := by
      refine ⟨hasRead.alike, fun handle => ?_⟩
      rw [hasRead.reads_eq, lobHandles_append, lobHandles_singleton, List.filterMap_nil,
        List.append_nil]
    refine ⟨[[]], .buffered hbehind hnothing hkept, ?_, nofun⟩
    rintro _ ⟨⟩
    exact nofun

theorem fetch_buffered_goesOn (shape : RowShape) (readable : held.HoldsReadable start)
    (h : HasRead held start taken (.buffered (.plain s) buffer) env.shelf) :
    let o := fetchFrom shape (.buffered (.plain s) buffer) env
    GoesOn held start taken (handedOut .next) o.result o.state o.environment.shelf := by
  cases h with
  | buffered hasTaken hasRead kept =>
    cases hcomplete : buffer.isComplete with
    | true => exact replay_goesOn hcomplete (.buffered hasTaken hasRead kept) kept
    | false =>
      have hread : HasRead held start taken (.buffered (.plain s) buffer) env.shelf :=
        .buffered hasTaken hasRead kept
      obtain ⟨fault, hfails, htaken⟩ | htaken | ⟨row, hrow, htaken, hbehind⟩ := hasTaken.takeRow
      -- the cursor fails and hands out nothing
      · rw [fetchFrom_fault hcomplete htaken]
        exact hread.goesOn_error hfails
      -- every row has been taken
      · rw [fetchFrom_last hcomplete htaken]
        exact HasRead.goesOn_ok (.buffered hasTaken hasRead kept) nofun
      · exact take_goesOn readable hcomplete hasTaken hasRead kept hrow htaken hbehind

theorem drain_goesOn (readable : held.HoldsReadable start) (bound : Nat)
    (h : HasRead held start taken st env.shelf) :
    let o := (drain shape bound).perform st env
    GoesOn held start taken (fun _ => []) o.result o.state o.environment.shelf := by
  induction bound generalizing taken st env with
  | zero => exact h.goesOn_ok nofun
  | succ bound ih =>
    unfold drain
    rw [Action.perform_bind, Action.perform_state, Outcome.andThen_ok]
    cases hcomplete : st.isComplete with
    | true => exact h.goesOn_ok nofun
    | false =>
      cases h with
      | bare _ _ => cases hcomplete
      | buffered hasTaken hasRead kept =>
        rw [if_neg Bool.false_ne_true, Action.perform_bind]
        have hfetched := fetch_buffered_goesOn shape readable (.buffered hasTaken hasRead kept)
        exact GoesOn.andThen id hfetched fun _ _ hread _ => ih hread

theorem HasRead.shows_kept (h : HasRead held start taken st shelf) :
    ∀ r ∈ st.kept, start.Shows taken r := by
  cases h with
  | bare _ _ => exact nofun
  | buffered _ _ kept => exact kept

theorem fetchAll_buffered_goesOn (shape : RowShape) (readable : held.HoldsReadable start)
    (h : HasRead held start taken (.buffered (.plain s) buffer) env.shelf) :
    let o := (fetchAll shape).perform (.buffered (.plain s) buffer) env
    GoesOn held start taken id o.result o.state o.environment.shelf := by
  unfold fetchAll
  dsimp only
  rw [Action.perform_bind, Action.perform_state, Outcome.andThen_ok]
  dsimp only
  rw [Action.perform_bind]
  exact GoesOn.andThen id (drain_goesOn readable _ h) fun _ _ hread _ =>
    hread.goesOn_ok hread.shows_kept

/-! ### Rows from the cursor -/

theorem fetchAll_plain (shape : RowShape) (s : PlainStatement) (env : Environment) :
    (fetchAll shape).perform (.plain s) env =
      { result := s.cursor.takeRows.1.map fun rows => rows.map (shape.row s.cursor.columns)
        state := .plain { s with cursor := s.cursor.takeRows.2 }
        environment := env.observe (.fetchAll s.cursor.number) } := by
  show (onBase (PlainStatement.fetchAll shape)).perform (.plain s) env = _
  unfold onBase
  rw [Action.perform_within, base, PlainStatement.fetchAll_perform]
  rfl

end InnerStatement

open OracleCatalog.InnerStatement (HasRead GoesOn)

namespace PreparedStatement

variable {held : Cursor} {start : Shelf} {taken : List (List Value)} {s : PreparedStatement}
  {env : Environment} {shape : RowShape}

/-- A row is read when it is fetched; one from a buffer has been read and holds no large object. -/
theorem fetch_goesOn (readable : held.HoldsReadable start)
    (h : HasRead held start taken s.inner env.shelf) :
    let o := (fetch shape).perform s env
    GoesOn held start taken (handedOut .next) o.result o.state.inner o.environment.shelf := by
  have hinner : (onInner (InnerStatement.fetch shape)).perform s env =
      { result := (InnerStatement.fetchFrom shape s.inner env).result
        state := { s with inner := (InnerStatement.fetchFrom shape s.inner env).state }
        environment := (InnerStatement.fetchFrom shape s.inner env).environment } := rfl
  unfold fetch
  rw [Action.perform_bind, hinner]
  generalize s.inner = st at h
  cases h with
  | @bare p _ hasTaken hasRead =>
    rw [InnerStatement.fetchFrom_plain]
    unfold PlainStatement.behindRow
    obtain ⟨fault, hfails, htaken⟩ | htaken | ⟨row, hrow, htaken, hbehind⟩ := hasTaken.takeRow
    -- the cursor fails and hands out nothing
    · rw [htaken]
      exact HasRead.goesOn_error (.bare hasTaken hasRead) hfails
    -- every row has been taken
    · rw [htaken]
      exact HasRead.goesOn_ok (.bare hasTaken hasRead) nofun
    · obtain ⟨r, hr, hshows, hread⟩ := hasRead.readRow readable hrow shape
      rw [← hasTaken.columns_eq] at hr hread
      rw [htaken]
      refine ⟨[row], .bare hbehind hread, fun v hv r' hr' => ?_, fun e he => ?_⟩
      · obtain ⟨rfl, -⟩ := eq_of_mem_handedOut hr'
        obtain rfl := Except.ok.inj (hr.symm.trans hv)
        exact hshows
      · cases hr.symm.trans he
  | @buffered p buffer _ hasTaken hasRead kept =>
    have hgoes := InnerStatement.fetch_buffered_goesOn shape readable
      (.buffered hasTaken hasRead kept)
    refine GoesOn.andThen PreparedStatement.inner hgoes fun answer more hread hrows => ?_
    have hfree : answer.LobFree := by
      by_cases hnull : answer = .null
      · rw [hnull]
        exact Value.lobFree_null
      · have hshows := hrows answer (mem_handedOut_self hnull)
        exact hshows.lobFree readable hread.hasTaken.subset
    rw [hfree.readLobs_eq]
    exact hread.goesOn_ok hrows

/-- All rows that are left are read together, by the buffer or without one. -/
theorem fetchAll_goesOn (readable : held.HoldsReadable start)
    (h : HasRead held start taken s.inner env.shelf) :
    let o := (fetchAll shape).perform s env
    GoesOn held start taken id o.result o.state.inner o.environment.shelf := by
  have hinner : (onInner (InnerStatement.fetchAll shape)).perform s env =
      { result := ((InnerStatement.fetchAll shape).perform s.inner env).result
        state := { s with inner := ((InnerStatement.fetchAll shape).perform s.inner env).state }
        environment := ((InnerStatement.fetchAll shape).perform s.inner env).environment } := rfl
  unfold fetchAll
  rw [Action.perform_bind, hinner]
  generalize s.inner = st at h
  cases h with
  | @bare p _ hasTaken hasRead =>
    rw [InnerStatement.fetchAll_plain]
    obtain ⟨e, hfails, htaken⟩ | ⟨htaken, hbehind⟩ := hasTaken.takeRows
    · rw [htaken]
      exact HasRead.goesOn_error (.bare hasTaken hasRead) hfails
    · have hrest : p.cursor.rows ⊆ held.rows :=
        hasTaken.rows_eq ▸ List.subset_append_right _ _
      obtain ⟨rs, hrs, hshows, hread⟩ := hasRead.readRows readable hrest shape
      rw [← hasTaken.columns_eq] at hrs hread
      rw [htaken]
      refine ⟨p.cursor.rows, .bare hbehind hread, fun rs' hrs' => ?_, fun e he => ?_⟩
      · obtain rfl := Except.ok.inj (hrs.symm.trans hrs')
        exact hshows
      · cases hrs.symm.trans he
  | @buffered p buffer _ hasTaken hasRead kept =>
    have hgoes := InnerStatement.fetchAll_buffered_goesOn shape readable
      (.buffered hasTaken hasRead kept)
    refine GoesOn.andThen PreparedStatement.inner hgoes fun rows more hread hrows => ?_
    have hagain : rows.mapM Value.readLobs = pure rows := Reading.mapM_eq_pure fun r hr =>
      ((hrows r hr).lobFree readable hread.hasTaken.subset).readLobs_eq
    rw [hagain]
    exact hread.goesOn_ok hrows

theorem answer_goesOn (pull : Pull) (shape : RowShape) (readable : held.HoldsReadable start)
    (h : HasRead held start taken s.inner env.shelf) :
    let o := (answer (pull.request shape)).perform s env
    GoesOn held start taken (handedOut pull) o.result o.state.inner o.environment.shelf := by
  cases pull with
  | next => exact fetch_goesOn readable h
  | all =>
    show let o := (fetchAll shape >>= fun rows => pure (Value.list rows)).perform s env
      GoesOn held start taken (handedOut .all) o.result o.state.inner o.environment.shelf
    rw [Action.perform_bind]
    exact GoesOn.andThen PreparedStatement.inner (fetchAll_goesOn readable h)
      fun _ _ hread hrows => hread.goesOn_ok hrows

/-- An execution leaves the cursor with all its rows. -/
theorem Fresh.hasRead {origin : PlainStatement} (h : Fresh origin s) (shelf : Shelf) :
    HasRead s.inner.base.cursor shelf [] s.inner shelf := by
  cases h with
  | bare _ _ inner_eq _ =>
    rw [inner_eq]
    exact .bare ⟨rfl, rfl, rfl⟩ (.nothing shelf)
  | buffered _ _ inner_eq _ =>
    rw [inner_eq]
    exact .buffered ⟨rfl, rfl, rfl⟩ (.nothing shelf) nofun

end PreparedStatement

namespace LoggedStatement

/-- The rows that have not been taken. -/
def rowsLeft (o : Outcome LoggedStatement Value) : List (List Value) :=
  o.state.statement.inner.base.cursor.rows

/-- A call takes rows of the cursor behind those that earlier calls have taken. It reads their large
objects once, and no others. What it hands out are rows that have been taken, with what their large
objects hold in their place, and it fails only where the cursor does. -/
structure ReadsOnce (held : Cursor) (start : Shelf) (pull : Pull)
    (before o : Outcome LoggedStatement Value) (earlier taken later : List (List Value)) :
    Prop where
  rows_eq : earlier ++ (taken ++ later) = held.rows
  left_before : rowsLeft before = taken ++ later
  left_behind : rowsLeft o = later
  read_before : start.ReadTimes before.environment.shelf 1 earlier
  unread_before : start.ReadTimes before.environment.shelf 0 (taken ++ later)
  read_behind : start.ReadTimes o.environment.shelf 1 (earlier ++ taken)
  unread_behind : start.ReadTimes o.environment.shelf 0 later
  others : ∀ handle ∉ lobHandles taken,
    o.environment.shelf.reads handle = before.environment.shelf.reads handle
  shows : ∀ r ∈ rowsOf pull o.result, start.Shows (earlier ++ taken) r
  lobFree : ∀ r ∈ rowsOf pull o.result, r.LobFree
  fails : ∀ e, o.result = .error e → held.FailsWith e

variable {held : Cursor} {start : Shelf} {earlier : List (List Value)}

theorem readsOnce_answer (readable : held.HoldsReadable start)
    {before : Outcome LoggedStatement Value}
    (h : HasRead held start earlier before.state.statement.inner before.environment.shelf)
    (pull : Pull) (shape : RowShape) :
    let o := (answer (pull.request shape)).perform before.state before.environment.nextStep
    ∃ taken later, ReadsOnce held start pull before o earlier taken later ∧
      HasRead held start (earlier ++ taken) o.state.statement.inner o.environment.shelf := by
  have hstatement : (answer (pull.request shape)) =
      onStatement (PreparedStatement.answer (pull.request shape)) := by cases pull <;> rfl
  have hread : HasRead held start earlier before.state.statement.inner
      before.environment.nextStep.shelf := h
  obtain ⟨taken, hbehind, hrows, hfails⟩ :=
    PreparedStatement.answer_goesOn pull shape readable hread
  dsimp only
  rw [hstatement]
  unfold onStatement
  rw [Action.perform_within]
  generalize (PreparedStatement.answer (pull.request shape)).perform before.state.statement
    before.environment.nextStep = o at hbehind hrows hfails
  have hleft := hbehind.hasTaken.rows_eq
  have hleftBefore := h.hasTaken.rows_eq
  rw [← hleft, List.append_assoc, List.append_right_inj] at hleftBefore
  have once : (lobHandles (earlier ++ (taken ++ o.state.inner.base.cursor.rows))).Nodup := by
    rw [← List.append_assoc, hleft]
    exact readable.once
  obtain ⟨hreadBefore, hunreadBefore⟩ := h.hasRead.readTimes once
  rw [← List.append_assoc] at once
  obtain ⟨hreadBehind, hunreadBehind⟩ := hbehind.hasRead.readTimes once
  have hshows : ∀ r ∈ rowsOf pull o.result, start.Shows (earlier ++ taken) r := by
    cases hresult : o.result with
    | ok answer => exact hrows answer hresult
    | error e => cases pull <;> exact nofun
  have hothers : ∀ handle ∉ lobHandles taken,
      o.environment.shelf.reads handle = before.environment.shelf.reads handle := by
    intro handle hnot
    rw [hbehind.hasRead.reads_eq, h.hasRead.reads_eq, lobHandles_append, List.count_append,
      List.count_eq_zero.2 hnot, Nat.add_zero]
  refine ⟨taken, o.state.inner.base.cursor.rows, ?_, hbehind⟩
  exact {
    rows_eq := (List.append_assoc _ _ _).symm.trans hleft
    left_before := hleftBefore
    left_behind := rfl
    read_before := hreadBefore
    unread_before := hunreadBefore
    read_behind := hreadBehind
    unread_behind := hunreadBehind
    others := hothers
    shows := hshows
    lobFree := fun r hr => (hshows r hr).lobFree readable hbehind.hasTaken.subset
    fails := hfails }

/-! ### Runs -/

/-- What a statement comes to when it is called one time after the other, each time in a shape. -/
def called (calls : List (Pull × RowShape)) (s : LoggedStatement) (env : Environment) :
    List (Outcome LoggedStatement Value) :=
  Action.outcomes (calls.map fun call => answer (call.1.request call.2)) s env

theorem readsOnce_called (readable : held.HoldsReadable start)
    {first : Outcome LoggedStatement Value}
    (h : HasRead held start earlier first.state.statement.inner first.environment.shelf)
    {calls : List (Pull × RowShape)} {j : Nat} {call : Pull × RowShape}
    {before o : Outcome LoggedStatement Value} (hcall : calls[j]? = some call)
    (hbefore : (first :: called calls first.state first.environment)[j]? = some before)
    (ho : (called calls first.state first.environment)[j]? = some o) :
    ∃ earlier taken later, ReadsOnce held start call.1 before o earlier taken later := by
  induction calls generalizing first earlier j with
  | nil => cases hcall
  | cons next rest ih =>
    obtain ⟨taken, later, hreads, hread⟩ := readsOnce_answer readable h next.1 next.2
    cases j with
    | zero =>
      cases hcall
      cases hbefore
      cases ho
      exact ⟨earlier, taken, later, hreads⟩
    | succ j => exact ih hread hcall hbefore ho

theorem hasRead_executed {cursor : Cursor} {buffering : Value} {placeholders : Entries}
    {log sql : String} {env : Environment} {requests : List Request} {parameters : Value}
    {o : Outcome LoggedStatement Value}
    (executed : (run cursor buffering placeholders log env
      (requests ++ [.execute parameters]) sql).getLast? = some o) :
    HasRead o.state.statement.inner.base.cursor o.environment.shelf [] o.state.statement.inner
      o.environment.shelf := by
  have hkeeps : ∀ action ∈ requests.map answer, Action.Keeps
      (fun s : LoggedStatement => PreparedStatement.Whole { cursor, sql } s.statement) action := by
    intro action haction
    obtain ⟨request, -, rfl⟩ := List.mem_map.1 haction
    exact keeps_answer (PreparedStatement.keeps_whole_answer request)
  have hstart : PreparedStatement.Whole { cursor, sql }
      (prepared cursor buffering placeholders log sql).statement := PreparedStatement.whole_start
  obtain ⟨held, hwrapped⟩ := Action.keeps_ending hkeeps hstart env
  unfold run at executed
  rw [List.map_append, List.map_singleton, Action.getLast?_outcomes_concat] at executed
  obtain rfl := Option.some.inj executed
  obtain ⟨env', -, hstate, -⟩ := answer_like_prepared (.execute parameters) _ _
  obtain ⟨hexecuted, -⟩ :=
    Action.returning_keeps (.bool true) (PreparedStatement.execute parameters) _ env'
  rw [hstate.trans hexecuted]
  exact (PreparedStatement.fresh_of_execute parameters hwrapped env').hasRead _

/-- Behind an execution, whatever rows are called for, one after the other and in any shape: every
call reads the large objects of the rows that it takes from the cursor, each once, and no others,
and no row that is handed out, be it for the first time or again, holds one. -/
theorem lobs_read_once {cursor : Cursor} {buffering : Value} {placeholders : Entries}
    {log sql : String} {env : Environment} {requests : List Request} {parameters : Value}
    {o : Outcome LoggedStatement Value} {calls : List (Pull × RowShape)}
    (executed : (run cursor buffering placeholders log env
      (requests ++ [.execute parameters]) sql).getLast? = some o)
    (readable : o.state.statement.inner.base.cursor.HoldsReadable o.environment.shelf)
    {j : Nat} {call : Pull × RowShape} {before behind : Outcome LoggedStatement Value}
    (hcall : calls[j]? = some call)
    (hbefore : (o :: called calls o.state o.environment)[j]? = some before)
    (hbehind : (called calls o.state o.environment)[j]? = some behind) :
    ∃ earlier taken later, ReadsOnce o.state.statement.inner.base.cursor o.environment.shelf
      call.1 before behind earlier taken later :=
  readsOnce_called readable (hasRead_executed executed) hcall hbefore hbehind

/-- A reply of two rows, each a large object. -/
def rowsOfLobs : Environment where
  answering := .inTurn [{ columns := some [.text "DOC"], rows := [[.lob 0], [.lob 1]] }]
  shelf := [{ content := .text "first" }, { content := .text "second" }]

def runOnLobs : List (Outcome LoggedStatement Value) :=
  run { number := 0 } (.bool true) [] defaultLog rowsOfLobs ([] ++ [.execute .null])
    "SELECT DOC FROM T"

/-- A call for one row and then one for all, with which the first row is handed out again. -/
def callsForLobs : List (Pull × RowShape) := [(.next, .keyed), (.all, .sequence)]

theorem lobs_read_once_replaying :
    ∃ o, runOnLobs.getLast? = some o ∧
      (called callsForLobs o.state o.environment).map Outcome.result =
        [.ok (.map [(.text "DOC", .text "first")]),
          .ok (.list [.map [(.text "DOC", .text "first")], .list [.text "second"]])] ∧
      ∃ before ∈ called callsForLobs o.state o.environment,
        ∃ behind ∈ called callsForLobs o.state o.environment, ∃ earlier taken later,
          ReadsOnce o.state.statement.inner.base.cursor o.environment.shelf .all before behind
            earlier taken later := by
  let o := runOnLobs[0]
  have executed : runOnLobs.getLast? = some o := rfl
  have readable : o.state.statement.inner.base.cursor.HoldsReadable o.environment.shelf := {
    texts := by
      intro name hname
      obtain rfl := List.mem_singleton.1 hname
      exact ⟨_, rfl⟩
    distinct := List.pairwise_singleton _ _
    width := by
      intro row hrow
      rcases List.mem_pair.1 hrow with rfl | rfl <;> rfl
    once := by
      show [0, 1].Nodup
      decide
    readable := by
      intro row hrow v hv
      rcases List.mem_pair.1 hrow with rfl | rfl
      · obtain rfl := List.mem_singleton.1 hv
        exact ⟨_, rfl, rfl⟩
      · obtain rfl := List.mem_singleton.1 hv
        exact ⟨_, rfl, rfl⟩ }
  let first := (called callsForLobs o.state o.environment)[0]
  let second := (called callsForLobs o.state o.environment)[1]
  have hcall : callsForLobs[1]? = some (.all, .sequence) := rfl
  have hbefore : (o :: called callsForLobs o.state o.environment)[1]? = some first := rfl
  have hbehind : (called callsForLobs o.state o.environment)[1]? = some second := rfl
  have hreads := lobs_read_once executed readable hcall hbefore hbehind
  exact ⟨o, executed, rfl, first, List.getElem_mem _, second, List.getElem_mem _, hreads⟩

end LoggedStatement

end OracleCatalog
