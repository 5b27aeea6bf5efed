import OracleCatalog.Proofs.Session.Perform
import OracleCatalog.Proofs.Statement.Reader
import OracleCatalog.Proofs.Statement.Script

/-!
# Buffered statements hand out every row

A buffered statement that has been executed pulls each row of its cursor once, closes the cursor
when it finds the end, and hands out the rows from its buffer afterwards. What it answers to any mix
of calls for one row and for all rows is what the reader of these rows is answered.
-/

namespace OracleCatalog

namespace InnerStatement

/-! ### One row -/

section Fetch

variable {shape : RowShape} {s : PlainStatement} {buffer : Buffer} {env : Environment}

theorem fetchFrom_row {row : List Value} {rest : List (List Value)} {r : Value} {shelf : Shelf}
    (hreading : buffer.isComplete = false) (hfailure : s.cursor.failure = none)
    (hrows : s.cursor.rows = row :: rest)
    (htruthy : (shape.row s.cursor.columns row).truthy = true)
    (hread : (shape.row s.cursor.columns row).readLobs.run.run env.shelf = (.ok r, shelf)) :
    fetchFrom shape (.buffered (.plain s) buffer) env =
      { result := .ok r
        state := .buffered
          (.plain { s with
            cursor := { s.cursor with rows := rest, fetched := s.cursor.fetched + 1 } })
          { buffer with progress := .reading, rows := buffer.rows ++ [r] }
        environment := { env.observe (.fetchOne s.cursor.number) with shelf } } := by
  have hplain : fetchFrom shape (.plain s) env =
      { result := .ok (shape.row s.cursor.columns row)
        state := .plain { s with
          cursor := { s.cursor with rows := rest, fetched := s.cursor.fetched + 1 } }
        environment := env.observe (.fetchOne s.cursor.number) } := by
    unfold fetchFrom PlainStatement.fetch PlainStatement.onCursor Cursor.fetchOne Cursor.takeRow
      Cursor.nextFault
    simp only [Action.perform_bind, Action.perform_within, Action.perform_ofFunction, hfailure,
      hrows, Outcome.andThen_ok, Action.perform_state, Action.perform_pure]
  have hshelf : (env.observe (.fetchOne s.cursor.number)).shelf = env.shelf := rfl
  unfold fetchFrom
  rw [hplain, hreading]
  simp only [Bool.false_eq_true, if_false, htruthy, Bool.not_true, hshelf, hread]

theorem fetchFrom_end (hreading : buffer.isComplete = false)
    (hfailure : s.cursor.failure = none) (hrows : s.cursor.rows = []) :
    fetchFrom shape (.buffered (.plain s) buffer) env =
      { result := .ok .null
        state := .buffered (.plain s) buffer.completed
        environment :=
          (env.observe (.fetchOne s.cursor.number)).observe (.close s.cursor.number) } := by
  have hplain : fetchFrom shape (.plain s) env =
      { result := .ok .null
        state := .plain s
        environment := env.observe (.fetchOne s.cursor.number) } := by
    unfold fetchFrom PlainStatement.fetch PlainStatement.onCursor Cursor.fetchOne Cursor.takeRow
      Cursor.nextFault
    simp only [Action.perform_bind, Action.perform_within, Action.perform_ofFunction, hfailure,
      hrows, Outcome.andThen_ok, Action.perform_pure]
  unfold fetchFrom
  rw [hplain, hreading]
  rfl

theorem fetchFrom_replay (hcomplete : buffer.isComplete = true) (inner : InnerStatement) :
    fetchFrom shape (.buffered inner buffer) env =
      { result := .ok (Buffer.reshaped shape (buffer.rows[buffer.index]?.getD .null))
        state := .buffered inner { buffer with index := buffer.index + 1 }
        environment := env } := by
  unfold fetchFrom
  rw [if_pos hcomplete]
  rfl

end Fetch

/-! ### The reader of a buffered statement -/

section Stands

variable {cursor : Nat} {shape : RowShape} {script : List Value} {past : List Event}

/-- The statement stands as the reader of the rows does, and has asked the cursor for as much,
counting what was asked before. -/
inductive Stands (cursor : Nat) (shape : RowShape) (script : List Value) (past : List Event) :
    Reader → InnerStatement → Environment → Prop where
  | taking {s : PlainStatement} {buffer : Buffer} {left : List Value} {taken : Nat}
      {env : Environment} (number_eq : s.cursor.number = cursor)
      (scripts : s.cursor.Scripts shape env.shelf left)
      (reading : buffer.isComplete = false)
      (index_eq : buffer.index = 0)
      (taken_eq : buffer.rows.length = taken)
      (whole : buffer.rows ++ left = script)
      (asked : past ++ env.events = List.replicate taken (.fetchOne cursor)) :
      Stands cursor shape script past (.taking taken) (.buffered (.plain s) buffer) env
  | replaying {s : PlainStatement} {buffer : Buffer} {index : Nat} {env : Environment}
      (complete : buffer.isComplete = true)
      (index_eq : buffer.index = index)
      (whole : buffer.rows = script)
      (asked : past ++ env.events =
        List.replicate (script.length + 1) (.fetchOne cursor) ++ [.close cursor]) :
      Stands cursor shape script past (.replaying index) (.buffered (.plain s) buffer) env

theorem Stands.asked_eq {reader : Reader} {st : InnerStatement} {env : Environment}
    (h : Stands cursor shape script past reader st env) :
    past ++ env.events = reader.asked cursor script.length := by
  cases h with
  | taking _ _ _ _ _ _ asked => exact asked
  | replaying _ _ _ asked => exact asked

theorem Stands.nextStep {reader : Reader} {st : InnerStatement} {env : Environment}
    (h : Stands cursor shape script past reader st env) :
    Stands cursor shape script (past ++ env.events) reader st env.nextStep := by
  cases h with
  | taking number_eq scripts reading index_eq taken_eq whole asked =>
    exact .taking number_eq scripts reading index_eq taken_eq whole
      ((List.append_nil _).trans asked)
  | replaying complete index_eq whole asked =>
    exact .replaying complete index_eq whole ((List.append_nil _).trans asked)

theorem fetch_stands (hreshaped : ∀ r ∈ script, Buffer.reshaped shape r = r) {reader : Reader}
    {st : InnerStatement} {env : Environment}
    (h : Stands cursor shape script past reader st env) :
    ((fetch shape).perform st env).result = .ok (reader.answer script .next) ∧
      Stands cursor shape script past (reader.after script.length .next)
        ((fetch shape).perform st env).state ((fetch shape).perform st env).environment := by
  rw [fetch, Action.perform_ofFunction]
  cases h with
  | @taking s buffer left taken env number_eq scripts reading index_eq taken_eq whole asked =>
    subst taken_eq
    cases hrows : s.cursor.rows with
    -- nothing is left, so the buffer has all rows and the cursor is closed
    | nil =>
      obtain rfl := scripts.eq_nil hrows
      obtain rfl : buffer.rows = script := (List.append_nil _).symm.trans whole
      rw [fetchFrom_end reading scripts.failure_eq hrows, Reader.answer_taking_end,
        Reader.after_taking_end (Nat.le_refl _)]
      refine ⟨rfl, .replaying rfl index_eq rfl ?_⟩
      show past ++ (env.events ++ [.fetchOne s.cursor.number] ++ [.close s.cursor.number]) = _
      rw [number_eq, ← List.append_assoc, ← List.append_assoc, asked, List.replicate_succ']
    -- the next row joins the buffer
    | cons row rest =>
      obtain ⟨r, left', shelf, rfl, hread, hbehind⟩ := scripts.cases_cons hrows
      have hcolumns := scripts.hasColumns row (hrows ▸ List.mem_cons_self)
      have hlt : buffer.rows.length < script.length := by
        rw [← whole, List.length_append, List.length_cons]
        omega
      have hanswer : script[buffer.rows.length]? = some r := by
        rw [← whole, List.getElem?_append_right (Nat.le_refl _), Nat.sub_self]
        rfl
      rw [fetchFrom_row reading scripts.failure_eq hrows hcolumns.truthy hread,
        Reader.after_taking_lt hlt]
      refine ⟨?_, .taking number_eq hbehind rfl index_eq List.length_append ?_ ?_⟩
      · show Except.ok r = .ok (script[buffer.rows.length]?.getD .null)
        rw [hanswer]
        rfl
      · rw [List.append_assoc]
        exact whole
      · show past ++ (env.events ++ [.fetchOne s.cursor.number]) = _
        rw [number_eq, ← List.append_assoc, asked, List.replicate_succ']
  | @replaying s buffer index env complete index_eq whole asked =>
    rw [fetchFrom_replay complete]
    refine ⟨?_, .replaying complete (congrArg (· + 1) index_eq) whole asked⟩
    subst whole index_eq
    show Except.ok _ = Except.ok (buffer.rows[buffer.index]?.getD .null)
    cases hrow : buffer.rows[buffer.index]? with
    | none => cases shape <;> rfl
    | some r => rw [Option.getD_some, hreshaped r (List.mem_of_getElem? hrow)]

/-! ### All rows -/

theorem fetchesLeft_le {reader : Reader} {st : InnerStatement} {env : Environment}
    (h : Stands cursor shape script past reader st env) :
    reader.fetchesLeft script.length ≤ st.remaining + 1 := by
  cases h with
  | @taking s buffer left taken env _ scripts reading _ taken_eq whole _ =>
    subst taken_eq
    have hremaining : (buffered (.plain s) buffer).remaining = left.length := by
      unfold remaining
      rw [reading]
      exact scripts.length_eq
    rw [hremaining, ← whole, List.length_append]
    show buffer.rows.length + left.length - buffer.rows.length + 1 ≤ left.length + 1
    omega
  | replaying => exact Nat.zero_le _

theorem drain_stands (hreshaped : ∀ r ∈ script, Buffer.reshaped shape r = r) {reader : Reader}
    {st : InnerStatement} {env : Environment}
    (h : Stands cursor shape script past reader st env) {bound : Nat}
    (hbound : reader.fetchesLeft script.length ≤ bound) :
    ((drain shape bound).perform st env).result = .ok () ∧
      Stands cursor shape script past (reader.after script.length .all)
        ((drain shape bound).perform st env).state
        ((drain shape bound).perform st env).environment := by
  -- each round makes one fetch, which takes the reader nearer to the end or there
  induction bound generalizing reader st env with
  | zero =>
    cases h with
    | taking => exact absurd hbound (Nat.not_succ_le_zero _)
    | replaying complete index_eq whole asked =>
      exact ⟨rfl, .replaying complete index_eq whole asked⟩
  | succ bound ih =>
    unfold drain
    rw [Action.perform_bind, Action.perform_state, Outcome.andThen_ok]
    obtain ⟨hresult, hstands⟩ := fetch_stands hreshaped h
    cases h with
    | @taking s buffer left taken env _ _ reading _ _ _ _ =>
      have hcomplete : (buffered (.plain s) buffer).isComplete = false := reading
      rw [hcomplete, if_neg Bool.false_ne_true, Action.perform_bind,
        Outcome.andThen_of_ok hresult]
      have hleft : (Reader.after script.length (.taking taken) .next).fetchesLeft script.length ≤
          bound := by
        rw [Reader.fetchesLeft_after]
        exact Nat.le_of_succ_le_succ hbound
      have hdrained := ih hstands hleft
      rw [Reader.after_all_after] at hdrained
      exact hdrained
    | @replaying s buffer index env complete index_eq whole asked =>
      have hcomplete : (buffered (.plain s) buffer).isComplete = true := complete
      rw [hcomplete]
      exact ⟨rfl, .replaying complete index_eq whole asked⟩

theorem Stands.rows_eq {index : Nat} {st : InnerStatement} {env : Environment}
    (h : Stands cursor shape script past (.replaying index) st env) :
    (st.buffer?.map (·.rows)).getD [] = script := by
  cases h with
  | replaying _ _ whole _ => exact whole

theorem answer_stands (hreshaped : ∀ r ∈ script, Buffer.reshaped shape r = r) {reader : Reader}
    {st : InnerStatement} {env : Environment}
    (h : Stands cursor shape script past reader st env) (pull : Pull) :
    ((answer (pull.request shape)).perform st env).result = .ok (reader.answer script pull) ∧
      Stands cursor shape script past (reader.after script.length pull)
        ((answer (pull.request shape)).perform st env).state
        ((answer (pull.request shape)).perform st env).environment := by
  cases pull with
  | next => exact fetch_stands hreshaped h
  | all =>
    obtain ⟨hresult, hstands⟩ := drain_stands hreshaped h (fetchesLeft_le h)
    obtain ⟨inner, buffer, hst⟩ : ∃ inner buffer, st = .buffered inner buffer := by
      cases h with
      | taking => exact ⟨_, _, rfl⟩
      | replaying => exact ⟨_, _, rfl⟩
    subst hst
    unfold Pull.request answer fetchAll
    simp only [Action.perform_bind, Action.perform_state, Outcome.andThen_ok,
      Outcome.andThen_of_ok hresult, Action.perform_pure]
    refine ⟨?_, hstands⟩
    cases reader with
    | taking taken => exact congrArg (fun rows => Except.ok (Value.list rows)) hstands.rows_eq
    | replaying index => exact congrArg (fun rows => Except.ok (Value.list rows)) hstands.rows_eq

/-! ### Runs -/

/-- What a statement comes to when it is called one time after the other. -/
def pulled (shape : RowShape) (pulls : List Pull) (st : InnerStatement) (env : Environment) :
    List (Outcome InnerStatement Value) :=
  Action.outcomes (pulls.map fun pull => answer (pull.request shape)) st env

theorem result_pulled (hreshaped : ∀ r ∈ script, Buffer.reshaped shape r = r) {reader : Reader}
    {st : InnerStatement} {env : Environment}
    (h : Stands cursor shape script past reader st env) (pulls : List Pull) (i : Nat) :
    (pulled shape pulls st env)[i]?.map Outcome.result =
      pulls[i]?.map fun pull =>
        Except.ok ((reader.afterEach script.length (pulls.take i)).answer script pull) := by
  -- the events of a call are past for the calls behind it
  induction pulls generalizing reader past st env i with
  | nil => rfl
  | cons pull rest ih =>
    obtain ⟨hresult, hstands⟩ := answer_stands hreshaped h.nextStep pull
    cases i with
    | zero => exact congrArg some hresult
    | succ i => exact ih hstands i

theorem events_pulled (hreshaped : ∀ r ∈ script, Buffer.reshaped shape r = r) {reader : Reader}
    {st : InnerStatement} {env : Environment}
    (h : Stands cursor shape script past reader st env) (pulls : List Pull) :
    past ++ env.events ++ (pulled shape pulls st env).flatMap (·.environment.events) =
      (reader.afterEach script.length pulls).asked cursor script.length := by
  induction pulls generalizing reader past st env with
  | nil => exact (List.append_nil _).trans h.asked_eq
  | cons pull rest ih =>
    obtain ⟨-, hstands⟩ := answer_stands hreshaped h.nextStep pull
    refine Eq.trans ?_ (ih hstands)
    exact (List.append_assoc _ _ _).symm

end Stands

/-! ### After an execution -/

/-- An execution leaves an empty buffer behind. -/
theorem exists_executed {parameters : Value} {s : PlainStatement} {buffer : Buffer}
    {env : Environment} {o : Outcome InnerStatement Unit}
    (executed : (execute parameters).perform (.buffered (.plain s) buffer) env = o) :
    ∃ s', o.state = .buffered (.plain s') {} := by
  rw [← executed]
  unfold execute onBase
  rw [Action.perform_bind, Action.perform_change, Outcome.andThen_ok, Action.perform_within]
  exact ⟨_, rfl⟩

theorem stands_executed {parameters : Value} {s : PlainStatement} {buffer : Buffer}
    {env : Environment} {o : Outcome InnerStatement Unit} {shape : RowShape} {script : List Value}
    (executed : (execute parameters).perform (.buffered (.plain s) buffer) env = o)
    (scripts : o.state.base.cursor.Scripts shape o.environment.shelf script) :
    Stands o.state.base.cursor.number shape script [] (.taking 0) o.state
      o.environment.nextStep := by
  obtain ⟨s', hstate⟩ := exists_executed executed
  rw [hstate] at scripts ⊢
  exact .taking rfl scripts rfl rfl rfl rfl rfl

/-- What a run of calls comes to on a cursor with these rows. -/
structure HandsOut (cursor : Nat) (script : List Value) (pulls : List Pull)
    (run : List (Outcome InnerStatement Value)) : Prop where
  /-- Asking for all rows answers all rows. -/
  all : ∀ i : Nat, pulls[i]? = some .all →
    run[i]?.map Outcome.result = some (.ok (.list script))
  /-- Until the end is found, every call asks for a row and answers the next one. -/
  taken : ∀ i < Reader.callsBeforeEnd script.length pulls, i < pulls.length →
    ∃ row, pulls[i]? = some .next ∧ script[i]? = some row ∧
      run[i]?.map Outcome.result = some (.ok row)
  /-- A call for a row that finds the end answers null. -/
  found : pulls[Reader.callsBeforeEnd script.length pulls]? = some .next →
    run[Reader.callsBeforeEnd script.length pulls]?.map Outcome.result = some (.ok .null)
  /-- From then on calls for a row answer the rows once more, and null behind the last one. -/
  replayed : ∀ i > Reader.callsBeforeEnd script.length pulls, pulls[i]? = some .next →
    run[i]?.map Outcome.result = some (.ok (script[((pulls.take i).drop
      (Reader.callsBeforeEnd script.length pulls + 1)).count .next]?.getD .null))
  /-- The cursor is asked for each row and for the end, is closed, and is left alone. -/
  asked : run.flatMap (·.environment.events) =
    if Reader.callsBeforeEnd script.length pulls < pulls.length then
      List.replicate (script.length + 1) (.fetchOne cursor) ++ [.close cursor]
    else List.replicate pulls.length (.fetchOne cursor)

/-- After an execution, any mix of calls for one row and for all rows is answered with the rows of
the cursor, each of which is fetched once. -/
theorem handsOut_of_execute {parameters : Value} {s : PlainStatement} {buffer : Buffer}
    {env : Environment} {o : Outcome InnerStatement Unit} {shape : RowShape} {script : List Value}
    (executed : (execute parameters).perform (.buffered (.plain s) buffer) env = o)
    (scripts : o.state.base.cursor.Scripts shape o.environment.shelf script)
    (pulls : List Pull) :
    HandsOut o.state.base.cursor.number script pulls
      (pulled shape pulls o.state o.environment) := by
  have hstands := stands_executed executed scripts
  have hrun : pulled shape pulls o.state o.environment.nextStep =
      pulled shape pulls o.state o.environment := Action.outcomes_nextStep _ _ _
  have hafter : ∀ i ≤ pulls.length,
      (Reader.taking 0).afterEach script.length (pulls.take i) =
        if i ≤ Reader.callsBeforeEnd script.length pulls then .taking i
        else .replaying (((pulls.take i).drop
          (Reader.callsBeforeEnd script.length pulls + 1)).count .next) := by
    intro i hi
    have h := Reader.afterEach_taking (Nat.zero_le script.length) hi
    rw [Nat.zero_add, Nat.sub_zero] at h
    exact h
  have hanswer : ∀ (i : Nat) (pull : Pull), pulls[i]? = some pull →
      (pulled shape pulls o.state o.environment)[i]?.map Outcome.result =
        some (.ok (((Reader.taking 0).afterEach script.length (pulls.take i)).answer script
          pull)) := by
    intro i pull hpull
    have h := result_pulled scripts.reshaped hstands pulls i
    rw [hrun, hpull] at h
    exact h
  refine ⟨?_, ?_, ?_, ?_, ?_⟩
  · intro i hpull
    exact hanswer i .all hpull
  · intro i hlt hi
    have hnext := Reader.next_of_lt_callsBeforeEnd hlt hi
    have hrow : i < script.length := Nat.lt_of_lt_of_le hlt (Nat.min_le_left _ _)
    refine ⟨script[i], hnext, List.getElem?_eq_getElem hrow, ?_⟩
    rw [hanswer i .next hnext, hafter i (Nat.le_of_lt hi), if_pos (Nat.le_of_lt hlt)]
    show some (Except.ok (script[i]?.getD .null)) = _
    rw [List.getElem?_eq_getElem hrow]
    rfl
  · intro hnext
    obtain ⟨hi, -⟩ := List.getElem?_eq_some_iff.1 hnext
    rw [hanswer _ .next hnext, hafter _ (Nat.le_of_lt hi), if_pos (Nat.le_refl _),
      Reader.callsBeforeEnd_of_next hnext, Reader.answer_taking_end]
  · intro i hgt hnext
    obtain ⟨hi, -⟩ := List.getElem?_eq_some_iff.1 hnext
    rw [hanswer i .next hnext, hafter i (Nat.le_of_lt hi), if_neg (Nat.not_le.2 hgt)]
    rfl
  · have hasked := events_pulled scripts.reshaped hstands pulls
    have hend := hafter pulls.length (Nat.le_refl _)
    rw [List.take_length] at hend
    rw [hrun, hend] at hasked
    refine Eq.trans hasked ?_
    split
    · rename_i hle
      rw [if_neg (Nat.not_lt.2 hle)]
      rfl
    · rename_i hgt
      rw [if_pos (Nat.not_le.1 hgt)]
      rfl

/-- A reply of two rows, the second with a large object. -/
def twoRows : Environment where
  answering := .inTurn [{ columns := some [.text "ID"], rows := [[.int 1], [.lob 0]] }]
  shelf := [{ content := .text "long" }]

def executedTwoRows : Outcome InnerStatement Unit :=
  (execute .null).perform (.buffered (.plain { cursor := { number := 7 }, sql := "" }) {}) twoRows

theorem handsOut_two_rows :
    HandsOut 7 [.map [(.text "ID", .int 1)], .map [(.text "ID", .text "long")]]
      [.next, .all, .next, .next, .next]
      (pulled .keyed [.next, .all, .next, .next, .next] executedTwoRows.state
        executedTwoRows.environment) := by
  have hcolumns : ∀ row ∈ executedTwoRows.state.base.cursor.rows,
      RowShape.HasColumns .keyed executedTwoRows.state.base.cursor.columns row := by
    intro row hrow
    refine ⟨?_, fun _ => List.cons_ne_nil _ _⟩
    rcases List.mem_cons.1 hrow with rfl | hrow
    · exact List.cons_ne_nil _ _
    · obtain rfl := List.mem_singleton.1 hrow
      exact List.cons_ne_nil _ _
  exact handsOut_of_execute rfl ⟨rfl, hcolumns, rfl⟩ _

end InnerStatement

end OracleCatalog
