import OracleCatalog.Proofs.Name
import OracleCatalog.Proofs.Statement.Lost

/-!
# Shapes of buffered rows

A buffer keeps each row in the shape in which it was taken from the cursor. A call for one row turns
a map that has been kept into a list when lists are asked for; it does not turn a list into a map,
and a call for all rows turns nothing. So every row that is handed out has the shape that is asked
for exactly when the calls fit the shapes in which the rows were taken.
-/

namespace OracleCatalog

/-! ### The values of a row -/

/-- The values of a row with their large objects read. -/
def Shelf.values (shelf : Shelf) (row : List Value) : Except Error (List Value) :=
  ((row.mapM Value.readLob).run.run shelf).1

/-- A row of these values: a list of them, or a map in which the columns are the keys. -/
def RowShape.rowOf (shape : RowShape) (columns values : List Value) : Value :=
  match shape with
  | .keyed => .map (columns.zip values)
  | _ => .list values

/-- The columns have different names, at least one, and each row has a value for every column. -/
structure Tabular (columns : List Value) (rows : List (List Value)) : Prop where
  named : columns ≠ []
  texts : ∀ name ∈ columns, name.IsText
  distinct : columns.Nodup
  width : ∀ row ∈ rows, row.length = columns.length

theorem keys_zip {columns values : List Value} (h : values.length = columns.length) :
    OrderedMap.keys (columns.zip values) = columns :=
  List.map_fst_zip (Nat.le_of_eq h.symm)

theorem values_zip {columns values : List Value} (h : values.length = columns.length) :
    OrderedMap.values (columns.zip values) = values :=
  List.map_snd_zip (Nat.le_of_eq h)

theorem Reading.length_of_mapM {α β : Type} {f : α → Reading β} {as : List α} {bs : List β}
    {shelf left : Shelf} (h : (as.mapM f).run.run shelf = (.ok bs, left)) :
    bs.length = as.length := by
  induction as generalizing shelf bs with
  | nil =>
    rw [List.mapM_nil] at h
    cases h
    rfl
  | cons a rest ih =>
    rw [List.mapM_cons] at h
    obtain ⟨b, _, -, h⟩ := ok_of_bind h
    obtain ⟨others, _, hothers, h⟩ := ok_of_bind h
    cases h
    exact congrArg (· + 1) (ih hothers)

theorem Shelf.length_values {shelf : Shelf} {row values : List Value}
    (h : shelf.values row = .ok values) : values.length = row.length :=
  Reading.length_of_mapM (Prod.ext h rfl)

theorem mapM_readLob_zip {columns row : List Value} (h : row.length = columns.length) :
    ((columns.zip row).mapM fun entry => do return (entry.1, ← entry.2.readLob) :
        Reading (List (Value × Value))) =
      row.mapM Value.readLob >>= fun values => pure (columns.zip values) := by
  induction columns generalizing row with
  | nil =>
    obtain rfl := List.length_eq_zero_iff.1 h
    simp
  | cons column columns ih =>
    obtain ⟨v, row, rfl⟩ := List.exists_cons_of_length_eq_add_one h
    have hrest := ih (Nat.succ.inj h)
    rw [List.zip_cons_cons, List.mapM_cons, hrest, List.mapM_cons]
    simp

theorem readLobs_zip {columns row : List Value} (h : row.length = columns.length) :
    (Value.map (columns.zip row)).readLobs =
      row.mapM Value.readLob >>= fun values => pure (.map (columns.zip values)) := by
  show (((columns.zip row).mapM fun entry => do return (entry.1, ← entry.2.readLob) :
    Reading (List (Value × Value))) >>= fun entries => pure (Value.map entries)) = _
  rw [mapM_readLob_zip h, bind_assoc]
  simp only [pure_bind]

/-- Where the columns have different names, the large objects of a row are those of its values. -/
theorem RowShape.readLobs_row (shape : RowShape) {columns row : List Value}
    (texts : ∀ name ∈ columns, name.IsText) (distinct : columns.Nodup)
    (width : row.length = columns.length) :
    (shape.row columns row).readLobs =
      row.mapM Value.readLob >>= fun values => pure (shape.rowOf columns values) := by
  cases shape with
  | sequence => rfl
  | other => rfl
  | keyed =>
    have hentries : OrderedMap.ofEntries (columns.zip row) = columns.zip row := by
      refine (OrderedMap.ofEntries_eq_self_iff Value.lawfulOn_isText ?_).2 ?_
      · intro name hname
        rw [keys_zip width] at hname
        exact texts name hname
      · rw [keys_zip width]
        exact distinct
    unfold RowShape.row
    dsimp only
    rw [hentries, readLobs_zip width]
    rfl

namespace Tabular

variable {columns row : List Value} {rows : List (List Value)}

theorem hasColumns (h : Tabular columns rows) (hrow : row ∈ rows) (shape : RowShape) :
    shape.HasColumns columns row := by
  refine ⟨fun hnil => h.named ?_, fun _ => h.named⟩
  have hlength := h.width row hrow
  rw [hnil] at hlength
  exact List.length_eq_zero_iff.1 hlength.symm

/-- A row is kept with the values that it holds once its large objects are read. -/
theorem kept_eq (h : Tabular columns rows) (hrow : row ∈ rows) (shelf : Shelf) (shape : RowShape) :
    shelf.kept shape columns row = (shelf.values row).map (shape.rowOf columns) := by
  unfold Shelf.kept Shelf.values
  rw [shape.readLobs_row h.texts h.distinct (h.width row hrow), Reading.run_bind]
  cases (row.mapM Value.readLob).run.run shelf with
  | mk result left => cases result <;> rfl

end Tabular

/-! ### Rows in a shape -/

section Rows

variable {shelf : Shelf} {columns : List Value} {rows : List (List Value)} {shape taken : RowShape}
  {r : Value}

/-- A row in a shape, with the values of a row of the cursor. -/
def IsRow (shelf : Shelf) (columns : List Value) (rows : List (List Value)) (shape : RowShape)
    (r : Value) : Prop :=
  ∃ row ∈ rows, ∃ values, shelf.values row = .ok values ∧ r = shape.rowOf columns values

/-- A row has one of the two shapes. -/
theorem IsRow.unique (h : IsRow shelf columns rows taken r)
    (h' : IsRow shelf columns rows shape r) (htaken : taken ≠ .other) (hshape : shape ≠ .other) :
    taken = shape := by
  obtain ⟨-, -, values, -, rfl⟩ := h
  obtain ⟨-, -, values', -, heq⟩ := h'
  cases taken <;> cases shape <;> first | rfl | contradiction

theorem IsRow.reshaped_sequence (tabular : Tabular columns rows)
    (h : IsRow shelf columns rows taken r) :
    IsRow shelf columns rows .sequence (Buffer.reshaped .sequence r) := by
  obtain ⟨row, hrow, values, hvalues, rfl⟩ := h
  refine ⟨row, hrow, values, hvalues, ?_⟩
  cases taken with
  | sequence => rfl
  | other => rfl
  | keyed =>
    have hlength := (Shelf.length_values hvalues).trans (tabular.width row hrow)
    exact congrArg Value.list (values_zip hlength)

/-- Handing a row out again in a shape gives that shape if it was taken in it, or if lists are asked
for. -/
theorem IsRow.reshaped_iff (tabular : Tabular columns rows)
    (h : IsRow shelf columns rows taken r) (htaken : taken ≠ .other) (hshape : shape ≠ .other) :
    IsRow shelf columns rows shape (Buffer.reshaped shape r) ↔
      taken = shape ∨ shape = .sequence := by
  cases shape with
  | other => exact absurd rfl hshape
  | sequence => exact iff_of_true (h.reshaped_sequence tabular) (.inr rfl)
  | keyed =>
    have hsame : Buffer.reshaped .keyed r = r := by cases r <;> rfl
    rw [hsame]
    constructor
    · intro hkeyed
      exact .inl (h.unique hkeyed htaken nofun)
    · rintro (rfl | hsequence)
      · exact h
      · cases hsequence

theorem IsRow.exists_reshaped (tabular : Tabular columns rows)
    (h : IsRow shelf columns rows taken r) (htaken : taken ≠ .other) (hshape : shape ≠ .other) :
    ∃ shape' ≠ .other, IsRow shelf columns rows shape' (Buffer.reshaped shape r) := by
  cases shape with
  | other => exact absurd rfl hshape
  | sequence => exact ⟨.sequence, nofun, h.reshaped_sequence tabular⟩
  | keyed =>
    have hsame : Buffer.reshaped .keyed r = r := by cases r <;> rfl
    rw [hsame]
    exact ⟨taken, htaken, h⟩

end Rows

/-- The rows that a call hands out. -/
def rowsOf : Pull → Except Error Value → List Value
  | .all, .ok (.list rows) => rows
  | .next, .ok .null => []
  | .next, .ok row => [row]
  | _, _ => []

theorem IsRow.rowsOf_next {shelf : Shelf} {columns : List Value} {rows : List (List Value)}
    {shape : RowShape} {r : Value} (h : IsRow shelf columns rows shape r) :
    rowsOf .next (.ok r) = [r] := by
  obtain ⟨-, -, values, -, rfl⟩ := h
  cases shape <;> rfl

namespace InnerStatement

/-- The rows that the buffer has kept. -/
def kept (st : InnerStatement) : List Value := (st.buffer?.map (·.rows)).getD []

/-- The shapes in which the kept rows were taken, behind a call that takes rows in a shape. -/
def takenIn (shape : RowShape) (taken : List RowShape) (st : InnerStatement) : List RowShape :=
  taken ++ List.replicate (st.kept.length - taken.length) shape

/-- A call for all rows fits if all that are kept were taken in its shape. A call that is handed a
row again fits if this was taken in its shape, or if it asks for lists. -/
def Fits (taken : List RowShape) (st : InnerStatement) (o : Outcome InnerStatement Value) :
    Pull × RowShape → Prop
  | (.all, shape) => (∃ v, o.result = .ok v) → ∀ t ∈ taken, t = shape
  | (.next, shape) => ∀ inner buffer, st = .buffered inner buffer → buffer.isComplete = true →
    ∀ t, taken[buffer.index]? = some t → t = shape ∨ shape = .sequence

/-- Every call of a run fits, where rows have been taken in these shapes before. -/
def AllFit : List RowShape → List (Pull × RowShape) → InnerStatement → Environment → Prop
  | _, [], _, _ => True
  | taken, call :: rest, st, env =>
    let o := (answer (call.1.request call.2)).perform st env.nextStep
    Fits (takenIn call.2 taken o.state) st o call ∧
      AllFit (takenIn call.2 taken o.state) rest o.state o.environment

section Retains

variable {shelf : Shelf} {columns : List Value} {rows : List (List Value)} {taken : List RowShape}
  {shape : RowShape} {st : InnerStatement} {env : Environment}

/-- Each kept row has the values of a row of the cursor in the shape in which it was taken. -/
def AreKept (shelf : Shelf) (columns : List Value) (rows : List (List Value))
    (taken : List RowShape) (list : List Value) : Prop :=
  List.Forall₂ (fun t r => t ≠ .other ∧ IsRow shelf columns rows t r) taken list

theorem AreKept.exists_of_getElem? {list : List Value} (h : AreKept shelf columns rows taken list)
    {n : Nat} {r : Value} (hr : list[n]? = some r) :
    ∃ t, taken[n]? = some t ∧ t ≠ .other ∧ IsRow shelf columns rows t r := by
  induction h generalizing n with
  | nil => cases hr
  | @cons t r' _ _ first _ ih =>
    cases n with
    | zero =>
      cases hr
      exact ⟨t, rfl, first⟩
    | succ n => exact ih hr

theorem AreKept.concat {list : List Value} (h : AreKept shelf columns rows taken list) {r : Value}
    (hshape : shape ≠ .other) (hr : IsRow shelf columns rows shape r) :
    AreKept shelf columns rows (taken ++ List.replicate 1 shape) (list ++ [r]) :=
  List.rel_append h (.cons ⟨hshape, hr⟩ .nil)

/-- The buffer has kept rows that were taken in these shapes. -/
inductive Retains (shelf : Shelf) (columns : List Value) (rows : List (List Value))
    (taken : List RowShape) : InnerStatement → Environment → Prop where
  | taking {s : PlainStatement} {buffer : Buffer} {env : Environment}
      (reading : buffer.isComplete = false)
      (columns_eq : s.cursor.columns = columns)
      (alike : shelf.Alike env.shelf)
      (rest : ∀ row ∈ s.cursor.rows, row ∈ rows)
      (areKept : AreKept shelf columns rows taken buffer.rows) :
      Retains shelf columns rows taken (.buffered (.plain s) buffer) env
  | complete {s : PlainStatement} {buffer : Buffer} {env : Environment}
      (complete : buffer.isComplete = true)
      (areKept : AreKept shelf columns rows taken buffer.rows) :
      Retains shelf columns rows taken (.buffered (.plain s) buffer) env

theorem Retains.areKept_kept (h : Retains shelf columns rows taken st env) :
    AreKept shelf columns rows taken st.kept := by
  cases h with
  | taking _ _ _ _ areKept => exact areKept
  | complete _ areKept => exact areKept

theorem Retains.nextStep (h : Retains shelf columns rows taken st env) :
    Retains shelf columns rows taken st env.nextStep := by
  cases h with
  | taking reading columns_eq alike rest areKept =>
    exact .taking reading columns_eq alike rest areKept
  | complete complete areKept => exact .complete complete areKept

theorem Retains.with_none (h : Retains shelf columns rows taken st env) (shape : RowShape) :
    Retains shelf columns rows (taken ++ List.replicate 0 shape) st env := by
  rw [List.replicate_zero, List.append_nil]
  exact h

theorem Retains.takenIn_eq {n : Nat}
    (h : Retains shelf columns rows (taken ++ List.replicate n shape) st env) :
    takenIn shape taken st = taken ++ List.replicate n shape := by
  have hlength := List.Forall₂.length_eq h.areKept_kept
  rw [List.length_append, List.length_replicate] at hlength
  have hnew : st.kept.length - taken.length = n := by omega
  unfold takenIn
  rw [hnew]

/-- A buffer with all rows hands out one of them again. -/
theorem replay_retains {s : PlainStatement} {buffer : Buffer} (tabular : Tabular columns rows)
    (hshape : shape ≠ .other) (complete : buffer.isComplete = true)
    (areKept : AreKept shelf columns rows taken buffer.rows) :
    let o := fetchFrom shape (.buffered (.plain s) buffer) env
    Retains shelf columns rows taken o.state o.environment ∧
      (∀ r ∈ rowsOf .next o.result, ∃ t ≠ .other, IsRow shelf columns rows t r) ∧
      ((∀ r ∈ rowsOf .next o.result, IsRow shelf columns rows shape r) ↔
        Fits taken (.buffered (.plain s) buffer) o (.next, shape)) := by
  rw [fetchFrom_replay complete]
  refine ⟨.complete complete areKept, ?_⟩
  cases hrow : buffer.rows[buffer.index]? with
  | none =>
    have hnull : Buffer.reshaped shape .null = .null := by cases shape <;> rfl
    have htaken : taken[buffer.index]? = none := by
      rw [List.getElem?_eq_none_iff] at hrow ⊢
      rw [List.Forall₂.length_eq areKept]
      exact hrow
    rw [Option.getD_none, hnull]
    refine ⟨nofun, iff_of_true nofun ?_⟩
    rintro _ _ ⟨⟩ - t ht
    rw [htaken] at ht
    cases ht
  | some r =>
    obtain ⟨t, ht, hother, hr⟩ := areKept.exists_of_getElem? hrow
    obtain ⟨shape', hshape', hreshaped⟩ := hr.exists_reshaped tabular hother hshape
    rw [Option.getD_some, hreshaped.rowsOf_next, List.forall_mem_singleton,
      List.forall_mem_singleton, hr.reshaped_iff tabular hother hshape]
    refine ⟨⟨shape', hshape', hreshaped⟩, fun hfits => ?_, fun hfits => ?_⟩
    · rintro _ _ ⟨⟩ - t' ht'
      rw [ht] at ht'
      cases ht'
      exact hfits
    · exact hfits _ _ rfl complete t ht

/-- Nothing is handed out again while rows are being taken. -/
theorem fits_of_reading {inner : InnerStatement} {buffer : Buffer}
    (reading : buffer.isComplete = false) (o : Outcome InnerStatement Value) :
    Fits taken (.buffered inner buffer) o (.next, shape) := by
  rintro _ _ ⟨⟩ complete
  rw [reading] at complete
  cases complete

/-- A row that is taken is kept in the shape that is asked for, unless it cannot be read. -/
theorem take_retains {s : PlainStatement} {buffer : Buffer} {row : List Value}
    {others : List (List Value)} (tabular : Tabular s.cursor.columns rows)
    (hshape : shape ≠ .other) (reading : buffer.isComplete = false)
    (alike : shelf.Alike env.shelf) (rest : ∀ row ∈ s.cursor.rows, row ∈ rows)
    (areKept : AreKept shelf s.cursor.columns rows taken buffer.rows)
    (hrows : s.cursor.rows = row :: others)
    (htaken : s.cursor.takeRow =
      (.ok (some row), { s.cursor with rows := others, fetched := s.cursor.fetched + 1 })) :
    let o := fetchFrom shape (.buffered (.plain s) buffer) env
    ∃ n, Retains shelf s.cursor.columns rows (taken ++ List.replicate n shape) o.state
        o.environment ∧
      ∀ r ∈ rowsOf .next o.result, IsRow shelf s.cursor.columns rows shape r := by
  have hrow : row ∈ rows := rest row (hrows ▸ List.mem_cons_self)
  have hcursor : s.behindRow.cursor =
      { s.cursor with rows := others, fetched := s.cursor.fetched + 1 } := congrArg Prod.snd htaken
  have hcolumns : s.behindRow.cursor.columns = s.cursor.columns := by rw [hcursor]
  have hothers : ∀ row ∈ s.behindRow.cursor.rows, row ∈ rows := by
    rw [hcursor]
    exact fun row hmem => rest row (hrows ▸ List.mem_cons_of_mem _ hmem)
  have hkept : env.shelf.kept shape s.cursor.columns row =
      (shelf.values row).map (shape.rowOf s.cursor.columns) :=
    (alike.kept_eq shape _ row).symm.trans (tabular.kept_eq hrow shelf shape)
  have hrepeat := Value.repeatable_readLobs (shape.row s.cursor.columns row)
  have hshelf := alike.trans (hrepeat env.shelf env.shelf (Shelf.Alike.refl _)).2
  rw [fetchFrom_taken reading (congrArg Prod.fst htaken) (tabular.hasColumns hrow shape).truthy,
    hkept]
  cases hvalues : shelf.values row with
  | error e =>
    have hsame : AreKept shelf s.cursor.columns rows taken (buffer.rows ++ []) := by
      rw [List.append_nil]
      exact areKept
    exact ⟨0, Retains.with_none (.taking rfl hcolumns hshelf hothers hsame) shape, nofun⟩
  | ok values =>
    have hr : IsRow shelf s.cursor.columns rows shape (shape.rowOf s.cursor.columns values) :=
      ⟨row, hrow, values, hvalues, rfl⟩
    refine ⟨1, .taking rfl hcolumns hshelf hothers (areKept.concat hshape hr), ?_⟩
    show ∀ r ∈ rowsOf .next (.ok (shape.rowOf s.cursor.columns values)), _
    rw [hr.rowsOf_next, List.forall_mem_singleton]
    exact hr

theorem fetch_retains (tabular : Tabular columns rows) (hshape : shape ≠ .other)
    (h : Retains shelf columns rows taken st env) :
    let o := (fetch shape).perform st env
    ∃ n, Retains shelf columns rows (taken ++ List.replicate n shape) o.state o.environment ∧
      (∀ r ∈ rowsOf .next o.result, ∃ t ≠ .other, IsRow shelf columns rows t r) ∧
      ((∀ r ∈ rowsOf .next o.result, IsRow shelf columns rows shape r) ↔
        Fits (taken ++ List.replicate n shape) st o (.next, shape)) := by
  rw [fetch, Action.perform_ofFunction]
  cases h with
  | complete complete areKept =>
    refine ⟨0, ?_⟩
    rw [List.replicate_zero, List.append_nil]
    exact replay_retains tabular hshape complete areKept
  | @taking s buffer env reading columns_eq alike rest areKept =>
    obtain ⟨fault, htaken⟩ | ⟨-, htaken⟩ | ⟨row, others, hrows, htaken⟩ := s.cursor.takeRow_cases
    -- the cursor fails and hands out nothing
    · rw [fetchFrom_fault reading htaken]
      refine ⟨0, Retains.with_none ?_ shape, List.forall_mem_nil _,
        iff_of_true (List.forall_mem_nil _) (fits_of_reading reading _)⟩
      exact .taking reading columns_eq alike rest areKept
    -- every row has been taken
    · rw [fetchFrom_last reading htaken]
      refine ⟨0, Retains.with_none ?_ shape, List.forall_mem_nil _,
        iff_of_true (List.forall_mem_nil _) (fits_of_reading reading _)⟩
      exact .complete rfl areKept
    · subst columns_eq
      obtain ⟨n, hretains, hrow⟩ :=
        take_retains tabular hshape reading alike rest areKept hrows htaken
      exact ⟨n, hretains, fun r hr => ⟨shape, hshape, hrow r hr⟩,
        iff_of_true hrow (fits_of_reading reading _)⟩

/-! ### All rows -/

theorem drain_retains (tabular : Tabular columns rows) (hshape : shape ≠ .other) (bound : Nat)
    (h : Retains shelf columns rows taken st env) :
    let o := (drain shape bound).perform st env
    ∃ n, Retains shelf columns rows (taken ++ List.replicate n shape) o.state o.environment := by
  induction bound generalizing taken st env with
  | zero => exact ⟨0, h.with_none shape⟩
  | succ bound ih =>
    unfold drain
    rw [Action.perform_bind, Action.perform_state, Outcome.andThen_ok]
    cases hcomplete : st.isComplete with
    | true => exact ⟨0, h.with_none shape⟩
    | false =>
      obtain ⟨first, hfirst, -⟩ := fetch_retains tabular hshape h
      rw [if_neg Bool.false_ne_true, Action.perform_bind]
      cases hresult : ((fetch shape).perform st env).result with
      | error e =>
        rw [Outcome.andThen_of_error hresult]
        exact ⟨first, hfirst⟩
      | ok v =>
        rw [Outcome.andThen_of_ok hresult]
        obtain ⟨more, hmore⟩ := ih hfirst
        rw [List.append_assoc, List.replicate_append_replicate] at hmore
        exact ⟨_, hmore⟩

theorem forall_isRow_iff {list : List Value} (h : AreKept shelf columns rows taken list)
    (hshape : shape ≠ .other) :
    (∀ r ∈ list, IsRow shelf columns rows shape r) ↔ ∀ t ∈ taken, t = shape := by
  induction h with
  | nil => exact iff_of_true nofun nofun
  | @cons t r _ _ first _ ih =>
    rw [List.forall_mem_cons, List.forall_mem_cons, ih]
    refine and_congr_left fun _ => ⟨fun hr => first.2.unique hr first.1 hshape, ?_⟩
    rintro rfl
    exact first.2

theorem AreKept.exists_of_mem {list : List Value} (h : AreKept shelf columns rows taken list)
    {r : Value} (hr : r ∈ list) : ∃ t ≠ .other, IsRow shelf columns rows t r := by
  obtain ⟨n, hn⟩ := List.getElem?_of_mem hr
  obtain ⟨t, -, hother, hrow⟩ := h.exists_of_getElem? hn
  exact ⟨t, hother, hrow⟩

/-- A list of all rows has those that are kept, each in the shape in which it was taken. -/
theorem fetchAll_retains {inner : InnerStatement} {buffer : Buffer}
    (tabular : Tabular columns rows) (hshape : shape ≠ .other)
    (h : Retains shelf columns rows taken (.buffered inner buffer) env) :
    let o := (answer (.fetchAll shape)).perform (.buffered inner buffer) env
    Retains shelf columns rows (takenIn shape taken o.state) o.state o.environment ∧
      (∀ r ∈ rowsOf .all o.result, ∃ t ≠ .other, IsRow shelf columns rows t r) ∧
      ((∀ r ∈ rowsOf .all o.result, IsRow shelf columns rows shape r) ↔
        Fits (takenIn shape taken o.state) (.buffered inner buffer) o (.all, shape)) := by
  obtain ⟨n, hretains⟩ := drain_retains tabular hshape ((buffered inner buffer).remaining + 1) h
  rw [← hretains.takenIn_eq] at hretains
  rw [answer_fetchAll]
  cases hresult : ((drain shape ((buffered inner buffer).remaining + 1)).perform
      (.buffered inner buffer) env).result with
  | ok u =>
    rw [Outcome.andThen_of_ok hresult]
    have hkept := hretains.areKept_kept
    refine ⟨hretains, fun r => hkept.exists_of_mem, (forall_isRow_iff hkept hshape).trans ?_⟩
    exact ⟨fun hall _ => hall, fun hfits => hfits ⟨_, rfl⟩⟩
  | error e =>
    rw [Outcome.andThen_of_error hresult]
    refine ⟨hretains, List.forall_mem_nil _, iff_of_true (List.forall_mem_nil _) ?_⟩
    rintro ⟨v, hv⟩
    cases hv

/-- Every row that a call hands out is a list or a map with the values of a row of the cursor, and
they all have the shape that is asked for exactly when the call fits. -/
theorem answer_retains (tabular : Tabular columns rows) (pull : Pull) (hshape : shape ≠ .other)
    (h : Retains shelf columns rows taken st env) :
    let o := (answer (pull.request shape)).perform st env
    Retains shelf columns rows (takenIn shape taken o.state) o.state o.environment ∧
      (∀ r ∈ rowsOf pull o.result, ∃ t ≠ .other, IsRow shelf columns rows t r) ∧
      ((∀ r ∈ rowsOf pull o.result, IsRow shelf columns rows shape r) ↔
        Fits (takenIn shape taken o.state) st o (pull, shape)) := by
  cases pull with
  | next =>
    obtain ⟨n, hretains, hrows⟩ := fetch_retains tabular hshape h
    have htaken := hretains.takenIn_eq
    rw [← htaken] at hretains hrows
    exact ⟨hretains, hrows⟩
  | all =>
    obtain ⟨inner, buffer, rfl⟩ : ∃ inner buffer, st = .buffered inner buffer := by
      cases h with
      | taking => exact ⟨_, _, rfl⟩
      | complete => exact ⟨_, _, rfl⟩
    exact fetchAll_retains tabular hshape h

/-! ### Runs -/

theorem called_retains (tabular : Tabular columns rows) {calls : List (Pull × RowShape)}
    (hshapes : ∀ call ∈ calls, call.2 ≠ .other) (h : Retains shelf columns rows taken st env) :
    (∀ item ∈ calls.zip (called calls st env), ∀ r ∈ rowsOf item.1.1 item.2.result,
      ∃ t ≠ .other, IsRow shelf columns rows t r) ∧
    ((∀ item ∈ calls.zip (called calls st env), ∀ r ∈ rowsOf item.1.1 item.2.result,
      IsRow shelf columns rows item.1.2 r) ↔ AllFit taken calls st env) := by
  induction calls generalizing taken st env with
  | nil => exact ⟨nofun, iff_of_true nofun trivial⟩
  | cons call rest ih =>
    obtain ⟨hshape, hrest⟩ := List.forall_mem_cons.1 hshapes
    obtain ⟨hretains, hrows, hiff⟩ := answer_retains tabular call.1 hshape h.nextStep
    obtain ⟨hothers, hfit⟩ := ih hrest hretains
    exact ⟨List.forall_mem_cons.2 ⟨hrows, hothers⟩,
      List.forall_mem_cons.trans (and_congr hiff hfit)⟩

end Retains

/-- Calls that all ask for one shape fit. -/
theorem allFit_of_one_shape {shape : RowShape} {calls : List (Pull × RowShape)}
    (hcalls : ∀ call ∈ calls, call.2 = shape) {taken : List RowShape}
    (htaken : ∀ t ∈ taken, t = shape) (st : InnerStatement) (env : Environment) :
    AllFit taken calls st env := by
  induction calls generalizing taken st env with
  | nil => trivial
  | cons call rest ih =>
    obtain ⟨hcall, hrest⟩ := List.forall_mem_cons.1 hcalls
    obtain ⟨pull, asked⟩ := call
    obtain rfl : shape = asked := hcall.symm
    have hmore : ∀ st : InnerStatement, ∀ t ∈ takenIn shape taken st, t = shape := by
      intro st t ht
      rcases List.mem_append.1 ht with ht | ht
      · exact htaken t ht
      · exact List.eq_of_mem_replicate ht
    refine ⟨?_, ih hrest (hmore _) _ _⟩
    cases pull with
    | all => exact fun _ => hmore _
    | next => exact fun _ _ _ _ t ht => .inl (hmore _ t (List.mem_of_getElem? ht))

theorem retains_executed {parameters : Value} {s : PlainStatement} {buffer : Buffer}
    {env : Environment} {o : Outcome InnerStatement Unit}
    (executed : (execute parameters).perform (.buffered (.plain s) buffer) env = o) :
    Retains o.environment.shelf o.state.base.cursor.columns o.state.base.cursor.rows [] o.state
      o.environment := by
  obtain ⟨s', hstate⟩ := exists_executed executed
  rw [hstate]
  exact .taking rfl rfl (Shelf.Alike.refl _) (fun _ hrow => hrow) .nil

/-- Where all calls ask for one shape, all rows have it. -/
theorem rows_in_one_shape {parameters : Value} {s : PlainStatement} {buffer : Buffer}
    {env : Environment} {o : Outcome InnerStatement Unit} {shape : RowShape}
    {calls : List (Pull × RowShape)}
    (executed : (execute parameters).perform (.buffered (.plain s) buffer) env = o)
    (tabular : Tabular o.state.base.cursor.columns o.state.base.cursor.rows)
    (hshape : shape ≠ .other) (hcalls : ∀ call ∈ calls, call.2 = shape) :
    ∀ item ∈ calls.zip (called calls o.state o.environment),
      ∀ r ∈ rowsOf item.1.1 item.2.result, IsRow o.environment.shelf
        o.state.base.cursor.columns o.state.base.cursor.rows shape r := by
  have hshapes : ∀ call ∈ calls, call.2 ≠ .other := fun call hcall => hcalls call hcall ▸ hshape
  have hfit := allFit_of_one_shape hcalls (List.forall_mem_nil _) o.state o.environment
  obtain ⟨-, hiff⟩ := called_retains tabular hshapes (retains_executed executed)
  intro item hitem
  rw [← hcalls item.1 (List.of_mem_zip hitem).1]
  exact hiff.2 hfit item hitem

/-- Behind an execution, every row that is handed out is a list or a map keyed by the names of the
columns, with the values of a row of the cursor. All rows have the shapes in which they are asked
for exactly when every call fits the shapes in which the rows were taken. -/
theorem rows_in_shape_iff {parameters : Value} {s : PlainStatement} {buffer : Buffer}
    {env : Environment} {o : Outcome InnerStatement Unit} {calls : List (Pull × RowShape)}
    (executed : (execute parameters).perform (.buffered (.plain s) buffer) env = o)
    (tabular : Tabular o.state.base.cursor.columns o.state.base.cursor.rows)
    (hshapes : ∀ call ∈ calls, call.2 ≠ .other) :
    (∀ item ∈ calls.zip (called calls o.state o.environment),
      ∀ r ∈ rowsOf item.1.1 item.2.result, ∃ shape ≠ .other, IsRow o.environment.shelf
        o.state.base.cursor.columns o.state.base.cursor.rows shape r) ∧
    ((∀ item ∈ calls.zip (called calls o.state o.environment),
      ∀ r ∈ rowsOf item.1.1 item.2.result, IsRow o.environment.shelf
        o.state.base.cursor.columns o.state.base.cursor.rows item.1.2 r) ↔
      AllFit [] calls o.state o.environment) :=
  called_retains tabular hshapes (retains_executed executed)

/-- A reply of one row. -/
def oneRow : Environment where
  answering := .inTurn [{ columns := some [.text "ID"], rows := [[.int 1]] }]

def executedOneRow : Outcome InnerStatement Unit :=
  (execute .null).perform (.buffered (.plain { cursor := { number := 7 }, sql := "" }) {}) oneRow

theorem tabular_executedOneRow : Tabular executedOneRow.state.base.cursor.columns
    executedOneRow.state.base.cursor.rows where
  named := nofun
  texts := by
    intro name hname
    obtain rfl := List.mem_singleton.1 hname
    exact ⟨_, rfl⟩
  distinct := List.pairwise_singleton _ _
  width := by
    intro row hrow
    obtain rfl := List.mem_singleton.1 hrow
    rfl

/-- Maps are asked for, and a list once all rows have been taken. -/
def mapsThenList : List (Pull × RowShape) := [(.next, .keyed), (.all, .keyed), (.next, .sequence)]

theorem rows_in_shape_maps_then_list :
    (called mapsThenList executedOneRow.state executedOneRow.environment).map Outcome.result =
      [.ok (.map [(.text "ID", .int 1)]), .ok (.list [.map [(.text "ID", .int 1)]]),
        .ok (.list [.int 1])] ∧
    ∀ item ∈ mapsThenList.zip (called mapsThenList executedOneRow.state
        executedOneRow.environment),
      ∀ r ∈ rowsOf item.1.1 item.2.result,
        IsRow [] [.text "ID"] [[.int 1]] item.1.2 r := by
  have hshapes : ∀ call ∈ mapsThenList, call.2 ≠ .other := by decide
  have hfit : AllFit [] mapsThenList executedOneRow.state executedOneRow.environment := by
    refine ⟨fun _ _ _ _ t ht => .inl ?_, fun _ t ht => ?_, fun _ _ _ _ _ _ => .inr rfl, trivial⟩
    · exact List.mem_singleton.1 (List.mem_of_getElem? ht)
    · exact List.mem_singleton.1 ht
  exact ⟨rfl, (rows_in_shape_iff rfl tabular_executedOneRow hshapes).2.2 hfit⟩

/-- A list of all rows is asked for once they have been taken as maps. -/
theorem maps_handed_out_for_lists :
    (called [(.all, .keyed), (.all, .sequence)] executedOneRow.state
        executedOneRow.environment).map Outcome.result =
      [.ok (.list [.map [(.text "ID", .int 1)]]), .ok (.list [.map [(.text "ID", .int 1)]])] ∧
    ¬ IsRow [] [.text "ID"] [[.int 1]] .sequence (.map [(.text "ID", .int 1)]) := by
  refine ⟨rfl, ?_⟩
  rintro ⟨-, -, values, -, heq⟩
  cases heq

end InnerStatement

end OracleCatalog
