import OracleCatalog.Proofs.Name
import OracleCatalog.Proofs.Success
import OracleCatalog.Proofs.Text.Segments
import OracleCatalog.Select

/-!
# Select statements and their clauses

A select statement is the trimmed sequence of the templates of its clauses, each with its body in
it; in which order the bodies are given, and what else is given with them, plays no part. The
clauses that skip and limit rows are the same whether they stand in a statement or alone.
-/

namespace OracleCatalog

open OracleCatalog.Text

/-! ### Templates -/

namespace Text

theorem replaceFrom_skip (old new : List Char) (skip : Nat) (cs : List Char) :
    replaceFrom old new skip cs = replaceFrom old new 0 (cs.drop skip) := by
  induction cs generalizing skip with
  | nil => simp [replaceFrom]
  | cons c cs ih =>
    cases skip with
    | zero => rfl
    | succ skip => rw [List.drop_succ_cons, ← ih, replaceFrom]

/-- Up to where the replaced part can start, nothing is replaced. -/
theorem replaceFrom_front {c : Char} {front : List Char} (h : c ∉ front) (old new cs : List Char) :
    replaceFrom (c :: old) new 0 (front ++ cs) = front ++ replaceFrom (c :: old) new 0 cs := by
  induction front with
  | nil => rfl
  | cons d front ih =>
    obtain ⟨hd, hfront⟩ := not_or.1 fun hmem => h (List.mem_cons.2 hmem)
    have hprefix : (c :: old).isPrefixOf (d :: (front ++ cs)) = false := by
      simp [List.isPrefixOf, hd]
    rw [List.cons_append, replaceFrom, hprefix, ih hfront]
    rfl

/-- A part that can start at one place only is replaced there. -/
theorem replace_once {c : Char} {front back : String} (hfront : c ∉ front.toList)
    (hback : c ∉ back.toList) {old : String} {rest : List Char} (hold : old.toList = c :: rest)
    (new : String) : replace old new (front ++ old ++ back) = front ++ new ++ back := by
  have hrest : replaceFrom (c :: rest) new.toList 0 back.toList = back.toList := by
    have hall := replaceFrom_front hback rest new.toList []
    rwa [List.append_nil, replaceFrom, List.append_nil] at hall
  have hprefix : (c :: rest).isPrefixOf (c :: rest ++ back.toList) = true := by
    rw [List.isPrefixOf_iff_prefix]
    exact List.prefix_append _ _
  apply String.toList_inj.1
  unfold replace
  rw [String.toList_ofList, String.toList_append, String.toList_append, hold, List.append_assoc,
    replaceFrom_front hfront, List.cons_append, replaceFrom, ← List.cons_append, hprefix,
    if_pos rfl, replaceFrom_skip]
  simp [hrest]

theorem toList_join_empty (texts : List String) :
    (join "" texts).toList = texts.flatMap String.toList := by
  induction texts with
  | nil => rfl
  | cons text texts ih =>
    cases texts with
    | nil => simp [toList_join_singleton]
    | cons next texts => rw [toList_join_cons, ih]; rfl

end Text

/-- Writing a body into the template of a clause puts it between what frames the clause. -/
theorem Clause.replace_template (clause : Clause) (body : String) :
    replace "%s" body clause.template = clause.around body := by
  have hfront : '%' ∉ clause.frame.1.toList := by cases clause <;> decide
  have hback : '%' ∉ clause.frame.2.toList := by cases clause <;> decide
  have hmark : "%s".toList = '%' :: ['s'] := rfl
  exact replace_once hfront hback hmark body

/-! ### Entries under texts -/

section Entries

variable {α : Type} {map : OrderedMap Value α} {s : String} {a : α}

theorem Value.mem_of_get?_text (h : OrderedMap.get? (.text s) map = some a) :
    (.text s, a) ∈ map := by
  induction map with
  | nil => cases h
  | cons entry rest ih =>
    obtain ⟨key, value⟩ := entry
    unfold OrderedMap.get? at h
    cases hkey : Value.text s == key with
    | true =>
      obtain rfl := Value.eq_of_text_beq hkey
      simp only [hkey, if_true, Option.some.injEq] at h
      exact h ▸ List.mem_cons_self
    | false =>
      simp only [hkey, Bool.false_eq_true, if_false] at h
      exact List.mem_cons_of_mem _ (ih h)

theorem Value.exists_get?_text (h : (.text s, a) ∈ map) :
    ∃ b, OrderedMap.get? (.text s) map = some b := by
  induction map with
  | nil => cases h
  | cons entry rest ih =>
    obtain ⟨key, value⟩ := entry
    unfold OrderedMap.get?
    cases hkey : Value.text s == key with
    | true => exact ⟨value, rfl⟩
    | false =>
      obtain hhead | hrest := List.mem_cons.1 h
      · cases hhead
        simp at hkey
      · exact ih hrest

end Entries

namespace Select

/-! ### Bodies -/

/-- What may be given as the body of a clause. -/
inductive Body where
  | absent
  | text (s : String)
  | number (i : Int)

namespace Body

def toValue : Body → Value
  | .absent => .null
  | .text s => .text s
  | .number i => .int i

/-- Whether the body can be written, which a number of too many digits cannot. -/
def isWritable : Body → Bool
  | .number i => i.natAbs < Nat.pow 10 digitLimit
  | _ => true

/-- The template with the body in it; nothing where the body is absent or empty. -/
def fill (template : String) : Body → String
  | .absent => ""
  | .text s => if s = "" then "" else replace "%s" s template
  | .number i => replace "%s" (intText i) template

def ofNumber? : Option Int → Body
  | some i => .number i
  | none => .absent

end Body

/-- The entries give the bodies of the clauses: nothing else stands under the name of a clause,
and a body that is not absent stands there. -/
structure Gives (entries : Entries) (bodies : Clause → Body) (clauses : List Clause) : Prop where
  only : ∀ clause ∈ clauses, ∀ v, (.text clause.name, v) ∈ entries → v = (bodies clause).toValue
  every : ∀ clause ∈ clauses, bodies clause ≠ .absent →
    (.text clause.name, (bodies clause).toValue) ∈ entries

/-- The select statement of the bodies. -/
def statement (clauses : List Clause) (bodies : Clause → Body) : String :=
  trim (join "" (clauses.map fun clause => (bodies clause).fill clause.template))

variable {entries : Entries} {bodies : Clause → Body} {clauses : List Clause} {clause : Clause}

theorem Gives.bodyOf (gives : Gives entries bodies clauses) (hmem : clause ∈ clauses) :
    bodyOf entries clause = (bodies clause).toValue := by
  unfold Select.bodyOf Value.fieldOrNull
  cases hget : OrderedMap.get? (Value.text clause.name) entries with
  | some v => exact gives.only clause hmem v (Value.mem_of_get?_text hget)
  | none =>
    by_cases habsent : bodies clause = .absent
    · rw [habsent]
      rfl
    · obtain ⟨v, hv⟩ := Value.exists_get?_text (gives.every clause hmem habsent)
      cases hget.symm.trans hv

/-! ### Statements -/

theorem writeInteger_eq (i : Int) :
    Value.writeInteger i =
      if (Body.number i).isWritable then .ok (intText i)
      else .error (.refused .integerTooLong) := by
  have hwritable : (Body.number i).isWritable = decide (i.natAbs < Nat.pow 10 digitLimit) := rfl
  unfold Value.writeInteger
  by_cases hlong : Nat.pow 10 digitLimit ≤ i.natAbs
  · rw [hwritable, decide_eq_false (Nat.not_lt.2 hlong), if_pos hlong, if_neg Bool.false_ne_true]
  · rw [hwritable, decide_eq_true (Nat.not_le.1 hlong), if_neg hlong, if_pos rfl]

theorem writeText_int (i : Int) : (Value.int i).writeText = Value.writeInteger i := by
  unfold Value.writeText
  rw [writeInteger_eq, Value.writable]
  rfl

/-- A number fills the template of its clause, unless it cannot be written. -/
theorem map_around_writeInteger (clause : Clause) (i : Int) :
    (Value.writeInteger i).map clause.around =
      if (Body.number i).isWritable then .ok ((Body.number i).fill clause.template)
      else .error (.refused .integerTooLong) := by
  rw [writeInteger_eq, Body.fill, clause.replace_template]
  split <;> rfl

theorem Gives.part (gives : Gives entries bodies clauses) (hmem : clause ∈ clauses) :
    part entries clause =
      if (bodies clause).isWritable then .ok ((bodies clause).fill clause.template)
      else .error (.refused .integerTooLong) := by
  unfold Select.part
  rw [gives.bodyOf hmem]
  cases bodies clause with
  | absent => rfl
  | text s =>
    by_cases hempty : s = ""
    · subst hempty
      rfl
    · have hpresent : (Value.text s).isMissing = false := by
        simpa [Value.isMissing, Value.isNull, Value.isText] using hempty
      simp only [Body.toValue, hpresent, Body.isWritable, Body.fill, if_neg hempty,
        clause.replace_template]
      rfl
  | number i =>
    rw [← map_around_writeInteger, ← writeText_int]
    rfl

/-- The clauses of a statement come one after the other, whatever is noted about those that the
engine does not have. -/
theorem outcome_compile (dialect : Dialect) (entries : Entries) :
    (compile dialect entries).outcome.1 =
      ((Clause.ofEngine dialect.engine.paginates).mapM (part entries)).map
        fun parts => trim (join "" parts) := by
  unfold compile
  dsimp only
  cases (Clause.ofEngine dialect.engine.paginates).mapM (part entries) with
  | error e => rfl
  | ok parts =>
    simp only [Noted.ok_bind]
    cases (dropped dialect.engine.paginates entries).isEmpty <;> rfl

theorem compile_of_gives {dialect : Dialect}
    (gives : Gives entries bodies (Clause.ofEngine dialect.engine.paginates)) :
    (compile dialect entries).outcome.1 =
      if (Clause.ofEngine dialect.engine.paginates).all fun clause => (bodies clause).isWritable then
        .ok (statement (Clause.ofEngine dialect.engine.paginates) bodies)
      else .error (.refused .integerTooLong) := by
  rw [outcome_compile]
  generalize Clause.ofEngine dialect.engine.paginates = clauses at gives ⊢
  cases hall : clauses.all fun clause => (bodies clause).isWritable with
  | true =>
    have hparts : clauses.mapM (part entries) =
        .ok (clauses.map fun clause => (bodies clause).fill clause.template) := by
      refine Error.mapM_eq_map fun clause hmem => ?_
      rw [gives.part hmem, if_pos (List.all_eq_true.1 hall clause hmem)]
    rw [hparts]
    rfl
  | false =>
    obtain ⟨clause, hmem, hlong⟩ := List.all_eq_false.1 hall
    have hrefused : part entries clause = .error (.refused .integerTooLong) := by
      rw [gives.part hmem, if_neg hlong]
    obtain ⟨other, hother, e, herror, hmap⟩ := Error.error_of_mapM hmem hrefused
    rw [gives.part hother] at herror
    rw [hmap]
    split at herror
    · cases herror
    · cases herror
      rfl

/-! ### Paging -/

/-- The bodies of a statement that skips and limits rows and does nothing else. -/
def pagingBodies (limit offset : Option Int) : Clause → Body
  | .limit => .ofNumber? limit
  | .offset => .ofNumber? offset
  | _ => .absent

theorem pagingPart_ofInt? (clause : Clause) (number : Option Int) :
    pagingPart clause (Value.ofInt? number) =
      if (Body.ofNumber? number).isWritable then
        .ok ((Body.ofNumber? number).fill clause.template)
      else .error (.refused .integerTooLong) := by
  cases number with
  | none => rfl
  | some i =>
    have hwhole : (Value.int i).wholeText = Value.writeInteger i := by
      simp only [Value.wholeText, Value.whole, Except.bind]
    unfold pagingPart
    simp only [Value.ofInt?, Value.isNull, Bool.false_eq_true, if_false, hwhole]
    exact map_around_writeInteger clause i

theorem pagination_of_paginates {dialect : Dialect} (paginates : dialect.engine.paginates = true)
    (limit offset : Option Int) :
    pagination dialect (Value.ofInt? limit) (Value.ofInt? offset) =
      if (Body.ofNumber? offset).isWritable && (Body.ofNumber? limit).isWritable then
        .ok (join " " (words ((Body.ofNumber? offset).fill Clause.offset.template ++
          (Body.ofNumber? limit).fill Clause.limit.template)))
      else .error (.refused .integerTooLong) := by
  unfold pagination
  rw [paginates, pagingPart_ofInt?, pagingPart_ofInt?]
  cases (Body.ofNumber? offset).isWritable with
  | false => rfl
  | true => cases (Body.ofNumber? limit).isWritable <;> rfl

/-- Without other clauses, those that skip and limit rows make up the statement. -/
theorem statement_pagingBodies (limit offset : Option Int) :
    statement (Clause.ofEngine true) (pagingBodies limit offset) =
      trim ((Body.ofNumber? offset).fill Clause.offset.template ++
        (Body.ofNumber? limit).fill Clause.limit.template) := by
  have hjoin : join "" ((Clause.ofEngine true).map fun clause =>
      (pagingBodies limit offset clause).fill clause.template) =
      (Body.ofNumber? offset).fill Clause.offset.template ++
        (Body.ofNumber? limit).fill Clause.limit.template := by
    apply String.toList_inj.1
    rw [toList_join_empty, String.toList_append]
    simp [Clause.ofEngine, Clause.leading, Clause.paging, Clause.trailing, pagingBodies, Body.fill]
  unfold statement
  rw [hjoin]

theorem statement_pagingBodies_of_not (limit offset : Option Int) :
    statement (Clause.ofEngine false) (pagingBodies limit offset) = "" := by
  have hjoin : join "" ((Clause.ofEngine false).map fun clause =>
      (pagingBodies limit offset clause).fill clause.template) = "" := by
    apply String.toList_inj.1
    rw [toList_join_empty]
    simp [Clause.ofEngine, Clause.leading, Clause.trailing, pagingBodies, Body.fill]
  unfold statement
  rw [hjoin]
  rfl

theorem all_pagingBodies (limit offset : Option Int) :
    ((Clause.ofEngine true).all fun clause => (pagingBodies limit offset clause).isWritable) =
      ((Body.ofNumber? offset).isWritable && (Body.ofNumber? limit).isWritable) := by
  simp [Clause.ofEngine, Clause.leading, Clause.paging, Clause.trailing, pagingBodies,
    Body.isWritable]

theorem all_pagingBodies_of_not (limit offset : Option Int) :
    ((Clause.ofEngine false).all fun clause => (pagingBodies limit offset clause).isWritable) =
      true := by
  simp [Clause.ofEngine, Clause.leading, Clause.trailing, pagingBodies, Body.isWritable]

theorem pagination_of_not {dialect : Dialect} (paginates : dialect.engine.paginates = false)
    (limit offset : Value) : pagination dialect limit offset = .ok "" := by
  unfold pagination
  rw [paginates]
  rfl

theorem compile_pagingBodies_of_not {dialect : Dialect}
    (paginates : dialect.engine.paginates = false) {limit offset : Option Int}
    (gives : Gives entries (pagingBodies limit offset)
      (Clause.ofEngine dialect.engine.paginates)) :
    (compile dialect entries).outcome.1 = .ok "" := by
  rw [compile_of_gives gives, paginates, all_pagingBodies_of_not, statement_pagingBodies_of_not,
    if_pos rfl]

/-- The clauses that skip and limit rows have the same words in a statement and alone. -/
theorem words_compile_eq {dialect : Dialect} {limit offset : Option Int}
    (gives : Gives entries (pagingBodies limit offset)
      (Clause.ofEngine dialect.engine.paginates)) :
    (compile dialect entries).outcome.1.map words =
      (pagination dialect (Value.ofInt? limit) (Value.ofInt? offset)).map words := by
  cases paginates : dialect.engine.paginates with
  | true =>
    rw [compile_of_gives gives, pagination_of_paginates paginates, paginates, all_pagingBodies,
      statement_pagingBodies]
    split
    · simp only [Except.map, words_trim, words_join_words]
    · rfl
  | false => rw [compile_pagingBodies_of_not paginates gives, pagination_of_not paginates]

/-- A page of a table, given in no order and beside something unknown. -/
def employeeEntries : Entries := [(.text "limit", .int 10), (.text "note", .list []),
  (.text "from", .text "EMP"), (.text "where", .null), (.text "select", .text "*"),
  (.text "order", .text "")]

def employeeBodies : Clause → Body
  | .limit => .number 10
  | .from => .text "EMP"
  | .select => .text "*"
  | .order => .text ""
  | _ => .absent

theorem employeeEntries_gives (clauses : List Clause) :
    Gives employeeEntries employeeBodies clauses := by
  refine ⟨fun clause _ v hmem => ?_, fun clause _ hgiven => ?_⟩
  · cases clause <;> simp_all [employeeEntries, Clause.name, employeeBodies, Body.toValue]
  · cases clause <;> simp_all [employeeEntries, Clause.name, employeeBodies, Body.toValue]

theorem limitEntries_gives (clauses : List Clause) :
    Gives [(.text "limit", .int 10)] (pagingBodies (some 10) none) clauses := by
  refine ⟨fun clause _ v hmem => ?_, fun clause _ hgiven => ?_⟩
  · cases clause <;> simp_all [Clause.name, pagingBodies, Body.ofNumber?, Body.toValue]
  · cases clause <;> simp_all [Clause.name, pagingBodies, Body.ofNumber?, Body.toValue]

end Select

end OracleCatalog
