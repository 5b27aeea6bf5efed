import Mathlib.Data.List.Basic
import OracleCatalog.Proofs.Session.Runs
import OracleCatalog.Proofs.Success
import OracleCatalog.Row.Change

/-!
# Changes that fail

A change in place comes to the builder that the same row or part makes of it. All that can fail in
it comes before its only write, so that a builder stays what it was where a change fails.
-/

namespace OracleCatalog

variable {σ α : Type}

theorem Noted.records_bind_ofExcept {β : Type} (noted : Noted α) (next : α → Except Error β) :
    (noted >>= fun a => ofExcept (next a)).outcome.2 = noted.outcome.2 := by
  unfold outcome ExceptT.run StateT.run
  simp only [bind, ExceptT.bind, ExceptT.mk, StateT.bind]
  cases noted [] with
  | mk result records => cases result <;> rfl

/-- The answer of a computation, or another one where it fails. -/
def Noted.answerOr (noted : Noted α) (other : α) : α :=
  match noted.outcome.1 with
  | .ok a => a
  | .error _ => other

/-! ### Replacing a state -/

namespace Action

theorem perform_ofNoted_ofExcept (outcome : Except Error α) (s : σ) (env : Environment) :
    (ofNoted (Noted.ofExcept outcome) : Action σ α).perform s env =
      { result := outcome, state := s, environment := env } := by
  have hrecords : env.records ++ [] = env.records := List.append_nil _
  rw [perform_ofNoted]
  change Outcome.mk outcome s { env with records := env.records ++ [] } = _
  rw [hrecords]

/-- What the action does is to replace the state by what the computation makes of it, once all of
that has succeeded. -/
def Replaces (action : Action σ Unit) (make : σ → Noted σ) : Prop :=
  ∀ s env, action.perform s env =
    ((ofNoted (make s) : Action σ σ).perform s env).andThen fun next => change fun _ => next

section Replaces

variable {action : Action σ Unit} {make : σ → Noted σ} {next : α → Action σ Unit} {s : σ}
  {env : Environment}

theorem Replaces.result_eq (h : action.Replaces make) (s : σ) (env : Environment) :
    (action.perform s env).result = (make s).outcome.1.map fun _ => () := by
  rw [h s env, perform_ofNoted]
  cases (make s).outcome.1 <;> rfl

theorem Replaces.state_eq (h : action.Replaces make) (s : σ) (env : Environment) :
    (action.perform s env).state = (make s).answerOr s := by
  unfold Noted.answerOr
  rw [h s env, perform_ofNoted]
  cases (make s).outcome.1 <;> rfl

theorem Replaces.state_of_error (h : action.Replaces make) {e : Error}
    (failed : (action.perform s env).result = .error e) : (action.perform s env).state = s := by
  rw [h.result_eq] at failed
  rw [h.state_eq]
  unfold Noted.answerOr
  cases hmade : (make s).outcome.1 with
  | error _ => rfl
  | ok after =>
    rw [hmade] at failed
    cases failed

theorem replaces_pure : (pure () : Action σ Unit).Replaces fun s => pure s := by
  intro s env
  have hmade : (ofNoted (pure s : Noted σ) : Action σ σ).perform s env =
      { result := .ok s, state := s, environment := env } :=
    perform_ofNoted_ofExcept (.ok s) s env
  rw [hmade]
  rfl

theorem replaces_change (f : σ → σ) : (change f).Replaces fun s => Noted.ofExcept (.ok (f s)) := by
  intro s env
  rw [perform_ofNoted_ofExcept]
  rfl

/-- Behind an outcome that the state has no part in, the action goes on replacing. -/
theorem replaces_ofExcept_bind {outcome : Except Error α} {make : α → σ → Noted σ}
    (h : ∀ a, (next a).Replaces (make a)) :
    (ofExcept outcome >>= next).Replaces fun s => Noted.ofExcept outcome >>= fun a => make a s := by
  intro s env
  cases outcome with
  | ok a => exact h a s env
  | error e =>
    have hmade : (ofNoted (throw e : Noted σ) : Action σ σ).perform s env =
        { result := .error e, state := s, environment := env } :=
      perform_ofNoted_ofExcept (.error e) s env
    exact (congrArg (Outcome.andThen · fun next => change fun _ => next) hmade).symm

theorem replaces_ofExcept_bind_ofExcept {outcome : Except Error α}
    {make : α → σ → Except Error σ}
    (h : ∀ a, (next a).Replaces fun s => Noted.ofExcept (make a s)) :
    (ofExcept outcome >>= next).Replaces fun s =>
      Noted.ofExcept (outcome >>= fun a => make a s) := by
  have hbind : (ofExcept outcome >>= next).Replaces fun s =>
      Noted.ofExcept outcome >>= fun a => Noted.ofExcept (make a s) := replaces_ofExcept_bind h
  intro s env
  cases outcome <;> exact hbind s env

/-- Behind records the action goes on replacing, if it writes none itself. -/
theorem replaces_ofNoted_bind {noted : Noted α} {make : α → σ → Except Error σ}
    (h : ∀ a, (next a).Replaces fun s => Noted.ofExcept (make a s)) :
    (ofNoted noted >>= next).Replaces fun s =>
      noted >>= fun a => Noted.ofExcept (make a s) := by
  intro s env
  rw [perform_bind, perform_ofNoted, perform_ofNoted, Noted.result_bind_ofExcept,
    Noted.records_bind_ofExcept]
  cases noted.outcome.1 with
  | error e => rfl
  | ok a => rw [Outcome.andThen_ok, h a, perform_ofNoted_ofExcept]; rfl

/-- Behind replacements one after the other, whether they succeed or not, the state is what those
that succeed have made of it. -/
theorem ending_of_replaces {ι : Type} {act : ι → Action σ Unit} {make : ι → σ → Noted σ}
    (h : ∀ item, (act item).Replaces (make item)) (items : List ι) (s : σ) (env : Environment) :
    (ending (items.map act) s env).1 =
      items.foldl (fun s item => (make item s).answerOr s) s := by
  induction items generalizing s env with
  | nil => rfl
  | cons item rest ih =>
    rw [List.map_cons, ending, ih, List.foldl_cons, (h item).state_eq]

end Replaces

end Action

/-! ### Tables -/

namespace TableBuilder

variable (folding : CaseFolding)

theorem storeColumn_replaces (column : Column) :
    (storeColumn column).Replaces fun builder => Noted.ofExcept (builder.addColumn column) := by
  intro builder env
  rw [Action.perform_ofNoted_ofExcept]
  unfold storeColumn addColumn
  cases column.name.asKey <;> rfl

theorem storeConstraint_replaces (name : Value) (constraint : Constraint) :
    (storeConstraint name constraint).Replaces fun builder =>
      Noted.ofExcept (builder.addConstraint name constraint) := by
  intro builder env
  rw [Action.perform_ofNoted_ofExcept]
  unfold storeConstraint addConstraint
  cases name.asKey <;> rfl

theorem storeIndex_replaces (name : Value) (columns : List Value) :
    (storeIndex name columns).Replaces fun builder =>
      Noted.ofExcept (builder.addIndex name columns) := by
  intro builder env
  rw [Action.perform_ofNoted_ofExcept]
  unfold storeIndex addIndex
  cases name.asKey <;> rfl

theorem storeColumnRow_replaces (row : Row) :
    (storeColumnRow folding row).Replaces fun builder => builder.addColumnRow folding row := by
  refine Action.replaces_ofExcept_bind fun type => Action.replaces_ofExcept_bind fun name =>
    Action.replaces_ofNoted_bind fun _ => ?_
  refine Action.replaces_ofExcept_bind_ofExcept fun position =>
    Action.replaces_ofExcept_bind_ofExcept fun folded => ?_
  exact storeColumn_replaces _

theorem storeIndexRow_replaces (row : Row) :
    (storeIndexRow folding row).Replaces fun builder =>
      Noted.ofExcept (builder.addIndexRow folding row) := by
  refine Action.replaces_ofExcept_bind_ofExcept fun part => ?_
  unfold addIndexPart
  cases part.kind with
  | primary => exact storeConstraint_replaces _ _
  | unique => exact storeConstraint_replaces _ _
  | foreign => exact storeIndex_replaces _ _
  | index => exact storeIndex_replaces _ _

theorem storeForeignKeyRow_replaces (row : Row) :
    (storeForeignKeyRow folding row).Replaces fun builder =>
      Noted.ofExcept (builder.addForeignKeyRow folding row) :=
  Action.replaces_ofExcept_bind_ofExcept fun _ => storeConstraint_replaces _ _

/-- What a change makes of a builder. -/
def Change.made (builder : TableBuilder) : Change → Noted TableBuilder
  | .columnRow entries => builder.addRow folding (.column (Row.ofEntries entries))
  | .indexRow entries => builder.addRow folding (.index (Row.ofEntries entries))
  | .foreignKeyRow entries => builder.addRow folding (.foreignKey (Row.ofEntries entries))
  | .column name attributes =>
    Noted.ofExcept do builder.addColumn (← Column.ofFields name attributes)
  | .constraint name stored => Noted.ofExcept (builder.addConstraint name stored)
  | .index name columns => Noted.ofExcept (builder.addIndex name columns)

theorem Change.make_replaces (change : Change) :
    (change.make folding).Replaces fun builder => change.made folding builder := by
  cases change with
  | columnRow entries => exact storeColumnRow_replaces folding _
  | indexRow entries => exact storeIndexRow_replaces folding _
  | foreignKeyRow entries => exact storeForeignKeyRow_replaces folding _
  | column name attributes =>
    exact Action.replaces_ofExcept_bind_ofExcept fun column => storeColumn_replaces column
  | constraint name stored => exact storeConstraint_replaces name stored
  | index name columns => exact storeIndex_replaces name columns

/-- Changes one after the other come to those of them that succeed. -/
theorem Change.ending_make (changes : List Change) (builder : TableBuilder) (env : Environment) :
    (Action.ending (changes.map (Change.make folding)) builder env).1 =
      changes.foldl (fun builder change => (change.made folding builder).answerOr builder)
        builder :=
  Action.ending_of_replaces (Change.make_replaces folding) changes builder env

end TableBuilder

/-! ### Routines -/

namespace RoutineBuilder

theorem storeParameter_replaces (parameter : Parameter) :
    (storeParameter parameter).Replaces fun builder =>
      Noted.ofExcept (builder.addParameter parameter) :=
  Action.replaces_ofExcept_bind_ofExcept fun _ =>
    Action.replaces_ofExcept_bind_ofExcept fun _ => Action.replaces_change _

theorem storeParameterRow_replaces (row : Row) :
    (storeParameterRow row).Replaces fun builder => builder.addParameterRow row := by
  unfold storeParameterRow addParameterRow
  dsimp only
  cases (row.fieldOrNull "type").isNull with
  | true => exact Action.replaces_pure
  | false =>
    refine Action.replaces_ofExcept_bind fun type => Action.replaces_ofNoted_bind fun _ => ?_
    refine Action.replaces_ofExcept_bind_ofExcept fun direction =>
      Action.replaces_ofExcept_bind_ofExcept fun position => ?_
    exact storeParameter_replaces _

/-- What a change makes of a builder. -/
def Change.made (builder : RoutineBuilder) : Change → Noted RoutineBuilder
  | .row entries => builder.addParameterRow (Row.ofEntries entries)
  | .parameter name attributes =>
    Noted.ofExcept do builder.addParameter (← Parameter.ofFields name attributes)

theorem Change.make_replaces (change : Change) :
    change.make.Replaces fun builder => change.made builder := by
  cases change with
  | row entries => exact storeParameterRow_replaces _
  | parameter name attributes =>
    exact Action.replaces_ofExcept_bind_ofExcept fun parameter => storeParameter_replaces parameter

/-- Changes one after the other come to those of them that succeed. -/
theorem Change.ending_make (changes : List Change) (builder : RoutineBuilder) (env : Environment) :
    (Action.ending (changes.map Change.make) builder env).1 =
      changes.foldl (fun builder change => (change.made builder).answerOr builder) builder :=
  Action.ending_of_replaces Change.make_replaces changes builder env

end RoutineBuilder

/-! ### Failures -/

/-- A change that fails leaves the builder as it was. -/
theorem failed_change_leaves_builder :
    (∀ (folding : CaseFolding) (change : TableBuilder.Change) builder env e,
      ((change.make folding).perform builder env).result = .error e →
        ((change.make folding).perform builder env).state = builder) ∧
    (∀ (change : RoutineBuilder.Change) builder env e,
      (change.make.perform builder env).result = .error e →
        (change.make.perform builder env).state = builder) :=
  ⟨fun folding change _ _ _ => (change.make_replaces folding).state_of_error,
    fun change _ _ _ => change.make_replaces.state_of_error⟩

/-- A row of an index whose flag is no number, which comes out behind its names. -/
def unreadableIndexRow : Entries := [(.text "NAME", .text "EMP_IX"),
  (.text "COLUMN_NAME", .text "DEPT_ID"), (.text "IS_UNIQUE", .list [])]

theorem ofEntries_unreadableIndexRow : Row.ofEntries unreadableIndexRow =
    [("name", .text "EMP_IX"), ("column_name", .text "DEPT_ID"), ("is_unique", .list [])] := by
  have hname : Text.lower "NAME" = "name" := by decide +kernel
  have hcolumn : Text.lower "COLUMN_NAME" = "column_name" := by decide +kernel
  have hunique : Text.lower "IS_UNIQUE" = "is_unique" := by decide +kernel
  simp [Row.ofEntries, unreadableIndexRow, hname, hcolumn, hunique, OrderedMap.ofEntries,
    OrderedMap.update, OrderedMap.put]

theorem failed_changes_leave_index_and_parameters :
    let index : Index := { name := .text "EMP_IX", columns := [.text "ID"] }
    let table : TableBuilder := { name := .text "EMP", indexes := [(index.name, index)] }
    let routine : RoutineBuilder := { name := .text "PAY" }
    (((TableBuilder.Change.indexRow unreadableIndexRow).make .asIs).perform table {}).state =
        table ∧
      ((RoutineBuilder.Change.parameter (.text resultName)
        [(.text "type", .text "decimal")]).make.perform routine {}).state = routine := by
  intro index table routine
  have hrow : (((TableBuilder.Change.indexRow unreadableIndexRow).make .asIs).perform
      table {}).result = .error (.wrongKind
        "int() argument must be a string, a bytes-like object or a real number, not 'list'") := by
    rw [(TableBuilder.Change.make_replaces _ _).result_eq]
    simp only [TableBuilder.Change.made]
    rw [ofEntries_unreadableIndexRow]
    rfl
  have hattributes : Parameter.ofFields (.text resultName) [(.text "type", .text "decimal")] =
      .ok { name := .text resultName, type := .decimal } := by cbv
  have hparameter : ((RoutineBuilder.Change.parameter (.text resultName)
      [(.text "type", .text "decimal")]).make.perform routine {}).result =
        .error (.refused .resultDirection) := by
    rw [(RoutineBuilder.Change.make_replaces _).result_eq]
    simp only [RoutineBuilder.Change.made]
    rw [hattributes]
    rfl
  exact ⟨failed_change_leaves_builder.1 _ _ _ _ _ hrow,
    failed_change_leaves_builder.2 _ _ _ _ hparameter⟩

end OracleCatalog
