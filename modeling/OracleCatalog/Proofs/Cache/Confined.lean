import OracleCatalog.Proofs.Cache.Faithful
import OracleCatalog.Proofs.Cache.Paths

/-!
# Caches that stay in their directory

An action is confined to a directory if it changes nothing else and if what it answers and makes of
the directory depends on nothing else. Actions that are put together from confined ones are confined
as well, and so are runs of them.

A cache of files is confined to its directory, and there every key has one file. Clearing takes away
each file that a key can have, and no other one: after it no key has a value. Only where the file of
a key cannot have its name, reading fails instead of finding nothing.
-/

namespace OracleCatalog

/-! ### Everything else -/

namespace Environment

/-- The environment without its directories and what has been noted of the last step. -/
def withoutFiles (env : Environment) : Environment :=
  { env with directories := [], events := [], records := [] }

/-- Two environments that differ at most in one directory and in what has been noted. -/
structure SameElsewhere (path : String) (env env' : Environment) : Prop where
  directories : ∀ other, other ≠ path → env'.directory? other = env.directory? other
  rest : env'.withoutFiles = env.withoutFiles

variable {path : String} {env env' env'' : Environment}

theorem SameElsewhere.refl (path : String) (env : Environment) : SameElsewhere path env env :=
  ⟨fun _ _ => rfl, rfl⟩

theorem SameElsewhere.trans (h : SameElsewhere path env env')
    (h' : SameElsewhere path env' env'') : SameElsewhere path env env'' :=
  ⟨fun other hother => (h'.directories other hother).trans (h.directories other hother),
    h'.rest.trans h.rest⟩

theorem sameElsewhere_withDirectory (path : String) (directory : Directory) (env : Environment) :
    SameElsewhere path env (env.withDirectory path directory) :=
  ⟨fun _ hother => OrderedMap.get?_put_of_ne hother directory env.directories, rfl⟩

theorem directory?_withDirectory (path : String) (directory : Directory) (env : Environment) :
    (env.withDirectory path directory).directory? path = some directory :=
  OrderedMap.get?_put_self _ _ _

end Environment

open OracleCatalog.Environment (SameElsewhere)

namespace Action

/-! ### Actions of one directory -/

/-- Wherever it starts, the action leaves everything but a directory as it is, and what it answers
and makes of the directory is a matter of the directory alone. -/
structure Confined {σ α : Type} (path : String) (action : Action σ α) : Prop where
  state : ∀ s env, (action.perform s env).state = s
  elsewhere : ∀ s env, SameElsewhere path env (action.perform s env).environment
  result : ∀ s env s' env', env.directory? path = env'.directory? path →
    (action.perform s env).result = (action.perform s' env').result
  directory : ∀ s env s' env', env.directory? path = env'.directory? path →
    (action.perform s env).environment.directory? path =
      (action.perform s' env').environment.directory? path

variable {σ α β : Type} {path : String}

theorem confined_ofExcept (outcome : Except Error α) :
    Confined path (ofExcept outcome : Action σ α) where
  state _ _ := rfl
  elsewhere _ env := .refl path env
  result _ _ _ _ _ := rfl
  directory _ _ _ _ h := h

theorem confined_pure (a : α) : Confined path (pure a : Action σ α) := confined_ofExcept (.ok a)

theorem confined_throw (e : Error) : Confined path (throw e : Action σ α) :=
  confined_ofExcept (.error e)

theorem confined_note (channel : Channel) (level : Level) (text : String) :
    Confined path (note channel level text : Action σ Unit) where
  state _ _ := rfl
  elsewhere _ _ := ⟨fun _ _ => rfl, rfl⟩
  result _ _ _ _ _ := rfl
  directory _ _ _ _ h := h

theorem confined_onEnvironment {f : Environment → α × Environment}
    (elsewhere : ∀ env, SameElsewhere path env (f env).2)
    (alone : ∀ env env', env.directory? path = env'.directory? path →
      (f env).1 = (f env').1 ∧ (f env).2.directory? path = (f env').2.directory? path) :
    Confined path (onEnvironment f : Action σ α) where
  state _ _ := rfl
  elsewhere _ env := elsewhere env
  result _ env _ env' h := congrArg Except.ok (alone env env' h).1
  directory _ env _ env' h := (alone env env' h).2

/-- An answer that the directory gives. -/
theorem confined_answer {f : Environment → α}
    (alone : ∀ env env', env.directory? path = env'.directory? path → f env = f env') :
    Confined path (onEnvironment fun env => (f env, env) : Action σ α) :=
  confined_onEnvironment (fun env => .refl path env) fun env env' h => ⟨alone env env' h, h⟩

theorem confined_bind {action : Action σ α} {next : α → Action σ β} (h : Confined path action)
    (hnext : ∀ a, Confined path (next a)) : Confined path (action >>= next) where
  state s env := by
    have hstate := h.state s env
    rw [perform_bind, Outcome.andThen]
    cases (action.perform s env).result with
    | error e => exact hstate
    | ok a => exact ((hnext a).state _ _).trans hstate
  elsewhere s env := by
    have hfirst := h.elsewhere s env
    rw [perform_bind, Outcome.andThen]
    cases (action.perform s env).result with
    | error e => exact hfirst
    | ok a => exact hfirst.trans ((hnext a).elsewhere _ _)
  result s env s' env' hsame := by
    have hreached := h.directory s env s' env' hsame
    rw [perform_bind, perform_bind, Outcome.andThen, Outcome.andThen, h.result s env s' env' hsame]
    cases (action.perform s' env').result with
    | error e => rfl
    | ok a => exact (hnext a).result _ _ _ _ hreached
  directory s env s' env' hsame := by
    have hreached := h.directory s env s' env' hsame
    rw [perform_bind, perform_bind, Outcome.andThen, Outcome.andThen, h.result s env s' env' hsame]
    cases (action.perform s' env').result with
    | error e => exact hreached
    | ok a => exact (hnext a).directory _ _ _ _ hreached

/-! ### Runs in one directory -/

/-- What `Confined` says of one action, for actions that are performed one after the other. -/
structure ConfinedRun {σ α : Type} (path : String) (actions : List (Action σ α)) : Prop where
  state : ∀ s env, (ending actions s env).1 = s
  elsewhere : ∀ s env, SameElsewhere path env (ending actions s env).2
  results : ∀ s env s' env', env.directory? path = env'.directory? path →
    (outcomes actions s env).map (·.result) = (outcomes actions s' env').map (·.result)
  directory : ∀ s env s' env', env.directory? path = env'.directory? path →
    (ending actions s env).2.directory? path = (ending actions s' env').2.directory? path

theorem confinedRun_cons {action : Action σ α} {rest : List (Action σ α)}
    (h : Confined path action) (hrest : ConfinedRun path rest) :
    ConfinedRun path (action :: rest) where
  state s env := (hrest.state _ _).trans (h.state s _)
  elsewhere s env := by
    have hnext : SameElsewhere path env env.nextStep := ⟨fun _ _ => rfl, rfl⟩
    exact (hnext.trans (h.elsewhere s _)).trans (hrest.elsewhere _ _)
  results s env s' env' hsame := by
    have hsame' : env.nextStep.directory? path = env'.nextStep.directory? path := hsame
    exact List.cons_eq_cons.2 ⟨h.result s _ s' _ hsame',
      hrest.results _ _ _ _ (h.directory s _ s' _ hsame')⟩
  directory s env s' env' hsame := by
    have hsame' : env.nextStep.directory? path = env'.nextStep.directory? path := hsame
    exact hrest.directory _ _ _ _ (h.directory s _ s' _ hsame')

theorem confinedRun_of_confined {actions : List (Action σ α)}
    (h : ∀ action ∈ actions, Confined path action) : ConfinedRun path actions := by
  induction actions with
  | nil =>
    exact ⟨fun _ _ => rfl, fun _ env => .refl path env, fun _ _ _ _ _ => rfl, fun _ _ _ _ h => h⟩
  | cons action rest ih =>
    obtain ⟨haction, hrest⟩ := List.forall_mem_cons.1 h
    exact confinedRun_cons haction (ih hrest)

end Action

end OracleCatalog

namespace OracleCatalog.Cache

open OracleCatalog.Action (Confined)
open OracleCatalog.Environment (SameElsewhere)

variable {σ : Type} {path : String} {env env' : Environment}

/-! ### Uses of a directory -/

theorem isTooLong_congr (h : env.directory? path = env'.directory? path) (key : String) :
    isTooLong path key env = isTooLong path key env' := by
  unfold isTooLong
  rw [h]

theorem file?_congr (h : env.directory? path = env'.directory? path) (name : String) :
    env.file? path name = env'.file? path name := by
  unfold Environment.file?
  rw [h]

theorem confined_checkName (path key : String) :
    Confined path (checkName path key : Action σ Unit) := by
  unfold checkName
  refine Action.confined_bind
    (Action.confined_answer fun _ _ h => isTooLong_congr h key) fun tooLong => ?_
  cases tooLong with
  | true => exact Action.confined_throw _
  | false => exact Action.confined_pure ()

theorem confined_get (path key : String) :
    Confined path (get key (.files path) : Action σ Value) := by
  unfold get
  refine Action.confined_bind (confined_checkName path key) fun _ => ?_
  refine Action.confined_bind (Action.confined_answer fun _ _ h => file?_congr h _) fun found => ?_
  cases found with
  | none => exact Action.confined_pure _
  | some text =>
    dsimp only
    split
    · exact Action.confined_pure _
    · exact Action.confined_bind (Action.confined_note _ _ _) fun _ => Action.confined_pure _
    · exact Action.confined_throw _

/-- What is put in the place of a directory is made of the directory, or of none. -/
theorem confined_withDirectory (path : String) (make : Option Directory → Directory) :
    Confined path (Action.onEnvironment fun env =>
      ((), env.withDirectory path (make (env.directory? path))) : Action σ Unit) := by
  refine Action.confined_onEnvironment
    (fun env => Environment.sameElsewhere_withDirectory _ _ _) fun env env' h => ⟨rfl, ?_⟩
  rw [Environment.directory?_withDirectory, Environment.directory?_withDirectory, h]

/-- A directory is changed where it is there. -/
theorem confined_change (path : String) (change : Directory → Directory) :
    Confined path (Action.onEnvironment fun env =>
      match env.directory? path with
      | none => ((), env)
      | some directory => ((), env.withDirectory path (change directory)) : Action σ Unit) := by
  refine Action.confined_onEnvironment (fun env => ?_) fun env env' h => ⟨?_, ?_⟩
  · split
    · exact .refl path env
    · exact Environment.sameElsewhere_withDirectory _ _ _
  · rw [h]
  · rw [h]
    cases hdirectory : env'.directory? path with
    | none => exact h
    | some directory =>
      dsimp only
      rw [Environment.directory?_withDirectory, Environment.directory?_withDirectory]

theorem confined_set (path key : String) (value : Value) :
    Confined path (set key value (.files path) : Action σ Unit) := by
  have hwrite (text : String) : Confined path (Action.onEnvironment fun env =>
      ((), env.writeFile path (fileName key) text) : Action σ Unit) :=
    confined_withDirectory path fun directory => (directory.getD []).put (fileName key) text
  unfold set
  refine Action.confined_bind (confined_withDirectory path (·.getD [])) fun _ => ?_
  refine Action.confined_bind (confined_checkName path key) fun _ => ?_
  refine Action.confined_bind (hwrite "") fun _ => ?_
  exact Action.confined_bind (Action.confined_ofExcept _) fun w => hwrite (Yaml.print w)

theorem confined_delete (path key : String) :
    Confined path (delete key (.files path) : Action σ Unit) :=
  Action.confined_bind (confined_checkName path key) fun _ => confined_change path _

theorem confined_clear (path : String) : Confined path (clear (.files path) : Action σ Unit) :=
  confined_change path _

theorem confined_use (path : String) (use : Use) :
    Confined path (use.on (.files path) : Action σ Value) := by
  cases use with
  | set key value =>
    exact Action.confined_bind (confined_set path key value) fun _ => Action.confined_pure _
  | get key => exact confined_get path key
  | delete key =>
    exact Action.confined_bind (confined_delete path key) fun _ => Action.confined_pure _
  | clear => exact Action.confined_bind (confined_clear path) fun _ => Action.confined_pure _

/-! ### Files of a directory -/

/-- The files that a use can look at and change. -/
def Use.concerns : Use → String → Bool
  | .set key _ | .get key | .delete key => fun name => name == fileName key
  | .clear => isCacheFile

theorem file?_change (path name : String) {change : Directory → Directory}
    (h : ∀ directory, OrderedMap.get? name (change directory) = OrderedMap.get? name directory)
    (env : Environment) :
    (match env.directory? path with
      | none => ((), env)
      | some directory => ((), env.withDirectory path (change directory))).2.file? path name =
      env.file? path name := by
  cases hdirectory : env.directory? path with
  | none => rfl
  | some directory =>
    dsimp only
    unfold Environment.file?
    rw [Environment.directory?_withDirectory, hdirectory]
    exact h directory

theorem file?_delete {key name : String} (h : name ≠ fileName key) (s : σ) (env : Environment) :
    ((delete key (.files path)).perform s env).environment.file? path name =
      env.file? path name := by
  unfold delete
  rw [Action.perform_bind, perform_checkName]
  cases isTooLong path key env with
  | true => rfl
  | false =>
    rw [if_neg Bool.false_ne_true, Outcome.andThen_ok, Action.perform_onEnvironment]
    exact file?_change path name (fun directory => OrderedMap.get?_erase_of_ne h directory) env

theorem file?_clear {name : String} (h : isCacheFile name = false) (s : σ) (env : Environment) :
    ((clear (.files path)).perform s env).environment.file? path name = env.file? path name := by
  unfold clear
  rw [Action.perform_onEnvironment]
  refine file?_change path name (fun directory => ?_) env
  rw [OrderedMap.get?_filter (fun name => !isCacheFile name), h]
  rfl

theorem environment_silently (action : Action σ Unit) (s : σ) (env : Environment) :
    ((do action; return Value.null : Action σ Value).perform s env).environment =
      (action.perform s env).environment :=
  congrArg Outcome.environment (perform_silently action s env)

/-- Every other file stays as it is. -/
theorem file?_of_not_concerns {use : Use} {name : String} (h : use.concerns name = false) (s : σ)
    (env : Environment) :
    ((use.on (.files path)).perform s env).environment.file? path name = env.file? path name := by
  cases use with
  | set key value =>
    have hset := environment_silently (set key value (.files path)) s env
    exact (congrArg (Environment.file? path name) hset).trans
      (file?_set (beq_eq_false_iff_ne.1 h) value s env)
  | get key =>
    have spares : Action.Spares id Action.anyAnswer (get key (.files path) : Action σ Value) :=
      spares_get key (.files path)
    obtain ⟨-, hstores, -⟩ := spares s env
    exact Environment.file?_of_stores hstores path name
  | delete key =>
    have hdelete := environment_silently (delete key (.files path)) s env
    exact (congrArg (Environment.file? path name) hdelete).trans
      (file?_delete (beq_eq_false_iff_ne.1 h) s env)
  | clear =>
    have hclear := environment_silently (clear (.files path)) s env
    exact (congrArg (Environment.file? path name) hclear).trans (file?_clear h s env)

/-- No use concerns a file that no key can have. -/
theorem not_concerns_of_not_isCacheFile {name : String} (h : isCacheFile name = false) (use : Use) :
    use.concerns name = false := by
  have hne (key : String) : (name == fileName key) = false := by
    refine beq_eq_false_iff_ne.2 fun heq => ?_
    rw [heq, isCacheFile_fileName] at h
    cases h
  cases use with
  | clear => exact h
  | set key value | get key | delete key => exact hne key

theorem file?_ending {name : String} (h : isCacheFile name = false) (uses : List Use) (s : σ)
    (env : Environment) :
    (Action.ending (uses.map (Use.on (.files path))) s env).2.file? path name =
      env.file? path name := by
  induction uses generalizing s env with
  | nil => rfl
  | cons use rest ih =>
    exact (ih _ _).trans (file?_of_not_concerns (not_concerns_of_not_isCacheFile h use) s _)

/-! ### Keys behind clearing -/

/-- The value of a key by the text of its file. -/
def valueOf : Option String → Except Error Value
  | none => .ok .null
  | some text =>
    match Yaml.read text with
    | .ok v => .ok v
    | .error .unreadable => .ok .null
    | .error (.raised e) => .error e

theorem result_get (path key : String) (s : σ) (env : Environment) :
    ((get key (.files path)).perform s env).result =
      if isTooLong path key env then .error (.nameTooLong (filePath path key))
      else valueOf (env.file? path (fileName key)) := by
  unfold get
  rw [Action.perform_bind, perform_checkName]
  cases isTooLong path key env with
  | true => rfl
  | false =>
    rw [if_neg Bool.false_ne_true, Outcome.andThen_ok, Action.perform_bind,
      Action.perform_onEnvironment, Outcome.andThen_ok, if_neg Bool.false_ne_true]
    cases env.file? path (fileName key) with
    | none => rfl
    | some text =>
      dsimp only [valueOf]
      cases Yaml.read text with
      | ok v => rfl
      | error failure => cases failure <;> rfl

/-- Clearing leaves no file that a key can have, whoever has put it there. -/
theorem file?_clear_of_isCacheFile {name : String} (h : isCacheFile name = true) (s : σ)
    (env : Environment) :
    ((clear (.files path)).perform s env).environment.file? path name = none := by
  rw [Environment.file?_eq_get?, (perform_clear path s env).2,
    OrderedMap.get?_filter (fun name => !isCacheFile name), h]
  rfl

/-! ### Places of files -/

/-- Letters and digits of the basic alphabet, and three marks. -/
def IsPlainChar (c : Char) : Prop :=
  ('A' ≤ c ∧ c ≤ 'Z') ∨ ('a' ≤ c ∧ c ≤ 'z') ∨ ('0' ≤ c ∧ c ≤ '9') ∨ c = '_' ∨ c = '.' ∨ c = '-'

theorem isPlainChar_of_isFileChar {c : Char} (h : isFileChar c = true) : IsPlainChar c := by
  have htest : isFileChar c =
      (decide ('A' ≤ c ∧ c ≤ 'Z') || (decide ('a' ≤ c) && decide (c ≤ 'z')) ||
        (decide ('0' ≤ c) && decide (c ≤ '9')) ||
        decide (c = '_') || decide (c = '.') || decide (c = '-')) := rfl
  rw [htest] at h
  simpa only [IsPlainChar, Bool.or_eq_true, Bool.and_eq_true, decide_eq_true_eq, or_assoc] using h

theorem isCacheFile_iff {name : String} :
    isCacheFile name = true ↔ ".yaml".toList <:+ name.toList := by
  unfold isCacheFile fileEnding
  exact List.isSuffixOf_iff_suffix

/-- The file of a key has a plain name and is right in its directory. -/
structure IsRightIn (directory key : String) : Prop where
  plain : ∀ c ∈ (fileName key).toList, IsPlainChar c
  ending : ".yaml".toList <:+ (fileName key).toList
  absolute : isAbsolute (filePath (shortestPath directory) key) = isAbsolute directory
  names : pathNames (filePath (shortestPath directory) key) =
    pathNames directory ++ [fileName key]

theorem isRightIn (directory key : String) : IsRightIn directory key := by
  obtain ⟨habsolute, hnames⟩ := pathNames_filePath (shortestPath_ne_empty directory) key
  refine ⟨fun c hc => ?_, ?_, ?_, ?_⟩
  · exact isPlainChar_of_isFileChar (List.all_eq_true.1 (isFileChar_fileName key) c hc)
  · exact isCacheFile_iff.1 (isCacheFile_fileName key)
  · rw [habsolute, isAbsolute_shortestPath]
  · rw [hnames, pathNames_shortestPath]

/-! ### Keys whose files cannot have their names -/

theorem length_le_utf8ByteSize (cs : List Char) :
    cs.length ≤ (String.ofList cs).utf8ByteSize := by
  induction cs with
  | nil => exact Nat.zero_le _
  | cons c cs ih =>
    have hsplit : String.ofList (c :: cs) = String.singleton c ++ String.ofList cs := by
      rw [String.singleton_eq_ofList, ← String.ofList_append]
      rfl
    have hpositive := c.utf8Size_pos
    rw [hsplit, String.utf8ByteSize_append, String.utf8ByteSize_singleton, List.length_cons]
    omega

/-- A character of a key has a byte of its own, and the ending has five. -/
theorem not_fits_of_length {path key : String} (h : nameLimit < key.toList.length + 5) :
    ¬Fits path key := by
  intro fits
  have hname := fits.1
  have hstem := length_le_utf8ByteSize (key.toList.map fun c => if isFileChar c then c else '_')
  have hending : fileEnding.utf8ByteSize = 5 := by decide
  rw [fileName, String.utf8ByteSize_append, hending] at hname
  rw [List.length_map] at hstem
  omega

/-! ### Caches in their directory -/

/-- What clearing has left of a directory: the files of others as they were, and no value for any
key. Only a key whose file cannot have its name is refused. -/
structure IsCleared (σ : Type) (path : String) (before after : Environment) : Prop where
  others : ∀ name, ¬".yaml".toList <:+ name.toList →
    after.file? path name = before.file? path name
  keys : ∀ key (s : σ), ((get key (.files path)).perform s after).result =
    if isTooLong path key after then .error (.nameTooLong (filePath path key)) else .ok .null

theorem isCleared_ending (path : String) (uses : List Use) (s : σ) (env : Environment) :
    IsCleared σ path env
      (Action.ending ((uses ++ [Use.clear]).map (Use.on (.files path))) s env).2 := by
  have hlast : (Action.ending ((uses ++ [Use.clear]).map (Use.on (.files path))) s env).2 =
      ((clear (.files path)).perform
        (Action.ending (uses.map (Use.on (.files path))) s env).1
        (Action.ending (uses.map (Use.on (.files path))) s env).2.nextStep).environment := by
    rw [List.map_append, Action.ending_append]
    exact environment_silently (clear (.files path)) _ _
  refine ⟨fun name hname => ?_, fun key s' => ?_⟩
  · have hother : isCacheFile name = false :=
      Bool.eq_false_iff.2 fun h => hname (isCacheFile_iff.1 h)
    exact file?_ending hother _ s env
  · rw [result_get, hlast, file?_clear_of_isCacheFile (isCacheFile_fileName key)]
    rfl

end OracleCatalog.Cache
