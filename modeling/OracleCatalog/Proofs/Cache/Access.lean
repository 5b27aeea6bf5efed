import OracleCatalog.Cache.Access
import OracleCatalog.Proofs.OrderedMap
import OracleCatalog.Proofs.Session.Stores

/-!
# What using a cache does

What reading, writing, deleting and clearing do to a cache in memory and to the files of a
directory, for keys whose files can have their names. A value that files cannot keep is noticed only
when the file is open, so that an empty file stays.
-/

namespace OracleCatalog

namespace Environment

/-! ### Memories -/

theorem memory_of_getElem? {number : Nat} {env : Environment} {store : OrderedMap String Value}
    (h : env.memories[number]? = some store) : env.memory number = store := by
  rw [memory, h]
  rfl

theorem getElem?_changeMemory {number : Nat} {env : Environment} {store : OrderedMap String Value}
    (h : env.memories[number]? = some store)
    (f : OrderedMap String Value → OrderedMap String Value) :
    (env.changeMemory number f).memories[number]? = some (f store) := by
  show (env.memories.modify number f)[number]? = _
  rw [List.getElem?_modify_eq, h]
  rfl

/-! ### Files of a directory -/

/-- The files of a directory, none while it is not there. -/
def files (path : String) (env : Environment) : Directory := (env.directory? path).getD []

theorem files_of_absent {path : String} {env : Environment} (h : env.directory? path = none) :
    env.files path = [] := by
  rw [files, h]
  rfl

theorem files_nextStep (path : String) (env : Environment) :
    env.nextStep.files path = env.files path := rfl

@[simp] theorem files_withDirectory (path : String) (directory : Directory) (env : Environment) :
    (env.withDirectory path directory).files path = directory := by
  rw [files, directory?, withDirectory, OrderedMap.get?_put_self, Option.getD_some]

@[simp] theorem files_makeDirectory (path : String) (env : Environment) :
    (env.makeDirectory path).files path = env.files path :=
  files_withDirectory _ _ _

theorem directory?_makeDirectory (path : String) (env : Environment) :
    ((env.makeDirectory path).directory? path).isSome = true := by
  rw [makeDirectory, directory?, withDirectory, OrderedMap.get?_put_self, Option.isSome_some]

@[simp] theorem files_writeFile (path name text : String) (env : Environment) :
    (env.writeFile path name text).files path = (env.files path).put name text :=
  files_withDirectory _ _ _

theorem file?_eq_get? (path name : String) (env : Environment) :
    env.file? path name = OrderedMap.get? name (env.files path) := by
  unfold file? files
  cases env.directory? path <;> rfl

theorem file?_of_stores {env env' : Environment} (h : env'.stores = env.stores)
    (path name : String) : env'.file? path name = env.file? path name :=
  congrArg (fun directories => (OrderedMap.get? path directories).bind (OrderedMap.get? name))
    (congrArg Stores.directories h)

end Environment

namespace Cache

variable {σ : Type}

/-! ### Keys -/

/-- The file of a key can have its name, and its path. -/
def Fits (path key : String) : Prop :=
  (fileName key).utf8ByteSize ≤ nameLimit ∧ (filePath path key).utf8ByteSize ≤ pathLimit

instance (path key : String) : Decidable (Fits path key) := inferInstanceAs (Decidable (_ ∧ _))

theorem isTooLong_of_fits {path key : String} (fits : Fits path key) (env : Environment) :
    isTooLong path key env = false := by
  unfold isTooLong
  rw [decide_eq_false (Nat.not_lt.2 fits.1), decide_eq_false (Nat.not_lt.2 fits.2)]
  rfl

/-- In a directory that is there no other key has a file. -/
theorem isTooLong_of_not_fits {path key : String} {env : Environment} (h : ¬Fits path key)
    (made : (env.directory? path).isSome) : isTooLong path key env = true := by
  unfold isTooLong
  rw [made, Bool.and_true, Bool.or_eq_true, decide_eq_true_eq, decide_eq_true_eq]
  by_cases hname : (fileName key).utf8ByteSize ≤ nameLimit
  · exact .inr (Nat.lt_of_not_le fun hpath => h ⟨hname, hpath⟩)
  · exact .inl (Nat.lt_of_not_le hname)

theorem perform_checkName (path key : String) (s : σ) (env : Environment) :
    (checkName path key).perform s env =
      { result :=
          if isTooLong path key env then .error (.nameTooLong (filePath path key)) else .ok ()
        state := s
        environment := env } := by
  unfold checkName
  rw [Action.perform_bind, Action.perform_onEnvironment, Outcome.andThen_ok]
  cases isTooLong path key env <;> rfl

theorem perform_checkName_of_fits {path key : String} (fits : Fits path key) (s : σ)
    (env : Environment) :
    (checkName path key).perform s env = { result := .ok (), state := s, environment := env } := by
  rw [perform_checkName, isTooLong_of_fits fits, if_neg Bool.false_ne_true]

/-! ### Reading -/

/-- The value that is read from a file with a text, or where there is no file. -/
def Holds (v : Value) : Option String → Prop
  | none => v = .null
  | some text => Yaml.read text = .ok v

/-- A value that is read back from what is written of it. -/
def Kept (v : Value) : Prop := ∃ w, v.storable = .ok w ∧ Yaml.read (Yaml.print w) = .ok v

/-- Reading changes nothing that is stored. -/
theorem spares_get {γ : Type} {part : σ → γ} (key : String) (cache : Cache) :
    Action.Spares part Action.anyAnswer (get key cache : Action σ Value) := by
  cases cache with
  | memory number => exact Action.spares_of_keeping fun _ _ => ⟨rfl, rfl⟩
  | files path =>
    have hname : Action.Spares part Action.anyAnswer (checkName path key : Action σ Unit) := by
      refine Action.spares_of_keeping fun s env => ?_
      rw [perform_checkName]
      exact ⟨rfl, rfl⟩
    refine Action.spares_bind hname fun _ _ => ?_
    refine Action.spares_bind (P := Action.anyAnswer)
      (Action.spares_of_keeping fun _ _ => ⟨rfl, rfl⟩) fun found _ => ?_
    cases found with
    | none => exact Action.spares_pure trivial
    | some text =>
      dsimp only
      split
      · exact Action.spares_pure trivial
      · exact Action.spares_bind (Action.spares_note _ _ _) fun _ _ => Action.spares_pure trivial
      · exact Action.spares_throw _

theorem perform_get_text {path key text : String} (fits : Fits path key) (s : σ)
    {env : Environment} (hfile : env.file? path (fileName key) = some text) :
    (get key (.files path)).perform s env =
      match Yaml.read text with
      | .ok v => { result := .ok v, state := s, environment := env }
      | .error .unreadable =>
        { result := .ok .null
          state := s
          environment := env.note .cache .warning "Ignoring unreadable cache entry " }
      | .error (.raised e) => { result := .error e, state := s, environment := env } := by
  unfold get
  rw [Action.perform_bind, perform_checkName_of_fits fits, Outcome.andThen_ok, Action.perform_bind,
    Action.perform_onEnvironment, Outcome.andThen_ok, hfile]
  dsimp only
  cases Yaml.read text with
  | ok v => rfl
  | error failure => cases failure <;> rfl

theorem perform_get {path key : String} (fits : Fits path key) {v : Value} (s : σ)
    {env : Environment} (h : Holds v (env.file? path (fileName key))) :
    (get key (.files path)).perform s env =
      { result := .ok v, state := s, environment := env } := by
  cases hfile : env.file? path (fileName key) with
  | none =>
    rw [hfile] at h
    obtain rfl : v = .null := h
    unfold get
    rw [Action.perform_bind, perform_checkName_of_fits fits, Outcome.andThen_ok,
      Action.perform_bind, Action.perform_onEnvironment, Outcome.andThen_ok, hfile]
    rfl
  | some text =>
    rw [hfile] at h
    have hread : Yaml.read text = .ok v := h
    rw [perform_get_text fits s hfile, hread]

theorem get_of_not_fits {path key : String} (h : ¬Fits path key) (s : σ) {env : Environment}
    (made : (env.directory? path).isSome = true) :
    (get key (.files path)).perform s env =
      { result := .error (.nameTooLong (filePath path key)), state := s, environment := env } := by
  unfold get
  rw [Action.perform_bind, perform_checkName, isTooLong_of_not_fits h made, if_pos rfl,
    Outcome.andThen_error]

/-! ### Writing -/

theorem perform_set {path key : String} (fits : Fits path key) (value : Value) (s : σ)
    (env : Environment) :
    (set key value (.files path)).perform s env =
      { result := value.storable.map fun _ => ()
        state := s
        environment :=
          let opened := (env.makeDirectory path).writeFile path (fileName key) ""
          match value.storable with
          | .ok w => opened.writeFile path (fileName key) (Yaml.print w)
          | .error _ => opened } := by
  unfold set
  rw [Action.perform_bind, Action.perform_onEnvironment, Outcome.andThen_ok, Action.perform_bind,
    perform_checkName_of_fits fits, Outcome.andThen_ok, Action.perform_bind,
    Action.perform_onEnvironment, Outcome.andThen_ok, Action.perform_bind, Action.perform_ofExcept]
  cases value.storable <;> rfl

theorem files_set {path key : String} (fits : Fits path key) (value : Value) (s : σ)
    (env : Environment) :
    ((set key value (.files path)).perform s env).environment.files path =
      (env.files path).put (fileName key) (match value.storable with
        | .ok w => Yaml.print w
        | .error _ => "") := by
  rw [perform_set fits]
  dsimp only
  cases value.storable with
  | ok w =>
    simp only [Environment.files_writeFile, Environment.files_makeDirectory]
    exact OrderedMap.put_put_self _ _ _ _
  | error e => simp only [Environment.files_writeFile, Environment.files_makeDirectory]

/-- Setting a key changes nothing but the file of the key, whether it succeeds or not. -/
theorem set_preserves {γ : Type} {path key : String} {f : Environment → γ}
    (hmake : ∀ env : Environment, f (env.makeDirectory path) = f env)
    (hwrite : ∀ text (env : Environment), f (env.writeFile path (fileName key) text) = f env)
    (value : Value) (s : σ) (env : Environment) :
    f ((set key value (.files path)).perform s env).environment = f env := by
  unfold set
  rw [Action.perform_bind, Action.perform_onEnvironment, Outcome.andThen_ok, Action.perform_bind,
    perform_checkName]
  cases isTooLong path key (env.makeDirectory path) with
  | true => exact hmake env
  | false =>
    rw [if_neg Bool.false_ne_true, Outcome.andThen_ok, Action.perform_bind,
      Action.perform_onEnvironment, Outcome.andThen_ok, Action.perform_bind,
      Action.perform_ofExcept]
    cases value.storable with
    | error e => exact (hwrite _ _).trans (hmake env)
    | ok w => exact (hwrite _ _).trans ((hwrite _ _).trans (hmake env))

theorem file?_set {path key name : String} (h : name ≠ fileName key) (value : Value) (s : σ)
    (env : Environment) :
    ((set key value (.files path)).perform s env).environment.file? path name =
      env.file? path name := by
  refine set_preserves (f := Environment.file? path name) (fun env => ?_) (fun text env => ?_) value
    s env
  · rw [Environment.file?_eq_get?, Environment.file?_eq_get?, Environment.files_makeDirectory]
  · rw [Environment.file?_eq_get?, Environment.file?_eq_get?, Environment.files_writeFile,
      OrderedMap.get?_put_of_ne h]

/-- The cache is there and keeps the value under the key as it is. -/
def CanKeep (key : String) (v : Value) (env : Environment) : Cache → Prop
  | .memory number => ∃ store, env.memories[number]? = some store
  | .files path => Fits path key ∧ Kept v

/-- What has been set is read. -/
theorem get_set {cache : Cache} {key : String} {v : Value} {env : Environment}
    (keeps : cache.CanKeep key v env) (s : σ) :
    let stored := (set key v cache).perform s env
    stored.result = .ok () ∧ stored.state = s ∧
      (get key cache).perform s stored.environment =
        { result := .ok v, state := s, environment := stored.environment } := by
  intro stored
  cases cache with
  | memory number =>
    obtain ⟨store, hstore⟩ := keeps
    have hstored : stored.environment.memory number = store.put key v :=
      Environment.memory_of_getElem? (Environment.getElem?_changeMemory hstore _)
    refine ⟨rfl, rfl, ?_⟩
    unfold get
    rw [Action.perform_onEnvironment, hstored, OrderedMap.get?_put_self]
    rfl
  | files path =>
    obtain ⟨fits, w, hstorable, hread⟩ := keeps
    have hstored := perform_set fits v s env
    have hfile : stored.environment.file? path (fileName key) = some (Yaml.print w) := by
      rw [Environment.file?_eq_get?, files_set fits, hstorable, OrderedMap.get?_put_self]
    refine ⟨?_, congrArg Outcome.state hstored, perform_get fits s ?_⟩
    · exact (congrArg Outcome.result hstored).trans (by rw [hstorable]; rfl)
    · rw [hfile]
      exact hread

/-- Where a file cannot have its name, the directory is made all the same. -/
theorem set_of_not_fits {path key : String} (h : ¬Fits path key) (value : Value) (s : σ)
    (env : Environment) :
    (set key value (.files path)).perform s env =
      { result := .error (.nameTooLong (filePath path key))
        state := s
        environment := env.makeDirectory path } := by
  unfold set
  rw [Action.perform_bind, Action.perform_onEnvironment, Outcome.andThen_ok, Action.perform_bind,
    perform_checkName, isTooLong_of_not_fits h (Environment.directory?_makeDirectory path env),
    if_pos rfl, Outcome.andThen_error]

/-! ### Deleting -/

/-- The files of a directory are changed where it is there, by a change that makes none of none. -/
theorem files_of_change {change : Directory → Directory} (hnone : change [] = []) (path : String)
    (env : Environment) :
    (match env.directory? path with
      | none => ((), env)
      | some directory => ((), env.withDirectory path (change directory))).2.files path =
      change (env.files path) := by
  cases hdirectory : env.directory? path with
  | none =>
    dsimp only
    rw [Environment.files_of_absent hdirectory, hnone]
  | some directory =>
    dsimp only
    rw [Environment.files_withDirectory, Environment.files, hdirectory, Option.getD_some]

theorem perform_delete {path key : String} (fits : Fits path key) (s : σ) (env : Environment) :
    ((delete key (.files path)).perform s env).result = .ok () ∧
      ((delete key (.files path)).perform s env).environment.files path =
        OrderedMap.erase (fileName key) (env.files path) := by
  unfold delete
  rw [Action.perform_bind, perform_checkName_of_fits fits, Outcome.andThen_ok,
    Action.perform_onEnvironment]
  exact ⟨rfl, files_of_change rfl path env⟩

theorem perform_clear (path : String) (s : σ) (env : Environment) :
    ((clear (.files path)).perform s env).result = .ok () ∧
      ((clear (.files path)).perform s env).environment.files path =
        (env.files path).filter fun entry => !isCacheFile entry.1 := by
  unfold clear
  rw [Action.perform_onEnvironment]
  exact ⟨rfl, files_of_change rfl path env⟩

end Cache

end OracleCatalog
