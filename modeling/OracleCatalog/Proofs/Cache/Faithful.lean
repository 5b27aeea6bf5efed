import Mathlib.Data.List.Basic
import OracleCatalog.Proofs.Cache.Access
import OracleCatalog.Proofs.Session.Runs

/-!
# What caches keep

A cache is used for any keys in any order. It is faithful when a key is answered with the value of
the last success in setting it, unless the key or everything has been forgotten since. A cache in
memory always is. In a directory a key is answered with what the last use left in its file, which
may be a use of another key with a file of the same name, or an attempt that failed and left the
file empty. Over given keys and values this comes to the same exactly when files have names of their
own and every value can be kept.
-/

namespace OracleCatalog.Cache

/-! ### Uses and their histories -/

/-- One use of a cache. -/
inductive Use where
  | set (key : String) (value : Value)
  | get (key : String)
  | delete (key : String)
  | clear

variable {σ : Type}

namespace Use

/-- What a use answers; there is an answer other than null only if something is read. -/
def on (cache : Cache) : Use → Action σ Value
  | .set key value => do
    cache.set key value
    return .null
  | .get key => cache.get key
  | .delete key => do
    cache.delete key
    return .null
  | .clear => do
    cache.clear
    return .null

/-- The use has keys and values of a kind. -/
def Over (K : String → Prop) (V : Value → Prop) : Use → Prop
  | .set key value => K key ∧ V value
  | .get key => K key
  | .delete key => K key
  | .clear => True

end Use

abbrev Uses (σ : Type) := Action.History Use σ Value

/-- What a use leaves of a value that belongs to some keys. Where setting it fails, `failed` says
what is left. -/
def leave (concerns : String → Bool) (failed : Value → Value) (value : Value) :
    Use × Outcome σ Value → Value
  | (.set key new, o) =>
    if concerns key then if o.result.isOk then new else failed value else value
  | (.get _, _) => value
  | (.delete key, _) => if concerns key then .null else value
  | (.clear, _) => .null

/-- What is left of a value that was null before all uses. -/
def lastLeft (concerns : String → Bool) (failed : Value → Value) (uses : Uses σ) : Value :=
  uses.foldl (leave concerns failed) .null

/-- The value of the last success in setting a key, null where there is none or it has been
forgotten since. -/
def lastSet (key : String) : Uses σ → Value := lastLeft (· == key) id

/-- The value that the last use of a file left in it; a failure empties it. -/
def lastWritten (name : String) : Uses σ → Value :=
  lastLeft (fun key => fileName key == name) fun _ => .null

/-- Whatever is read is what is expected of its key after the uses before. -/
def Answered (expected : String → Uses σ → Value) (uses : Uses σ) : Prop :=
  ∀ earlier key o, earlier ++ [(.get key, o)] <+: uses → o.result = .ok (expected key earlier)

/-- Whatever is read is the value of the last success in setting its key. -/
def Faithful (uses : Uses σ) : Prop := Answered lastSet uses

theorem lastLeft_append (concerns : String → Bool) (failed : Value → Value) (uses : Uses σ)
    (last : Use × Outcome σ Value) :
    lastLeft concerns failed (uses ++ [last]) =
      leave concerns failed (lastLeft concerns failed uses) last := by
  rw [lastLeft, List.foldl_append]
  rfl

theorem answered_nil (expected : String → Uses σ → Value) : Answered expected [] := by
  intro earlier key o h
  exact absurd (List.prefix_nil.1 h) (List.append_ne_nil_of_right_ne_nil _ (List.cons_ne_nil _ _))

theorem Answered.append {expected : String → Uses σ → Value} {uses : Uses σ} {use : Use}
    {o : Outcome σ Value} (h : Answered expected uses)
    (hlast : ∀ key, use = .get key → o.result = .ok (expected key uses)) :
    Answered expected (uses ++ [(use, o)]) := by
  intro earlier key o' hread
  rcases List.prefix_concat_iff.1 hread with heq | hbefore
  · obtain ⟨rfl, hsame⟩ := List.append_inj' heq rfl
    obtain ⟨huse, rfl⟩ := Prod.mk.inj (List.singleton_inj.1 hsame)
    exact hlast key huse.symm
  · exact h earlier key o' hbefore

theorem perform_silently (action : Action σ Unit) (s : σ) (env : Environment) :
    (do action; return Value.null : Action σ Value).perform s env =
      { result := (action.perform s env).result.map fun _ => .null
        state := (action.perform s env).state
        environment := (action.perform s env).environment } := by
  rw [Action.perform_bind]
  generalize action.perform s env = o
  obtain ⟨result, s', env'⟩ := o
  cases result <;> rfl

/-! ### A cache in memory -/

/-- A cache in memory has been faithful and has under every key what is expected next. -/
structure MemoryFollows (number : Nat) (uses : Uses σ) (env : Environment) : Prop where
  faithful : Faithful uses
  entries : ∃ store, env.memories[number]? = some store ∧ (OrderedMap.keys store).Nodup ∧
    ∀ key, (OrderedMap.get? key store).getD .null = lastSet key uses

theorem MemoryFollows.step {number : Nat} {uses : Uses σ} {env : Environment}
    (follows : MemoryFollows number uses env) (use : Use) (s : σ) :
    let o := (use.on (.memory number)).perform s env.nextStep
    MemoryFollows number (uses ++ [(use, o)]) o.environment := by
  obtain ⟨faithful, store, hstore, distinct, hentries⟩ := follows
  have hstore' : env.nextStep.memories[number]? = some store := hstore
  cases use with
  | set key value =>
    refine ⟨faithful.append nofun, store.put key value, ?_, ?_, fun other => ?_⟩
    · exact Environment.getElem?_changeMemory hstore' _
    · exact OrderedMap.nodup_keys_put distinct key value
    · rw [lastSet, lastLeft_append, leave]
      by_cases hkey : key = other
      · rw [hkey, OrderedMap.get?_put_self, if_pos BEq.rfl]
        rfl
      · rw [OrderedMap.get?_put_of_ne (Ne.symm hkey), if_neg fun h => hkey (eq_of_beq h)]
        exact hentries other
  | get key =>
    refine ⟨faithful.append ?_, store, hstore', distinct, fun other => ?_⟩
    · intro other hother
      obtain rfl := Use.get.inj hother
      show Except.ok ((OrderedMap.get? key (env.nextStep.memory number)).getD .null) = _
      rw [Environment.memory_of_getElem? hstore', hentries]
    · rw [lastSet, lastLeft_append]
      exact hentries other
  | delete key =>
    refine ⟨faithful.append nofun, OrderedMap.erase key store, ?_, ?_, fun other => ?_⟩
    · exact Environment.getElem?_changeMemory hstore' _
    · exact distinct.sublist (OrderedMap.keys_erase_sublist key store)
    · rw [lastSet, lastLeft_append, leave, OrderedMap.get?_erase distinct]
      by_cases hkey : key = other
      · rw [if_pos (beq_iff_eq.2 hkey.symm), if_pos (beq_iff_eq.2 hkey)]
        rfl
      · rw [if_neg fun h => hkey (eq_of_beq h).symm, if_neg fun h => hkey (eq_of_beq h)]
        exact hentries other
  | clear =>
    refine ⟨faithful.append nofun, [], ?_, List.nodup_nil, fun other => ?_⟩
    · exact Environment.getElem?_changeMemory hstore' _
    · rw [lastSet, lastLeft_append]
      rfl

theorem faithful_memory {number : Nat} {env : Environment} (empty : env.memories[number]? = some [])
    (uses : List Use) (s : σ) :
    Faithful (Action.history (Use.on (.memory number)) uses s env) := by
  have start : MemoryFollows (σ := σ) number [] env :=
    ⟨answered_nil _, [], empty, List.nodup_nil, fun _ => rfl⟩
  have hstep : ∀ (earlier : Uses σ) (use : Use) (s : σ) (env : Environment), True →
      MemoryFollows number earlier env →
        let o := (use.on (.memory number)).perform s env.nextStep
        MemoryFollows number (earlier ++ [(use, o)]) o.environment :=
    fun _ use s _ _ follows => follows.step use s
  exact (Action.invariant_of_history (s := s) hstep (fun _ _ => trivial) start).faithful

/-! ### A directory -/

section Files

variable {path : String} {K : String → Prop} {V : Value → Prop}

/-- The files of a directory have been read as they were left, and are as they were left. -/
structure FilesFollow (path : String) (uses : Uses σ) (env : Environment) : Prop where
  answered : Answered (fun key => lastWritten (fileName key)) uses
  distinct : (OrderedMap.keys (env.files path)).Nodup
  contents : ∀ name, isCacheFile name = true →
    Holds (lastWritten name uses) (OrderedMap.get? name (env.files path))

/-- Setting a key succeeds if the value has a form in files. -/
theorem isOk_set {key : String} (fits : Fits path key) (value : Value) (s : σ) (env : Environment) :
    (((Use.set key value).on (.files path)).perform s env).result.isOk = value.storable.isOk := by
  have hset : ((Use.set key value).on (.files path)).perform s env = _ := perform_silently _ s env
  rw [hset, perform_set fits]
  cases value.storable <;> rfl

theorem isOk_set_of_kept {key : String} (fits : Fits path key) {v : Value} (hkept : Kept v) (s : σ)
    (env : Environment) :
    (((Use.set key v).on (.files path)).perform s env).result.isOk = true := by
  obtain ⟨w, hw, -⟩ := hkept
  rw [isOk_set fits, hw]
  rfl

/-- Whether a value is kept or not, its file can be read. -/
theorem holds_written {value : Value} (h : (∃ e, value.storable = .error e) ∨ Kept value) :
    Holds (if ((value.storable.map fun _ => ()).map fun _ => Value.null).isOk then value else .null)
      (some (match value.storable with
        | .ok w => Yaml.print w
        | .error _ => "")) := by
  rcases h with ⟨e, he⟩ | ⟨w, hw, hread⟩
  · rw [he]
    rfl
  · rw [hw]
    exact hread

theorem FilesFollow.step (fits : ∀ key, K key → Fits path key)
    (plain : ∀ v, V v → (∃ e, v.storable = .error e) ∨ Kept v) {uses : Uses σ} {env : Environment}
    (follow : FilesFollow path uses env) {use : Use} (hover : use.Over K V) (s : σ) :
    let o := (use.on (.files path)).perform s env.nextStep
    FilesFollow path (uses ++ [(use, o)]) o.environment := by
  obtain ⟨answered, distinct, contents⟩ := follow
  cases use with
  | set key value =>
    have hfits := fits key hover.1
    have hset : ((Use.set key value).on (.files path)).perform s env.nextStep = _ :=
      perform_silently _ s env.nextStep
    have hfiles := files_set hfits value s env.nextStep
    have hresult := congrArg Outcome.result (perform_set hfits value s env.nextStep)
    dsimp only at hresult ⊢
    rw [hset, hresult]
    refine ⟨answered.append nofun, ?_, fun name hname => ?_⟩
    · rw [hfiles]
      exact OrderedMap.nodup_keys_put distinct _ _
    · rw [lastWritten, lastLeft_append, leave, hfiles]
      by_cases hkey : fileName key = name
      · rw [hkey, OrderedMap.get?_put_self, if_pos BEq.rfl]
        exact holds_written (plain value hover.2)
      · rw [OrderedMap.get?_put_of_ne (Ne.symm hkey), if_neg fun h => hkey (eq_of_beq h)]
        exact contents name hname
  | get key =>
    have holds := contents (fileName key) (isCacheFile_fileName key)
    rw [← Environment.file?_eq_get?] at holds
    have hget : ((Use.get key).on (.files path)).perform s env.nextStep = _ :=
      perform_get (fits key hover) s holds
    dsimp only
    rw [hget]
    refine ⟨answered.append fun other hother => ?_, distinct, fun name hname => ?_⟩
    · obtain rfl := Use.get.inj hother
      rfl
    · rw [lastWritten, lastLeft_append]
      exact contents name hname
  | delete key =>
    obtain ⟨-, hfiles⟩ := perform_delete (fits key hover) s env.nextStep
    have hdelete : ((Use.delete key).on (.files path)).perform s env.nextStep = _ :=
      perform_silently _ s env.nextStep
    dsimp only
    rw [hdelete]
    refine ⟨answered.append nofun, ?_, fun name hname => ?_⟩
    · rw [hfiles]
      exact distinct.sublist (OrderedMap.keys_erase_sublist _ _)
    · rw [lastWritten, lastLeft_append, leave, hfiles, Environment.files_nextStep,
        OrderedMap.get?_erase distinct]
      by_cases hkey : fileName key = name
      · rw [if_pos (beq_iff_eq.2 hkey.symm), if_pos (beq_iff_eq.2 hkey)]
        rfl
      · rw [if_neg fun h => hkey (eq_of_beq h).symm, if_neg fun h => hkey (eq_of_beq h)]
        exact contents name hname
  | clear =>
    obtain ⟨-, hfiles⟩ := perform_clear path s env.nextStep
    have hclear : (Use.clear.on (.files path)).perform s env.nextStep = _ :=
      perform_silently _ s env.nextStep
    dsimp only
    rw [hclear]
    refine ⟨answered.append nofun, ?_, fun name hname => ?_⟩
    · rw [hfiles]
      exact distinct.sublist (List.filter_sublist.map _)
    · rw [lastWritten, lastLeft_append, hfiles]
      rw [OrderedMap.get?_filter (fun name => !isCacheFile name), hname]
      rfl

theorem answered_files {env : Environment} (absent : env.directory? path = none)
    (fits : ∀ key, K key → Fits path key)
    (plain : ∀ v, V v → (∃ e, v.storable = .error e) ∨ Kept v) {uses : List Use}
    (hover : ∀ use ∈ uses, use.Over K V) (s : σ) :
    Answered (fun key => lastWritten (fileName key))
      (Action.history (Use.on (.files path)) uses s env) := by
  have hfiles := Environment.files_of_absent absent
  have start : FilesFollow (σ := σ) path [] env := by
    refine ⟨answered_nil _, ?_, fun name _ => ?_⟩
    · rw [hfiles]
      exact List.nodup_nil
    · rw [hfiles]
      rfl
  have hstep : ∀ (earlier : Uses σ) (use : Use) (s : σ) (env : Environment), use.Over K V →
      FilesFollow path earlier env →
        let o := (use.on (.files path)).perform s env.nextStep
        FilesFollow path (earlier ++ [(use, o)]) o.environment :=
    fun _ _ s _ hover follow => follow.step fits plain hover s
  exact (Action.invariant_of_history (s := s) hstep hover start).answered

/-! ### Where a directory is faithful -/

/-- The use succeeds if it sets a key. -/
def Settles (use : Use) (o : Outcome σ Value) : Prop :=
  ∀ key value, use = .set key value → o.result.isOk = true

/-- Files of their own to which nothing fails to be written have what has been set. -/
theorem lastWritten_eq_lastSet
    (apart : ∀ key other, K key → K other → fileName key = fileName other → key = other)
    {uses : Uses σ} (settled : ∀ use o, (use, o) ∈ uses → use.Over K V ∧ Settles use o)
    {key : String} (hkey : K key) : lastWritten (fileName key) uses = lastSet key uses := by
  have hsame : ∀ other, K other → (fileName other == fileName key) = (other == key) := by
    intro other hother
    by_cases heq : other = key
    · rw [heq, BEq.rfl, BEq.rfl]
    · rw [beq_eq_false_iff_ne.2 heq,
        beq_eq_false_iff_ne.2 fun h => heq (apart other key hother hkey h)]
  refine List.foldl_ext _ _ _ fun value entry hmem => ?_
  obtain ⟨use, o⟩ := entry
  obtain ⟨hover, hok⟩ := settled use o hmem
  cases use with
  | set other new =>
    simp only [leave, hsame other hover.1, hok other new rfl, ↓reduceIte]
  | get other => rfl
  | delete other => simp only [leave, hsame other hover]
  | clear => rfl

theorem settled_files {env : Environment} (fits : ∀ key, K key → Fits path key)
    (kept : ∀ key value, K key → V value → Kept value) {uses : List Use}
    (hover : ∀ use ∈ uses, use.Over K V) (s : σ) :
    ∀ use o, (use, o) ∈ Action.history (Use.on (.files path)) uses s env →
      use.Over K V ∧ Settles use o := by
  have hstep : ∀ (earlier : Uses σ) (use : Use) (s : σ) (env : Environment), use.Over K V →
      (∀ use' o, (use', o) ∈ earlier → use'.Over K V ∧ Settles use' o) →
        ∀ use' o, (use', o) ∈ earlier ++ [(use, (use.on (.files path)).perform s env.nextStep)] →
          use'.Over K V ∧ Settles use' o := by
    intro earlier use s env hover settled use' o hmem
    rcases List.mem_append.1 hmem with hbefore | hlast
    · exact settled use' o hbefore
    · obtain ⟨rfl, rfl⟩ := Prod.mk.inj (List.mem_singleton.1 hlast)
      refine ⟨hover, ?_⟩
      rintro key value rfl
      exact isOk_set_of_kept (fits key hover.1) (kept key value hover.1 hover.2) s env.nextStep
  have start : ∀ use o, (use, o) ∈ ([] : Uses σ) → use.Over K V ∧ Settles use o := nofun
  exact Action.invariant_of_history (s := s) hstep hover start

theorem faithful_files {env : Environment} (absent : env.directory? path = none)
    (fits : ∀ key, K key → Fits path key)
    (apart : ∀ key other, K key → K other → fileName key = fileName other → key = other)
    (plain : ∀ v, V v → (∃ e, v.storable = .error e) ∨ Kept v)
    (kept : ∀ key value, K key → V value → Kept value) {uses : List Use}
    (hover : ∀ use ∈ uses, use.Over K V) (s : σ) :
    Faithful (Action.history (Use.on (.files path)) uses s env) := by
  intro earlier key o hread
  have hanswer := answered_files absent fits plain hover s earlier key o hread
  have settled : ∀ use o, (use, o) ∈ Action.history (Use.on (.files path)) uses s env →
      use.Over K V ∧ Settles use o := settled_files fits kept hover s
  have hkey : K key := (settled (.get key) o (hread.subset List.mem_concat_self)).1
  have hsettled : ∀ use o', (use, o') ∈ earlier → use.Over K V ∧ Settles use o' :=
    fun use o' hmem => settled use o' (hread.subset (List.mem_append_left _ hmem))
  rw [← lastWritten_eq_lastSet apart hsettled hkey]
  exact hanswer

/-- Where the directory is always faithful, the file of a key has what the key was last set to. -/
theorem lastWritten_of_faithful {env : Environment} {s : σ} (absent : env.directory? path = none)
    (fits : ∀ key, K key → Fits path key)
    (plain : ∀ v, V v → (∃ e, v.storable = .error e) ∨ Kept v)
    (faithful : ∀ uses, (∀ use ∈ uses, use.Over K V) →
      Faithful (Action.history (Use.on (.files path)) uses s env))
    {uses : List Use} (hover : ∀ use ∈ uses, use.Over K V) {key : String} (hkey : K key) :
    lastWritten (fileName key) (Action.history (Use.on (.files path)) uses s env) =
      lastSet key (Action.history (Use.on (.files path)) uses s env) := by
  have hover' : ∀ use ∈ uses ++ [.get key], use.Over K V :=
    List.forall_mem_append.2 ⟨hover, List.forall_mem_singleton.2 hkey⟩
  have hwritten := answered_files absent fits plain hover' s
  have hset := faithful _ hover'
  obtain ⟨o, ho⟩ := Action.history_concat (Use.on (.files path)) uses (.get key) s env
  rw [ho] at hwritten hset
  exact Except.ok.inj ((hwritten _ key o List.prefix_rfl).symm.trans (hset _ key o List.prefix_rfl))

section Telling

variable {env : Environment} {s : σ} (absent : env.directory? path = none)
  (fits : ∀ key, K key → Fits path key)
  (plain : ∀ v, V v → (∃ e, v.storable = .error e) ∨ Kept v)
  (faithful : ∀ uses, (∀ use ∈ uses, use.Over K V) →
    Faithful (Action.history (Use.on (.files path)) uses s env))
  {v : Value} (hv : V v) (hkept : Kept v) (hne : v ≠ .null)

include absent fits plain faithful hv hkept hne

/-- With one file for two keys, the one would be answered with the value of the other. -/
theorem apart_of_faithful {key other : String} (hkey : K key) (hother : K other)
    (hname : fileName key = fileName other) : key = other := by
  by_contra hdifferent
  have hover : ∀ use ∈ [Use.set key v], use.Over K V := List.forall_mem_singleton.2 ⟨hkey, hv⟩
  have hsame := lastWritten_of_faithful absent fits plain faithful hover hother
  have hwritten : lastWritten (fileName other)
      (Action.history (Use.on (.files path)) [.set key v] s env) = v := by
    simp only [Action.history, Action.outcomes, List.map_cons, List.map_nil, List.zip_cons_cons,
      List.zip_nil_left, lastWritten, lastLeft, List.foldl_cons, List.foldl_nil, leave, hname,
      BEq.rfl, isOk_set_of_kept (fits key hkey) hkept, ↓reduceIte]
  have hlast : lastSet other (Action.history (Use.on (.files path)) [.set key v] s env) = .null :=
    if_neg fun h => hdifferent (eq_of_beq h)
  exact hne (hwritten.symm.trans (hsame.trans hlast))

/-- A failure in setting a key would leave an empty file in place of the value before. -/
theorem kept_of_faithful {key : String} {value : Value} (hkey : K key) (hvalue : V value) :
    Kept value := by
  refine (plain value hvalue).resolve_left ?_
  rintro ⟨e, he⟩
  have hover : ∀ use ∈ [Use.set key v, .set key value], use.Over K V :=
    List.forall_mem_cons.2 ⟨⟨hkey, hv⟩, List.forall_mem_singleton.2 ⟨hkey, hvalue⟩⟩
  have hsame := lastWritten_of_faithful absent fits plain faithful hover hkey
  have hfails : ∀ (s : σ) env,
      (((Use.set key value).on (.files path)).perform s env).result.isOk = false := by
    intro s env
    rw [isOk_set (fits key hkey), he]
    rfl
  simp only [Action.history, Action.outcomes, List.map_cons, List.map_nil, List.zip_cons_cons,
    List.zip_nil_left, lastWritten, lastSet, lastLeft, List.foldl_cons, List.foldl_nil, leave,
    BEq.rfl, isOk_set_of_kept (fits key hkey) hkept, hfails, Bool.false_eq_true, ↓reduceIte,
    id] at hsame
  exact hne hsame.symm

end Telling

end Files

/-- A key whose file cannot have its name cannot be read once setting it has made the directory. -/
theorem fits_of_faithful {path key : String} {value : Value} {s : σ} {env : Environment}
    (faithful : Faithful (Action.history (Use.on (.files path)) [.set key value, .get key] s env)) :
    Fits path key := by
  by_contra hfits
  let o := ((Use.set key value).on (.files path)).perform s env.nextStep
  have ho : o = _ := perform_silently _ s env.nextStep
  rw [set_of_not_fits hfits] at ho
  have made : (o.environment.nextStep.directory? path).isSome = true := by
    rw [ho]
    exact Environment.directory?_makeDirectory path env.nextStep
  have hanswer := faithful [(.set key value, o)] key _ List.prefix_rfl
  have hget : ((Use.get key).on (.files path)).perform o.state o.environment.nextStep = _ :=
    get_of_not_fits hfits o.state made
  rw [hget] at hanswer
  cases hanswer

/-- Over keys and values of any kind, a directory that is not there at first is as faithful as a
cache in memory exactly when the files of the keys can have their names, no two of the names are the
same, and all values can be kept. Of keys whose files can have their names it always answers with
what was last written into the file. -/
theorem files_faithful_iff {path : String} {number : Nat} {env : Environment}
    (absent : env.directory? path = none) (empty : env.memories[number]? = some [])
    {V : Value → Prop} (plain : ∀ v, V v → (∃ e, v.storable = .error e) ∨ Kept v)
    (telling : ∃ v, V v ∧ Kept v ∧ v ≠ .null) (K : String → Prop) (s : σ) :
    (∀ uses, Faithful (Action.history (Use.on (.memory number)) uses s env)) ∧
      ((∀ key, K key → Fits path key) → ∀ uses, (∀ use ∈ uses, use.Over K V) →
        Answered (fun key => lastWritten (fileName key))
          (Action.history (Use.on (.files path)) uses s env)) ∧
      ((∀ uses, (∀ use ∈ uses, use.Over K V) →
          Faithful (Action.history (Use.on (.files path)) uses s env)) ↔
        (∀ key, K key → Fits path key) ∧
        (∀ key other, K key → K other → fileName key = fileName other → key = other) ∧
        ∀ key value, K key → V value → Kept value) := by
  refine ⟨fun uses => faithful_memory empty uses s,
    fun fits uses hover => answered_files absent fits plain hover s, fun faithful => ?_, ?_⟩
  swap
  · rintro ⟨fits, apart, kept⟩ uses hover
    exact faithful_files absent fits apart plain kept hover s
  obtain ⟨v, hv, hkept, hne⟩ := telling
  have fits : ∀ key, K key → Fits path key := by
    intro key hkey
    have hover : ∀ use ∈ [Use.set key v, .get key], use.Over K V :=
      List.forall_mem_cons.2 ⟨⟨hkey, hv⟩, List.forall_mem_singleton.2 hkey⟩
    exact fits_of_faithful (faithful _ hover)
  refine ⟨fits, fun key other hkey hother => ?_, fun key value hkey hvalue => ?_⟩
  · exact apart_of_faithful absent fits plain faithful hv hkept hne hkey hother
  · exact kept_of_faithful absent fits plain faithful hv hkept hne hkey hvalue

theorem files_faithful_over_two_keys :
    ({} : Environment).directory? "meta" = none ∧
      { memories := [[]] : Environment }.memories[0]? = some [] ∧
      ∀ uses, (∀ use ∈ uses, use.Over (fun key => key = "A" ∨ key = "B") (· = .bool true)) →
        Faithful (Action.history (Use.on (.files "meta")) uses () { memories := [[]] }) := by
  have kept : Kept (.bool true) := ⟨.bool true, rfl, rfl⟩
  obtain ⟨-, -, hiff⟩ := @files_faithful_iff Unit "meta" 0 { memories := [[]] } rfl rfl
    (· = .bool true) (fun v hv => .inr (hv ▸ kept)) ⟨.bool true, rfl, kept, nofun⟩
    (fun key => key = "A" ∨ key = "B") ()
  refine ⟨rfl, rfl, hiff.2 ⟨?_, ?_, fun key value _ hvalue => hvalue ▸ kept⟩⟩
  · rintro key (rfl | rfl) <;> decide
  · rintro key other (rfl | rfl) (rfl | rfl) hname
    · rfl
    · cases hname
    · cases hname
    · rfl

/-- Two keys with one file, and a value that has no form in files. -/
theorem files_unfaithful :
    ¬Faithful (Action.history (Use.on (.files "meta"))
        [.set "A$B" (.bool true), .set "A#B" (.bool false), .get "A$B"] () {}) ∧
      ¬Faithful (Action.history (Use.on (.files "meta"))
        [.set "A" (.bool true), .set "A" (.decimal (.finite false 1 0)), .get "A"] () {}) := by
  refine ⟨fun h => ?_, fun h => ?_⟩
  · have hanswer : Except.ok (Value.bool false) = .ok (.bool true) :=
      h [_, _] "A$B" _ List.prefix_rfl
    cases hanswer
  · have hanswer : Except.ok Value.null = .ok (.bool true) := h [_, _] "A" _ List.prefix_rfl
    cases hanswer

end OracleCatalog.Cache
