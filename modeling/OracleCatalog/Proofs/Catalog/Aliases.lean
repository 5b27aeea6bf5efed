import Mathlib.Data.List.DropRight
import OracleCatalog.Catalog.Aliases
import OracleCatalog.Proofs.OrderedMap
import OracleCatalog.Proofs.Session.Runs
import OracleCatalog.Proofs.Success

/-!
# What aliases stand for

Aliases are used in any order, and the collection behind them describes a name or fails as it likes.
An alias stands for a routine from the first success in describing or setting it until it is
removed: for the one that it was set to last, or else for the one that it was described as. As long
as it does, nothing is described for it, and its options cannot be changed.
-/

namespace OracleCatalog.Aliases

variable {σ : Type}

/-! ### Uses and their histories -/

inductive Use where
  | allOptions
  /-- Without options it asks for those that the alias has. -/
  | configure (key : String) (options : Value)
  | get (key : String) (given : Value)
  | set (key : String) (routine : Routine)
  | isDescribed (key : String)
  | remove (key : String)
  | clear

inductive Answer where
  | done
  | options (options : Value)
  | routine (routine : Routine)
  | truth (value : Bool)

/-- Puts changed aliases in the place of those that are there. -/
def alter (f : Aliases → Except Error Aliases) : Action (Aliases × σ) Answer := do
  let aliases ← Action.ofExcept (f (← Action.state).1)
  Action.change fun state => (aliases, state.2)
  return .done

namespace Use

/-- What a use does with a collection that describes names in a state of its own. -/
def on (describe : Value → Action σ Routine) : Use → Action (Aliases × σ) Answer
  | .allOptions => return .options (← Action.state).1.allOptions
  | .configure key .null => return .options (.map ((← Action.state).1.optionsOf key))
  | .configure key options => alter (·.configure key options)
  | .get key given => return .routine (← Aliases.get describe key given)
  | .set key routine => do
    let _ ← alter fun aliases => .ok (aliases.keep key routine)
    return .routine routine
  | .isDescribed key => return .truth ((← Action.state).1.exists? key)
  | .remove key => alter fun aliases => .ok (aliases.remove key)
  | .clear => alter fun aliases => .ok aliases.clear

/-- Whether a use ends what an alias stands for. -/
def forgets (key : String) : Use → Bool
  | .remove other => other == key
  | .clear => true
  | _ => false

/-- Whether a use is about an alias, by its name or by clearing all of them. -/
def concerns (key : String) : Use → Bool
  | .configure other _ => other == key
  | .get other _ => other == key
  | .set other _ => other == key
  | .isDescribed other => other == key
  | .remove other => other == key
  | .allOptions => false
  | .clear => true

end Use

abbrev Uses (σ : Type) := Action.History Use (Aliases × σ) Answer

/-- The uses behind the last one that ends what the alias stands for. -/
def since (key : String) (uses : Uses σ) : Uses σ := uses.rtakeWhile fun use => !use.1.forgets key

/-- The routine that an alias has been set to. -/
def setTo? (key : String) : Use × Outcome (Aliases × σ) Answer → Option Routine
  | (.set other routine, o) => if other = key ∧ o.result.isOk then some routine else none
  | _ => none

/-- The routine that has been got for an alias. -/
def gotten? (key : String) : Use × Outcome (Aliases × σ) Answer → Option Routine
  | (.get other _, o) =>
    match o.result with
    | .ok (.routine routine) => if other = key then some routine else none
    | _ => none
  | _ => none

/-- The routine that an alias stands for: the one that it was set to last, or else the one that was
got for it first. -/
def standsFor (key : String) (uses : Uses σ) : Option Routine :=
  ((since key uses).filterMap (setTo? key)).getLast?.or
    ((since key uses).filterMap (gotten? key)).head?

section Lists

variable {ι β : Type}

theorem getLast?_filterMap_concat (f : ι → Option β) (items : List ι) (item : ι) :
    ((items ++ [item]).filterMap f).getLast? = (f item).or (items.filterMap f).getLast? := by
  rw [List.filterMap_append, List.getLast?_append, List.filterMap_cons]
  cases f item <;> rfl

theorem head?_filterMap_concat (f : ι → Option β) (items : List ι) (item : ι) :
    ((items ++ [item]).filterMap f).head? = (items.filterMap f).head?.or (f item) := by
  rw [List.filterMap_append, List.head?_append, List.filterMap_cons]
  cases f item <;> rfl

end Lists

-- A set routine stands before one that was got, however late it was set; of those that were got, the
-- first stands. The order of `or` says so.
theorem standsFor_append (key : String) (uses : Uses σ) (use : Use)
    (o : Outcome (Aliases × σ) Answer) :
    standsFor key (uses ++ [(use, o)]) =
      if use.forgets key then none
      else (setTo? key (use, o)).or ((standsFor key uses).or (gotten? key (use, o))) := by
  unfold standsFor since
  rw [List.rtakeWhile_concat]
  cases hforgets : use.forgets key with
  | true => simp
  | false =>
    simp only [Bool.not_false, Bool.false_eq_true, ↓reduceIte, getLast?_filterMap_concat,
      head?_filterMap_concat, Option.or_assoc]

def succeeds (key : String) (use : Use × Outcome (Aliases × σ) Answer) : Bool :=
  (setTo? key use).isSome || (gotten? key use).isSome

theorem isSome_standsFor (key : String) (uses : Uses σ) :
    (standsFor key uses).isSome = (since key uses).any (succeeds key) := by
  rw [Bool.eq_iff_iff, List.any_eq_true]
  constructor
  · intro h
    by_contra hnone
    have hfails : ∀ use ∈ since key uses, setTo? key use = none ∧ gotten? key use = none := by
      intro use hmem
      have hfail : ¬succeeds key use = true := fun hsucceeds => hnone ⟨use, hmem, hsucceeds⟩
      simpa [succeeds] using hfail
    have hset : (since key uses).filterMap (setTo? key) = [] :=
      List.filterMap_eq_nil_iff.2 fun use hmem => (hfails use hmem).1
    have hgotten : (since key uses).filterMap (gotten? key) = [] :=
      List.filterMap_eq_nil_iff.2 fun use hmem => (hfails use hmem).2
    simp [standsFor, hset, hgotten] at h
  · rintro ⟨use, hmem, hsucceeds⟩
    by_contra hnone
    have hlists : (since key uses).filterMap (setTo? key) = [] ∧
        (since key uses).filterMap (gotten? key) = [] := by
      simpa only [standsFor, Option.not_isSome_iff_eq_none, Option.or_eq_none_iff,
        List.getLast?_eq_none_iff, List.head?_eq_none_iff] using hnone
    have hset := List.filterMap_eq_nil_iff.1 hlists.1 use hmem
    have hgotten := List.filterMap_eq_nil_iff.1 hlists.2 use hmem
    simp [succeeds, hset, hgotten] at hsucceeds

theorem setTo?_of_ne_set {use : Use} (h : ∀ key routine, use ≠ .set key routine) {key : String}
    {o : Outcome (Aliases × σ) Answer} : setTo? key (use, o) = none := by
  cases use with
  | set other routine => exact absurd rfl (h other routine)
  | _ => rfl

theorem eq_get_of_gotten? {use : Use} {key : String} {o : Outcome (Aliases × σ) Answer}
    {routine : Routine} (h : gotten? key (use, o) = some routine) :
    ∃ given, use = .get key given ∧ o.result = .ok (.routine routine) := by
  cases use with
  | get other given =>
    unfold gotten? at h
    dsimp only at h
    split at h
    · rename_i found hresult
      split at h
      · rename_i hkey
        obtain rfl := hkey
        obtain rfl := Option.some.inj h
        exact ⟨given, rfl, hresult⟩
      · cases h
    · cases h
  | _ => cases h

/-! ### One use -/

section Step

variable {describe : Value → Action σ Routine} {state : Aliases × σ} {env : Environment}

theorem perform_alter (f : Aliases → Except Error Aliases) (state : Aliases × σ)
    (env : Environment) :
    (alter f).perform state env =
      match f state.1 with
      | .ok aliases =>
        { result := .ok .done, state := (aliases, state.2), environment := env }
      | .error e => { result := .error e, state, environment := env } := by
  unfold alter
  simp only [Action.perform_bind, Action.perform_state, Outcome.andThen_ok,
    Action.perform_ofExcept]
  cases f state.1 <;> rfl

theorem perform_get_described {key : String} {routine : Routine}
    (h : OrderedMap.get? key state.1.described = some routine) (given : Value) :
    ((Use.get key given).on describe).perform state env =
      { result := .ok (.routine routine), state, environment := env } := by
  unfold Use.on Aliases.get
  simp only [Action.perform_bind, Action.perform_state, Outcome.andThen_ok, h]
  rfl

/-- The environment with the record of a description that is wanted. -/
def noted (key : String) (name : Value) (env : Environment) : Environment :=
  env.note .aliases .debug ("Describing method " ++ name.toText ++ " for alias " ++ key)

/-- An alias without a description keeps what the collection comes to, if that is a description. -/
theorem perform_get_missing {key : String} {given : Value}
    (h : OrderedMap.get? key state.1.described = none) :
    ((Use.get key given).on describe).perform state env =
      match state.1.nameFor key given with
      | .error e => { result := .error e, state, environment := env }
      | .ok name =>
        let o := (describe name).perform state.2 (noted key name env)
        match o.result with
        | .error e =>
          { result := .error e, state := (state.1, o.state), environment := o.environment }
        | .ok routine =>
          { result := .ok (.routine routine)
            state := (state.1.keep key routine, o.state)
            environment := o.environment } := by
  unfold Use.on Aliases.get
  simp only [Action.perform_bind, Action.perform_state, Outcome.andThen_ok, h,
    Action.perform_ofExcept]
  cases state.1.nameFor key given with
  | error e => rfl
  | ok name =>
    simp only [Outcome.andThen_ok, Action.perform_bind, Action.perform_note, Action.perform_within]
    unfold noted
    generalize (describe name).perform state.2 _ = o
    obtain ⟨result, s, env'⟩ := o
    cases result <;> rfl

theorem perform_configure {options : Value} (h : options ≠ .null) (key : String) :
    ((Use.configure key options).on describe).perform state env =
      (alter (·.configure key options)).perform state env := by
  cases options with
  | null => exact absurd rfl h
  | _ => rfl

theorem configure_eq_ok {aliases reached : Aliases} {key : String} {options : Value}
    (h : aliases.configure key options = .ok reached) :
    ∃ entries, reached = { aliases with options := aliases.options.put key entries } := by
  unfold configure at h
  cases hdescribed : aliases.exists? key with
  | true => simp [hdescribed] at h
  | false =>
    simp only [hdescribed, Bool.false_eq_true, ↓reduceIte] at h
    obtain ⟨entries, -, hreached⟩ := Error.ok_of_map h
    exact ⟨entries, hreached.symm⟩

/-- What a use answers and what it makes of the aliases. -/
inductive Turns (aliases : Aliases) : Use → Except Error Answer → Aliases → Prop where
  | same {use : Use} {answer : Except Error Answer} (kept : ∀ key, use.forgets key = false)
      (unset : ∀ key routine, use ≠ .set key routine)
      (recalled : ∀ key given routine, use = .get key given → answer = .ok (.routine routine) →
        OrderedMap.get? key aliases.described = some routine) : Turns aliases use answer aliases
  | described (key : String) (given : Value) (routine : Routine)
      (missing : OrderedMap.get? key aliases.described = none) :
      Turns aliases (.get key given) (.ok (.routine routine)) (aliases.keep key routine)
  | set (key : String) (routine : Routine) :
      Turns aliases (.set key routine) (.ok (.routine routine)) (aliases.keep key routine)
  | configured (key : String) (options : Value) (entries : Entries) :
      Turns aliases (.configure key options) (.ok .done)
        { aliases with options := aliases.options.put key entries }
  | removed (key : String) : Turns aliases (.remove key) (.ok .done) (aliases.remove key)
  | cleared : Turns aliases .clear (.ok .done) aliases.clear

theorem turns_get (key : String) (given : Value) :
    Turns state.1 (.get key given) (((Use.get key given).on describe).perform state env).result
      (((Use.get key given).on describe).perform state env).state.1 := by
  have hset : ∀ other routine, Use.get key given ≠ .set other routine := nofun
  cases hfound : OrderedMap.get? key state.1.described with
  | some routine =>
    rw [perform_get_described hfound]
    refine .same (fun _ => rfl) hset ?_
    intro other given' routine' huse hanswer
    cases huse
    cases hanswer
    exact hfound
  | none =>
    rw [perform_get_missing hfound]
    cases state.1.nameFor key given with
    | error e => exact .same (fun _ => rfl) hset nofun
    | ok name =>
      dsimp only
      cases ((describe name).perform state.2 (noted key name env)).result with
      | error e => exact .same (fun _ => rfl) hset nofun
      | ok routine => exact .described key given routine hfound

theorem turns_configure (key : String) (options : Value) :
    Turns state.1 (.configure key options)
      (((Use.configure key options).on describe).perform state env).result
      (((Use.configure key options).on describe).perform state env).state.1 := by
  have hset : ∀ other routine, Use.configure key options ≠ .set other routine := nofun
  by_cases hnull : options = .null
  · subst hnull
    exact .same (fun _ => rfl) hset nofun
  · rw [perform_configure hnull, perform_alter]
    cases hreached : state.1.configure key options with
    | error e => exact .same (fun _ => rfl) hset nofun
    | ok reached =>
      obtain ⟨entries, rfl⟩ := configure_eq_ok hreached
      exact .configured key options entries

theorem turns_on (use : Use) :
    Turns state.1 use ((use.on describe).perform state env).result
      ((use.on describe).perform state env).state.1 := by
  cases use with
  | allOptions => exact .same (fun _ => rfl) nofun nofun
  | configure key options => exact turns_configure key options
  | get key given => exact turns_get key given
  | set key routine => exact .set key routine
  | isDescribed key => exact .same (fun _ => rfl) nofun nofun
  | remove key => exact .removed key
  | clear => exact .cleared

theorem Turns.eq_of_error {aliases reached : Aliases} {use : Use} {e : Error}
    (h : Turns aliases use (.error e) reached) : reached = aliases := by
  cases h
  rfl

theorem Turns.apart {aliases reached : Aliases} {use : Use} {answer : Except Error Answer}
    (h : Turns aliases use answer reached) {key : String} (hkey : use.concerns key = false) :
    OrderedMap.get? key reached.options = OrderedMap.get? key aliases.options ∧
      OrderedMap.get? key reached.described = OrderedMap.get? key aliases.described := by
  cases h with
  | same => exact ⟨rfl, rfl⟩
  | described other given routine missing =>
    have hne : key ≠ other := (beq_eq_false_iff_ne.1 hkey).symm
    exact ⟨rfl, OrderedMap.get?_put_of_ne hne _ _⟩
  | set other routine =>
    have hne : key ≠ other := (beq_eq_false_iff_ne.1 hkey).symm
    exact ⟨rfl, OrderedMap.get?_put_of_ne hne _ _⟩
  | configured other options entries =>
    have hne : key ≠ other := (beq_eq_false_iff_ne.1 hkey).symm
    exact ⟨OrderedMap.get?_put_of_ne hne _ _, rfl⟩
  | removed other =>
    have hne : key ≠ other := (beq_eq_false_iff_ne.1 hkey).symm
    exact ⟨OrderedMap.get?_erase_of_ne hne _, OrderedMap.get?_erase_of_ne hne _⟩
  | cleared => cases hkey

end Step

/-! ### Any uses -/

/-- The descriptions are what the aliases stand for. -/
structure Standing (uses : Uses σ) (aliases : Aliases) : Prop where
  distinct : (OrderedMap.keys aliases.described).Nodup
  found : ∀ key, OrderedMap.get? key aliases.described = standsFor key uses

namespace Standing

variable {uses : Uses σ} {aliases reached : Aliases}

theorem exists?_eq (standing : Standing uses aliases) (key : String) :
    aliases.exists? key = (standsFor key uses).isSome := by
  unfold exists? OrderedMap.has
  rw [standing.found]

theorem found_append (standing : Standing uses aliases) {use : Use}
    {o : Outcome (Aliases × σ) Answer} (kept : ∀ key, use.forgets key = false)
    (unset : ∀ key routine, use ≠ .set key routine)
    (recalled : ∀ key given routine, use = .get key given → o.result = .ok (.routine routine) →
      OrderedMap.get? key aliases.described = some routine) (key : String) :
    OrderedMap.get? key aliases.described = standsFor key (uses ++ [(use, o)]) := by
  rw [standsFor_append, kept key, setTo?_of_ne_set unset, standing.found]
  simp only [Bool.false_eq_true, ↓reduceIte, Option.none_or]
  cases hgotten : gotten? key (use, o) with
  | none => exact (Option.or_none).symm
  | some routine =>
    obtain ⟨given, huse, hresult⟩ := eq_get_of_gotten? hgotten
    have hfound := recalled key given routine huse hresult
    rw [standing.found] at hfound
    rw [hfound, Option.some_or]

/-- A use that keeps a routine for an alias, as the one set or as the first one got. -/
theorem keep (standing : Standing uses aliases) {use : Use} {o : Outcome (Aliases × σ) Answer}
    {key : String} {routine : Routine} (kept : ∀ other, use.forgets other = false)
    (stands : (setTo? key (use, o)).or ((standsFor key uses).or (gotten? key (use, o))) =
      some routine)
    (apart : ∀ other, other ≠ key →
      setTo? other (use, o) = none ∧ gotten? other (use, o) = none) :
    Standing (uses ++ [(use, o)]) (aliases.keep key routine) := by
  refine ⟨OrderedMap.nodup_keys_put standing.distinct key routine, fun other => ?_⟩
  rw [standsFor_append, kept other]
  by_cases hkey : other = key
  · subst hkey
    have hnow : OrderedMap.get? other (aliases.keep other routine).described = some routine :=
      OrderedMap.get?_put_self _ _ _
    rw [hnow]
    exact stands.symm
  · obtain ⟨hset, hgotten⟩ := apart other hkey
    have hnow : OrderedMap.get? other (aliases.keep key routine).described =
        OrderedMap.get? other aliases.described := OrderedMap.get?_put_of_ne hkey _ _
    rw [hnow, hset, hgotten, standing.found]
    exact (Option.or_none).symm

theorem step (standing : Standing uses aliases) {use : Use} {o : Outcome (Aliases × σ) Answer}
    (h : Turns aliases use o.result o.state.1) :
    Standing (uses ++ [(use, o)]) o.state.1 := by
  obtain ⟨result, ⟨reached, s⟩, env⟩ := o
  dsimp only at h ⊢
  cases h with
  | same kept unset recalled =>
    exact ⟨standing.distinct, standing.found_append kept unset recalled⟩
  | configured key options entries =>
    exact ⟨standing.distinct, standing.found_append (fun _ => rfl) nofun nofun⟩
  | described key given routine missing =>
    have hnone : standsFor key uses = none := (standing.found key).symm.trans missing
    refine standing.keep (fun _ => rfl) ?_ fun other hother => ⟨rfl, ?_⟩
    · simp [setTo?, gotten?, hnone]
    · simp [gotten?, Ne.symm hother]
  | set key routine =>
    refine standing.keep (fun _ => rfl) ?_ fun other hother => ⟨?_, rfl⟩
    · simp [setTo?, Except.isOk, Except.toBool]
    · simp [setTo?, Ne.symm hother]
  | removed key =>
    refine ⟨standing.distinct.sublist (OrderedMap.keys_erase_sublist key _), fun other => ?_⟩
    rw [standsFor_append, ← standing.found, remove, OrderedMap.get?_erase standing.distinct]
    by_cases hkey : other = key
    · simp [Use.forgets, hkey]
    · simp [Use.forgets, hkey, Ne.symm hkey, setTo?, gotten?]
  | cleared =>
    refine ⟨List.nodup_nil, fun other => ?_⟩
    rw [standsFor_append]
    rfl

end Standing

/-- What a use comes to behind earlier ones. -/
structure Answers (describe : Value → Action σ Routine) (earlier : Uses σ) (use : Use)
    (state : Aliases × σ) (env : Environment) (o : Outcome (Aliases × σ) Answer) : Prop where
  known : ∀ key, use = .isDescribed key →
    o = { result := .ok (.truth (standsFor key earlier).isSome), state, environment := env }
  /-- Whatever options are given and however names are described, nothing is described. -/
  recalled : ∀ key given routine, use = .get key given → standsFor key earlier = some routine →
    o = { result := .ok (.routine routine), state, environment := env }
  /-- Without a routine the alias is described under the name that the options give. -/
  described : ∀ key given name, use = .get key given → standsFor key earlier = none →
    state.1.nameFor key given = .ok name →
      let described := (describe name).perform state.2 (noted key name env)
      o.result = described.result.map .routine ∧ o.state.2 = described.state ∧
        o.environment = described.environment
  refused : ∀ key options, use = .configure key options → options ≠ .null →
    (standsFor key earlier).isSome = true →
      o = { result := .error (.refused (.alreadyDescribed key)), state, environment := env }
  configured : ∀ key entries, use = .configure key (.map entries) → standsFor key earlier = none →
    o = { result := .ok .done
          state := ({ state.1 with options := state.1.options.put key entries }, state.2)
          environment := env }
  /-- A use that fails, because describing does or otherwise, leaves the aliases as they were. -/
  failed : ∀ e, o.result = .error e → o.state.1 = state.1
  apart : ∀ key, use.concerns key = false →
    OrderedMap.get? key o.state.1.options = OrderedMap.get? key state.1.options ∧
      OrderedMap.get? key o.state.1.described = OrderedMap.get? key state.1.described

theorem answers_on {describe : Value → Action σ Routine} {earlier : Uses σ}
    {state : Aliases × σ} (standing : Standing earlier state.1) (use : Use) (env : Environment) :
    Answers describe earlier use state env ((use.on describe).perform state env) where
  known := by
    rintro key rfl
    rw [← standing.exists?_eq]
    rfl
  recalled := by
    rintro key given routine rfl hfound
    exact perform_get_described ((standing.found key).trans hfound) given
  described := by
    rintro key given name rfl hmissing hname
    rw [perform_get_missing ((standing.found key).trans hmissing), hname]
    dsimp only
    cases ((describe name).perform state.2 (noted key name env)).result <;> exact ⟨rfl, rfl, rfl⟩
  refused := by
    rintro key options rfl hnull hfound
    rw [← standing.exists?_eq] at hfound
    rw [perform_configure hnull, perform_alter]
    simp only [configure, hfound, ↓reduceIte]
  configured := by
    rintro key entries rfl hmissing
    have hfresh : state.1.exists? key = false := by
      rw [standing.exists?_eq, hmissing]
      rfl
    have hnull : Value.map entries ≠ .null := nofun
    rw [perform_configure hnull, perform_alter]
    simp only [configure, hfresh, Bool.false_eq_true, ↓reduceIte]
    rfl
  failed := by
    intro e he
    have hturns : Turns state.1 use ((use.on describe).perform state env).result _ := turns_on use
    rw [he] at hturns
    exact hturns.eq_of_error
  apart := fun key hkey => (turns_on use).apart hkey

/-- Behind any uses of new aliases, an alias has the description that it stands for, has one exactly
when it has been set or got with success since it was last removed, and the next use comes to what
such aliases answer. -/
theorem stands_since_first_success (describe : Value → Action σ Routine) (routines : Routines)
    (s : σ) (env : Environment) (uses : List Use) :
    let earlier := Action.history (Use.on describe) uses ({ routines }, s) env
    let reached := Action.ending (uses.map (Use.on describe)) ({ routines }, s) env
    (∀ key, OrderedMap.get? key reached.1.1.described = standsFor key earlier ∧
      reached.1.1.exists? key = (since key earlier).any (succeeds key)) ∧
      ∀ use, Answers describe earlier use reached.1 reached.2.nextStep
        ((use.on describe).perform reached.1 reached.2.nextStep) := by
  have start : Standing ([] : Uses σ) { routines } := ⟨List.nodup_nil, fun _ => rfl⟩
  -- The invariant needs nothing of a use, so the condition on uses is trivial.
  have hstep : ∀ (earlier : Uses σ) (use : Use) (state : Aliases × σ) (env : Environment),
      (fun _ : Use => True) use → Standing earlier state.1 →
        let o := (use.on describe).perform state env.nextStep
        Standing (earlier ++ [(use, o)]) o.state.1 :=
    fun earlier use state env _ standing => standing.step (turns_on use)
  intro earlier reached
  have standing : Standing ([] ++ earlier) reached.1.1 :=
    Action.invariant_of_history hstep (fun _ _ => trivial) start
  rw [List.nil_append] at standing
  refine ⟨fun key => ⟨standing.found key, ?_⟩, fun use => answers_on standing use _⟩
  rw [standing.exists?_eq, isSome_standsFor]

end OracleCatalog.Aliases
