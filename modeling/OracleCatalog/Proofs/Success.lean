import OracleCatalog.Journal

/-!
# Computations that succeed

A computation of several parts succeeds when each of its parts does. The lemmas here take a success
apart, for outcomes alone and for computations that write records on the way.
-/

namespace OracleCatalog

variable {α β : Type}

namespace Error

theorem ok_bind (a : α) (next : α → Except Error β) : (Except.ok a >>= next) = next a := rfl

theorem ok_of_bind {outcome : Except Error α} {next : α → Except Error β} {b : β}
    (h : (outcome >>= next) = .ok b) : ∃ a, outcome = .ok a ∧ next a = .ok b := by
  cases outcome with
  | error e => cases h
  | ok a => exact ⟨a, rfl, h⟩

theorem ok_of_map {outcome : Except Error α} {f : α → β} {b : β} (h : outcome.map f = .ok b) :
    ∃ a, outcome = .ok a ∧ f a = b := by
  cases outcome with
  | error e => cases h
  | ok a => exact ⟨a, rfl, Except.ok.inj h⟩

theorem map_bind_congr {γ : Type} {outcome : Except Error α} {next : α → Except Error β}
    {next' : α → Except Error γ} {f : γ → β} (h : ∀ a, next a = (next' a).map f) :
    (outcome >>= next) = (outcome >>= next').map f := by
  cases outcome with
  | error e => rfl
  | ok a => exact h a

theorem mapM_cons_ok {f : α → Except Error β} {x : α} {y : β} {xs : List α} {ys : List β}
    (hx : f x = .ok y) (hxs : xs.mapM f = .ok ys) : (x :: xs).mapM f = .ok (y :: ys) := by
  rw [List.mapM_cons, hx, hxs]
  rfl

theorem ok_of_mapM_cons {f : α → Except Error β} {x : α} {xs : List α} {ys : List β}
    (h : (x :: xs).mapM f = .ok ys) :
    ∃ y rest, f x = .ok y ∧ xs.mapM f = .ok rest ∧ ys = y :: rest := by
  rw [List.mapM_cons] at h
  obtain ⟨y, hy, h⟩ := ok_of_bind h
  obtain ⟨rest, hrest, h⟩ := ok_of_bind h
  exact ⟨y, rest, hy, hrest, (Except.ok.inj h).symm⟩

/-- The answers for the members that satisfy a test are the answers that satisfy its counterpart. -/
theorem mapM_filter {f : α → Except Error β} {p : α → Bool} {q : β → Bool} {xs : List α}
    {ys : List β} (hpq : ∀ x ∈ xs, ∀ y, f x = .ok y → p x = q y) (h : xs.mapM f = .ok ys) :
    (xs.filter p).mapM f = .ok (ys.filter q) := by
  induction xs generalizing ys with
  | nil =>
    cases h
    rfl
  | cons x xs ih =>
    obtain ⟨y, rest, hy, hrest, rfl⟩ := ok_of_mapM_cons h
    have ih' := ih (fun x' hx' => hpq x' (List.mem_cons_of_mem _ hx')) hrest
    rw [List.filter_cons, List.filter_cons, ← hpq x List.mem_cons_self y hy]
    cases p x with
    | false => exact ih'
    | true => exact mapM_cons_ok hy ih'

/-- Answers that can be read off other answers are there when those are. -/
theorem mapM_of_mapM {γ : Type} {f : α → Except Error β} {g : α → Except Error γ} {r : β → List γ}
    {xs : List α} {ys : List β}
    (hfg : ∀ x ∈ xs, ∀ y, f x = .ok y → ∃ z, g x = .ok z ∧ r y = [z]) (h : xs.mapM f = .ok ys) :
    xs.mapM g = .ok (ys.flatMap r) := by
  induction xs generalizing ys with
  | nil =>
    cases h
    rfl
  | cons x xs ih =>
    obtain ⟨y, rest, hy, hrest, rfl⟩ := ok_of_mapM_cons h
    obtain ⟨z, hz, hr⟩ := hfg x List.mem_cons_self y hy
    have hothers := ih (fun x' hx' => hfg x' (List.mem_cons_of_mem _ hx')) hrest
    rw [List.flatMap_cons, hr]
    exact mapM_cons_ok hz hothers

theorem mapM_congr {f g : α → Except Error β} {xs : List α} (h : ∀ x ∈ xs, f x = g x) :
    xs.mapM f = xs.mapM g := by
  induction xs with
  | nil => rfl
  | cons x rest ih =>
    obtain ⟨hx, hrest⟩ := List.forall_mem_cons.1 h
    rw [List.mapM_cons, List.mapM_cons, hx, ih hrest]

/-- Members that are read back from what was made of them are read back together. -/
theorem mapM_map_ok {f : β → Except Error α} {g : α → β} {xs : List α}
    (h : ∀ x ∈ xs, f (g x) = .ok x) : (xs.map g).mapM f = .ok xs := by
  induction xs with
  | nil => rfl
  | cons x rest ih =>
    have hx := h x List.mem_cons_self
    have hrest := ih fun y hy => h y (List.mem_cons_of_mem _ hy)
    exact mapM_cons_ok hx hrest

/-- Where every member has an answer, there are answers for all of them. -/
theorem mapM_eq_map {f : α → Except Error β} {g : α → β} {xs : List α}
    (h : ∀ x ∈ xs, f x = .ok (g x)) : xs.mapM f = .ok (xs.map g) := by
  induction xs with
  | nil => rfl
  | cons x rest ih =>
    have hx := h x List.mem_cons_self
    have hrest := ih fun y hy => h y (List.mem_cons_of_mem _ hy)
    exact mapM_cons_ok hx hrest

theorem exists_mapM {f : α → Except Error β} {xs : List α} (h : ∀ x ∈ xs, ∃ y, f x = .ok y) :
    ∃ ys, xs.mapM f = .ok ys := by
  induction xs with
  | nil => exact ⟨[], rfl⟩
  | cons x rest ih =>
    obtain ⟨y, hy⟩ := h x List.mem_cons_self
    obtain ⟨ys, hys⟩ := ih fun x' hx' => h x' (List.mem_cons_of_mem _ hx')
    exact ⟨y :: ys, mapM_cons_ok hy hys⟩

/-- Where a member has no answer, the failure is that of a member. -/
theorem error_of_mapM {f : α → Except Error β} {xs : List α} {x : α} {e : Error} (hx : x ∈ xs)
    (h : f x = .error e) : ∃ x' ∈ xs, ∃ e', f x' = .error e' ∧ xs.mapM f = .error e' := by
  induction xs with
  | nil => cases hx
  | cons first rest ih =>
    rw [List.mapM_cons]
    cases hfirst : f first with
    | error e' => exact ⟨first, List.mem_cons_self, e', hfirst, rfl⟩
    | ok y =>
      have hrest : x ∈ rest := by
        refine (List.mem_cons.1 hx).resolve_left fun heq => ?_
        rw [heq, hfirst] at h
        cases h
      obtain ⟨x', hx', e', hfx, hmap⟩ := ih hrest
      refine ⟨x', List.mem_cons_of_mem _ hx', e', hfx, ?_⟩
      rw [hmap]
      rfl

theorem mem_of_mapM {f : α → Except Error β} {xs : List α} {ys : List β} (h : xs.mapM f = .ok ys)
    {y : β} (hy : y ∈ ys) : ∃ x ∈ xs, f x = .ok y := by
  induction xs generalizing ys with
  | nil =>
    cases h
    cases hy
  | cons x xs ih =>
    obtain ⟨y', rest, hy', hrest, rfl⟩ := ok_of_mapM_cons h
    rcases List.mem_cons.1 hy with rfl | hy
    · exact ⟨x, List.mem_cons_self, hy'⟩
    · obtain ⟨x', hx', hfx⟩ := ih hrest hy
      exact ⟨x', List.mem_cons_of_mem _ hx', hfx⟩

theorem length_of_mapM {f : α → Except Error β} {xs : List α} {ys : List β}
    (h : xs.mapM f = .ok ys) : xs.length = ys.length := by
  induction xs generalizing ys with
  | nil =>
    cases h
    rfl
  | cons x xs ih =>
    obtain ⟨y, rest, -, hrest, rfl⟩ := ok_of_mapM_cons h
    exact congrArg (· + 1) (ih hrest)

theorem exists_of_mapM {f : α → Except Error β} {xs : List α} {ys : List β}
    (h : xs.mapM f = .ok ys) {x : α} (hx : x ∈ xs) : ∃ y ∈ ys, f x = .ok y := by
  induction xs generalizing ys with
  | nil => cases hx
  | cons x' xs ih =>
    obtain ⟨y', rest, hy', hrest, rfl⟩ := ok_of_mapM_cons h
    rcases List.mem_cons.1 hx with rfl | hx
    · exact ⟨y', List.mem_cons_self, hy'⟩
    · obtain ⟨y, hy, hfx⟩ := ih hrest hx
      exact ⟨y, List.mem_cons_of_mem _ hy, hfx⟩

end Error

namespace Noted

/-- The computation answers `a` when it starts behind some records and ends behind others. -/
def Gives (noted : Noted α) (before : List Record) (a : α) (after : List Record) : Prop :=
  noted.run.run before = (.ok a, after)

theorem gives_of_outcome {noted : Noted α} {a : α} (h : noted.outcome.1 = .ok a) :
    ∃ after, noted.Gives [] a after :=
  ⟨noted.outcome.2, Prod.ext h rfl⟩

theorem gives_bind {noted : Noted α} {next : α → Noted β} {before after : List Record} {b : β}
    (h : (noted >>= next).Gives before b after) :
    ∃ a middle, noted.Gives before a middle ∧ (next a).Gives middle b after := by
  unfold Gives ExceptT.run StateT.run at h ⊢
  simp only [bind, ExceptT.bind, ExceptT.mk, StateT.bind, ExceptT.bindCont] at h
  cases hn : noted before with
  | mk result middle =>
    rw [hn] at h
    cases result with
    | error e => cases h
    | ok a => exact ⟨a, middle, rfl, h⟩

theorem bind_gives {noted : Noted α} {next : α → Noted β} {before middle after : List Record}
    {a : α} {b : β} (h : noted.Gives before a middle) (hnext : (next a).Gives middle b after) :
    (noted >>= next).Gives before b after := by
  unfold Gives ExceptT.run StateT.run at h hnext ⊢
  simp only [bind, ExceptT.bind, ExceptT.mk, StateT.bind, ExceptT.bindCont]
  rw [h]
  exact hnext

theorem gives_ofExcept {outcome : Except Error α} {before after : List Record} {a : α}
    (h : (ofExcept outcome).Gives before a after) : outcome = .ok a :=
  congrArg Prod.fst h

theorem gives_pure {a b : α} {before after : List Record}
    (h : (pure a : Noted α).Gives before b after) : a = b :=
  Except.ok.inj (congrArg Prod.fst h)

theorem ok_bind (a : α) (next : α → Noted β) : (ofExcept (.ok a) >>= next) = next a := rfl

theorem map_ofExcept (f : α → β) (outcome : Except Error α) :
    f <$> ofExcept outcome = ofExcept (outcome.map f) := by
  cases outcome <;> rfl

theorem outcome_map (f : α → β) (noted : Noted α) :
    (f <$> noted).outcome = (noted.outcome.1.map f, noted.outcome.2) := by
  unfold outcome ExceptT.run StateT.run
  simp only [Functor.map, ExceptT.map, ExceptT.mk, StateT.bind, bind]
  cases noted [] with
  | mk result records => cases result <;> rfl

theorem result_bind_ofExcept (noted : Noted α) (next : α → Except Error β) :
    (noted >>= fun a => ofExcept (next a)).outcome.1 = noted.outcome.1 >>= next := by
  unfold outcome ExceptT.run StateT.run
  simp only [bind, ExceptT.bind, ExceptT.mk, StateT.bind]
  cases noted [] with
  | mk result records => cases result <;> rfl

/-- What follows a computation matters only behind the answers that it gives. -/
theorem run_bind_congr {noted : Noted α} {next next' : α → Noted β} {before : List Record}
    (h : ∀ a after, noted.Gives before a after → (next a).run.run after = (next' a).run.run after) :
    (noted >>= next).run.run before = (noted >>= next').run.run before := by
  unfold Gives at h
  unfold ExceptT.run StateT.run at h ⊢
  simp only [bind, ExceptT.bind, ExceptT.mk, StateT.bind, ExceptT.bindCont]
  cases hn : noted before with
  | mk result after =>
    cases result with
    | error e => rfl
    | ok a => exact h a after hn

end Noted

end OracleCatalog
