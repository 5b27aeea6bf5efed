import OracleCatalog.Proofs.Success
import OracleCatalog.Value.Members

/-!
# Computations that answer or refuse

A refusal says that a value of the right kind is not allowed. The lemmas here tell which
computations fail in no other way; of reading a value as a map, that depends on the first member that
is no pair.
-/

namespace OracleCatalog

variable {α β : Type}

def Error.IsRefusal : Error → Prop
  | .refused _ => True
  | _ => False

/-- The outcome is an answer that is as it should be, or a refusal. -/
def AnswersOrRefuses (outcome : Except Error α) (good : α → Prop) : Prop :=
  match outcome with
  | .ok a => good a
  | .error e => e.IsRefusal

section Outcomes

variable {outcome : Except Error α} {good : α → Prop}

@[simp] theorem answersOrRefuses_ok {a : α} : AnswersOrRefuses (.ok a) good ↔ good a := Iff.rfl

@[simp] theorem answersOrRefuses_refused {refusal : Refusal} :
    AnswersOrRefuses (.error (.refused refusal)) good := trivial

theorem answersOrRefuses_congr {good' : α → Prop} (h : ∀ a, good a ↔ good' a) :
    AnswersOrRefuses outcome good ↔ AnswersOrRefuses outcome good' := by
  cases outcome with
  | error e => rfl
  | ok a => exact h a

theorem answersOrRefuses_bind {next : α → Except Error β} {good : β → Prop} :
    AnswersOrRefuses (outcome >>= next) good ↔
      AnswersOrRefuses outcome fun a => AnswersOrRefuses (next a) good := by
  cases outcome <;> rfl

theorem answersOrRefuses_map {f : α → β} {good : β → Prop} :
    AnswersOrRefuses (outcome.map f) good ↔ AnswersOrRefuses outcome fun a => good (f a) := by
  cases outcome <;> rfl

/-- Whether the failure is a refusal and whether the answer is good are separate questions. -/
theorem answersOrRefuses_iff :
    AnswersOrRefuses outcome good ↔
      AnswersOrRefuses outcome (fun _ => True) ∧ ∀ a, outcome = .ok a → good a := by
  cases outcome with
  | error e => exact ⟨fun h => ⟨h, nofun⟩, And.left⟩
  | ok a => exact ⟨fun h => ⟨trivial, fun b hb => Except.ok.inj hb ▸ h⟩, fun h => h.2 a rfl⟩

theorem answersOrRefuses_imp {premise : Prop} (h : AnswersOrRefuses outcome fun _ => True) :
    (AnswersOrRefuses outcome fun a => premise → good a) ↔
      (premise → AnswersOrRefuses outcome good) := by
  cases outcome with
  | error e => exact ⟨fun _ _ => h, fun _ => h⟩
  | ok a => rfl

theorem answersOrRefuses_mapM {f : α → Except Error β} {xs : List α}
    (h : ∀ x ∈ xs, AnswersOrRefuses (f x) fun _ => True) :
    AnswersOrRefuses (xs.mapM f) fun _ => True := by
  induction xs with
  | nil => trivial
  | cons x rest ih =>
    obtain ⟨hx, hrest⟩ := List.forall_mem_cons.1 h
    rw [List.mapM_cons, answersOrRefuses_bind, answersOrRefuses_iff]
    refine ⟨hx, fun y _ => ?_⟩
    rw [answersOrRefuses_bind, answersOrRefuses_iff]
    exact ⟨ih hrest, fun ys _ => trivial⟩

end Outcomes

/-! ### Values as maps -/

namespace Value

/-- Two members, the first of which can be a key. -/
def isPair (v : Value) : Bool :=
  match v.members? with
  | some [key, _] => key.nonKey?.isNone
  | _ => false

/-- Members, but not two of them. -/
def IsMiscounted (v : Value) : Prop := ∃ members, v.members? = some members ∧ members.length ≠ 2

/-- Reading the value as a map succeeds or is refused: it is a map, or of its members the first one
that is no pair is only miscounted. -/
def Mappable : Value → Prop
  | .map _ => True
  | v => ∃ members, v.members? = some members ∧
      ∀ member, members.find? (fun member => !member.isPair) = some member → member.IsMiscounted

theorem pairAt_of_isPair {v : Value} (h : v.isPair = true) (index : Nat) :
    ∃ entry, pairAt index v = .ok entry := by
  unfold isPair at h
  unfold pairAt
  split at h
  · rename_i key value hmembers
    rw [hmembers]
    dsimp only
    unfold asKey
    rw [Option.isNone_iff_eq_none.1 h]
    exact ⟨(key, value), rfl⟩
  · cases h

theorem pairAt_of_not_isPair {v : Value} (h : v.isPair = false) (index : Nat) :
    ∃ e, pairAt index v = .error e ∧ (e.IsRefusal ↔ v.IsMiscounted) := by
  unfold pairAt IsMiscounted
  split
  · rename_i key value hmembers
    cases hpart : key.nonKey? with
    | none => simp [isPair, hmembers, hpart] at h
    | some part =>
      have hfault : ¬part.keyFault.IsRefusal := by cases part <;> exact id
      exact ⟨part.keyFault, by simp [asKey, hpart, Except.map], by simp [hmembers, hfault]⟩
  · rename_i members hcount hmembers
    have hlength : members.length ≠ 2 := by
      intro htwo
      match members, htwo with
      | [key, value], _ => exact hcount key value rfl
    exact ⟨_, rfl, fun _ => ⟨members, hmembers, hlength⟩, fun _ => trivial⟩
  · rename_i hmembers
    exact ⟨_, rfl, by simp [hmembers, Error.IsRefusal]⟩

/-- Pairs are written until a member is none; that member decides how it ends. -/
theorem answersOrRefuses_putPairs (members : List Value) (index : Nat) (entries : Entries) :
    AnswersOrRefuses (putPairs index entries members) (fun _ => True) ↔
      ∀ member, members.find? (fun member => !member.isPair) = some member →
        member.IsMiscounted := by
  induction members generalizing index entries with
  | nil => exact ⟨nofun, fun _ => trivial⟩
  | cons member rest ih =>
    unfold putPairs
    cases hpair : member.isPair with
    | true =>
      obtain ⟨entry, hentry⟩ := pairAt_of_isPair hpair index
      simp [hentry, hpair, ih]
    | false =>
      obtain ⟨e, he, hrefusal⟩ := pairAt_of_not_isPair hpair index
      simp [he, hpair, AnswersOrRefuses, hrefusal]

theorem answersOrRefuses_toEntries (v : Value) :
    AnswersOrRefuses v.toEntries (fun _ => True) ↔ v.Mappable := by
  cases v with
  | map entries => rfl
  | text s => simp [toEntries, members, members?, Mappable, answersOrRefuses_putPairs]
  | bytes b => simp [toEntries, members, members?, Mappable, answersOrRefuses_putPairs]
  | list items => simp [toEntries, members, members?, Mappable, answersOrRefuses_putPairs]
  | tuple items => simp [toEntries, members, members?, Mappable, answersOrRefuses_putPairs]
  | _ => simp [toEntries, members, members?, Mappable, AnswersOrRefuses, Error.IsRefusal]

end Value

end OracleCatalog
