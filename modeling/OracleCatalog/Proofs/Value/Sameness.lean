import Mathlib.Algebra.Order.Field.Power
import Mathlib.Data.Rat.Cast.Order
import Mathlib.Tactic.LinearCombination
import OracleCatalog.Value.Basic

/-!
# Sameness of keys

Keys that are the same cannot be told apart by comparing them to a third one, although they may be
of different kinds: numbers are compared as the rational numbers that they stand for.
-/

namespace OracleCatalog.Value

/-! ### Numbers -/

namespace Number

/-- The rational number that a finite number stands for. -/
def rational (n : Int) (d : Nat) (e : Int) : ℚ := n / d * 10 ^ e

theorem magnitudeOrder_eq_iff (a : Nat) (e : Int) (b : Nat) (f : Int) :
    magnitudeOrder a e b f = .eq ↔ (a : ℚ) * 10 ^ e = b * 10 ^ f := by
  have hshift : ∀ {i j : Int} (x y : Nat), j ≤ i →
      (scaledOrder x (i - j).toNat y = .eq ↔ (x : ℚ) * 10 ^ i = y * 10 ^ j) := by
    intro i j x y hle
    obtain ⟨k, rfl⟩ := Int.exists_add_of_le hle
    have hk : (j + k - j).toNat = k := by omega
    have hpower : (10 : ℚ) ^ (j + k : Int) = 10 ^ k * 10 ^ j := by
      rw [zpow_add₀ (by norm_num), zpow_natCast, mul_comm]
    have hpos : (10 : ℚ) ^ j ≠ 0 := by positivity
    rw [hk, scaledOrder_eq, Nat.compare_eq_eq, hpower, ← mul_assoc, mul_left_inj' hpos]
    exact_mod_cast Iff.rfl
  unfold magnitudeOrder
  split
  · exact hshift a b (by assumption)
  · rename_i hlt
    have hswap := hshift b a (Int.le_of_lt (Int.not_le.1 hlt))
    rw [eq_comm (a := (a : ℚ) * _), ← hswap]
    cases scaledOrder b (f - e).toNat a <;> decide

/-- Finite numbers are equal in value exactly when their rational numbers are. -/
theorem order_eq_iff {n n' : Int} {d d' : Nat} (hd : 0 < d) (hd' : 0 < d') (e e' : Int) :
    order (.finite n d e) (.finite n' d' e') = some .eq ↔ rational n d e = rational n' d' e' := by
  have hcross : rational n d e = rational n' d' e' ↔
      (n : ℚ) * d' * 10 ^ e = n' * d * 10 ^ e' := by
    have hdQ : (d : ℚ) ≠ 0 := Nat.cast_ne_zero.2 hd.ne'
    have hdQ' : (d' : ℚ) ≠ 0 := Nat.cast_ne_zero.2 hd'.ne'
    unfold rational
    rw [div_mul_eq_mul_div, div_mul_eq_mul_div, div_eq_div_iff hdQ hdQ']
    constructor <;> intro h <;> linear_combination h
  have hpos : ∀ {m : Int} {k : Nat} (f : Int), 0 < k → (0 ≤ m ↔ (0 : ℚ) ≤ m * k * 10 ^ f) := by
    intro m k f hk
    have hfactor : (0 : ℚ) < k * 10 ^ f := mul_pos (Nat.cast_pos.2 hk) (by positivity)
    rw [mul_assoc, mul_nonneg_iff_of_pos_right hfactor]
    exact Int.cast_nonneg_iff.symm
  have habs : ∀ {m : Int}, 0 ≤ m → ((m.natAbs : ℕ) : ℚ) = m := by
    intro m hm
    rw [Nat.cast_natAbs, abs_of_nonneg hm]
  have hneg : ∀ {m : Int}, ¬0 ≤ m → ((m.natAbs : ℕ) : ℚ) = -m := by
    intro m hm
    rw [Nat.cast_natAbs, abs_of_neg (Int.not_le.1 hm), Int.cast_neg]
  rw [hcross]
  unfold order
  by_cases hn : 0 ≤ n
  · by_cases hn' : 0 ≤ n'
    · simp only [hn, hn', if_true, Option.some.injEq, magnitudeOrder_eq_iff, Nat.cast_mul, habs hn,
        habs hn']
    · simp only [hn, hn', if_true, if_false, Option.some.injEq]
      refine iff_of_false (by decide) fun heq => hn' ((hpos e' hd).2 ?_)
      exact heq ▸ (hpos e hd').1 hn
  · by_cases hn' : 0 ≤ n'
    · simp only [hn, hn', if_true, if_false, Option.some.injEq]
      refine iff_of_false (by decide) fun heq => hn ((hpos e hd').2 ?_)
      exact heq ▸ (hpos e' hd).1 hn'
    · have hswap : ∀ o : Ordering, o.swap = .eq ↔ o = .eq := by decide
      simp only [hn, hn', if_false, Option.some.injEq, hswap, magnitudeOrder_eq_iff, Nat.cast_mul,
        hneg hn, hneg hn', neg_mul, neg_inj]

/-- Whether the denominator of a finite number is one. -/
def IsFraction : Number → Prop
  | .finite _ d _ => 0 < d
  | _ => True

/-- What a number measures; what is not a number measures nothing. -/
def measure : Number → Option (ℚ ⊕ Bool)
  | .finite n d e => some (.inl (rational n d e))
  | .infinite negative => some (.inr negative)
  | .nan => none

theorem same_iff {m n : Number} (hm : m.IsFraction) (hn : n.IsFraction) :
    m.same n = true ↔ ∃ x, m.measure = some x ∧ n.measure = some x := by
  unfold same
  rw [beq_iff_eq]
  cases m with
  | finite i d e =>
    cases n with
    | finite j d' e' => simp [order_eq_iff hm hn, measure, eq_comm]
    | infinite negative => cases negative <;> simp [order, measure]
    | nan => simp [order, measure]
  | infinite negative =>
    cases n with
    | finite j d' e' => cases negative <;> simp [order, measure]
    | infinite other => cases negative <;> cases other <;> simp [order, measure]
    | nan => simp [order, measure]
  | nan => cases n <;> simp [order, measure]

theorem same_symm {m n : Number} (hm : m.IsFraction) (hn : n.IsFraction) (h : m.same n = true) :
    n.same m = true := by
  obtain ⟨x, hx, hx'⟩ := (same_iff hm hn).1 h
  exact (same_iff hn hm).2 ⟨x, hx', hx⟩

theorem same_trans {m n p : Number} (hm : m.IsFraction) (hn : n.IsFraction) (hp : p.IsFraction)
    (hmn : m.same n = true) (hnp : n.same p = true) : m.same p = true := by
  obtain ⟨x, hx, hx'⟩ := (same_iff hm hn).1 hmn
  obtain ⟨y, hy, hy'⟩ := (same_iff hn hp).1 hnp
  obtain rfl := Option.some.inj (hx'.symm.trans hy)
  exact (same_iff hm hp).2 ⟨x, hx, hy'⟩

end Number

theorem isFraction_of_number? {v : Value} {n : Number} (h : v.number? = some n) :
    n.IsFraction := by
  cases v with
  | bool b =>
    cases h
    exact Nat.one_pos
  | int i =>
    cases h
    exact Nat.one_pos
  | float x =>
    cases hread : Binary64.read x with
    | finite negative m e =>
      simp only [number?, hread, Option.some.injEq] at h
      subst h
      cases e with
      | ofNat k => exact Nat.one_pos
      | negSucc k => exact Nat.pow_pos (by decide)
    | infinite negative =>
      simp only [number?, hread, Option.some.injEq] at h
      exact h ▸ trivial
    | nan =>
      simp only [number?, hread, Option.some.injEq] at h
      exact h ▸ trivial
  | decimal d =>
    cases d with
    | finite negative c e =>
      cases h
      exact Nat.one_pos
    | infinite negative =>
      cases h
      trivial
    | nan negative signaling payload =>
      cases h
      trivial
  | _ => cases h

/-! ### Keys -/

theorem same_whole (i j : Int) : Number.same (.finite i 1 0) (.finite j 1 0) = (i == j) := by
  have hi : (Number.finite i 1 0).IsFraction := Nat.one_pos
  have hj : (Number.finite j 1 0).IsFraction := Nat.one_pos
  rw [Bool.eq_iff_iff, Number.same_iff hi hj, beq_iff_eq]
  simp [Number.measure, Number.rational, eq_comm]

/-- A value that stands for a number is the same as those that stand for the same one. -/
theorem same_of_number? {v w : Value} {m : Number} (hv : v.number? = some m) :
    same v w = w.number?.any m.same := by
  cases v with
  | int i =>
    cases w with
    | int j =>
      cases hv
      exact (same_whole i j).symm
    | _ => unfold same; rw [hv]; cases number? _ <;> rfl
  | bool b => cases w <;> (unfold same; rw [hv]; cases number? _ <;> rfl)
  | float x => cases w <;> (unfold same; rw [hv]; cases number? _ <;> rfl)
  | decimal d => cases w <;> (unfold same; rw [hv]; cases number? _ <;> rfl)
  | _ => cases hv

/-- Keys are the same as numbers, as tuples of keys that are the same, or because they are equal. -/
theorem same_cases {v w : Value} (hkey : v.isKey = true) (h : same v w = true) :
    (∃ m n, v.number? = some m ∧ w.number? = some n ∧ m.same n = true) ∨
      (∃ xs ys, v = .tuple xs ∧ w = .tuple ys ∧ sameAll xs ys = true) ∨ v = w := by
  cases hv : v.number? with
  | some m =>
    rw [same_of_number? hv] at h
    cases hw : w.number? with
    | some n =>
      rw [hw] at h
      exact .inl ⟨m, n, rfl, rfl, h⟩
    | none =>
      rw [hw] at h
      cases h
  | none =>
    refine .inr ?_
    cases v with
    | null => cases w <;> first | exact .inr rfl | cases h
    | text s =>
      cases w with
      | text t => exact .inr (congrArg text (eq_of_beq h))
      | _ => cases h
    | bytes b =>
      cases w with
      | bytes c => exact .inr (congrArg bytes (eq_of_beq h))
      | _ => cases h
    | lob i =>
      cases w with
      | lob j => exact .inr (congrArg lob (eq_of_beq h))
      | _ => cases h
    | tuple xs =>
      cases w with
      | tuple ys => exact .inl ⟨xs, ys, rfl, rfl, h⟩
      | _ => cases h
    | list xs => cases hkey
    | map es => cases hkey
    | bool b => cases hv
    | int i => cases hv
    | float x =>
      unfold number? at hv
      cases hread : Binary64.read x <;> simp [hread] at hv
    | decimal d => cases d <;> cases hv

mutual

theorem same_symm {a b : Value} (hkey : a.isKey = true) (h : same a b = true) :
    same b a = true := by
  obtain ⟨m, n, ha, hb, hmn⟩ | ⟨xs, ys, rfl, rfl, hall⟩ | rfl := same_cases hkey h
  · rw [same_of_number? hb, ha]
    exact Number.same_symm (isFraction_of_number? ha) (isFraction_of_number? hb) hmn
  · exact sameAll_symm hkey hall
  · exact h
termination_by sizeOf a

theorem sameAll_symm {xs ys : List Value} (hkeys : areKeys xs = true)
    (h : sameAll xs ys = true) : sameAll ys xs = true := by
  cases xs with
  | nil => cases ys <;> first | rfl | cases h
  | cons x xs =>
    cases ys with
    | nil => cases h
    | cons y ys =>
      obtain ⟨hx, hxs⟩ := Bool.and_eq_true_iff.1 hkeys
      obtain ⟨hhead, hrest⟩ := Bool.and_eq_true_iff.1 h
      exact Bool.and_eq_true_iff.2 ⟨same_symm hx hhead, sameAll_symm hxs hrest⟩
termination_by sizeOf xs

end

mutual

theorem same_trans {a b c : Value} (ha : a.isKey = true) (hb : b.isKey = true)
    (hab : same a b = true) (hbc : same b c = true) : same a c = true := by
  obtain ⟨m, n, hm, hn, hmn⟩ | ⟨xs, ys, rfl, rfl, hxy⟩ | rfl := same_cases ha hab
  · rw [same_of_number? hn] at hbc
    rw [same_of_number? hm]
    cases hp : c.number? with
    | none =>
      rw [hp] at hbc
      cases hbc
    | some p =>
      rw [hp] at hbc
      exact Number.same_trans (isFraction_of_number? hm) (isFraction_of_number? hn)
        (isFraction_of_number? hp) hmn hbc
  · obtain ⟨_, _, hnone, _⟩ | ⟨ys', zs, hys, rfl, hyz⟩ | rfl := same_cases hb hbc
    · cases hnone
    · cases hys
      exact sameAll_trans ha hb hxy hyz
    · exact hab
  · exact hbc
termination_by sizeOf a

theorem sameAll_trans {xs ys zs : List Value} (hxs : areKeys xs = true) (hys : areKeys ys = true)
    (hxy : sameAll xs ys = true) (hyz : sameAll ys zs = true) : sameAll xs zs = true := by
  cases xs with
  | nil =>
    cases ys with
    | nil => exact hyz
    | cons y ys => cases hxy
  | cons x xs =>
    cases ys with
    | nil => cases hxy
    | cons y ys =>
      cases zs with
      | nil => cases hyz
      | cons z zs =>
        obtain ⟨hx, hxs⟩ := Bool.and_eq_true_iff.1 hxs
        obtain ⟨hy, hys⟩ := Bool.and_eq_true_iff.1 hys
        obtain ⟨hxy, hrest⟩ := Bool.and_eq_true_iff.1 hxy
        obtain ⟨hyz, hrest'⟩ := Bool.and_eq_true_iff.1 hyz
        exact Bool.and_eq_true_iff.2
          ⟨same_trans hx hy hxy hyz, sameAll_trans hxs hys hrest hrest'⟩
termination_by sizeOf xs

end

end OracleCatalog.Value
