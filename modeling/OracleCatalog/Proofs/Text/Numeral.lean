import OracleCatalog.Text.Numeral

/-!
# Numerals that are written and read

An integer that is written in decimal is read back as it was, as long as it has no more digits than
a numeral may have. The digits are followed through writing as numbers below ten, and a bound on the
integer bounds their count.
-/

namespace OracleCatalog.Text

/-! ### Digits -/

theorem decimalDigit?_digitChar : ∀ d < 10, decimalDigit? (digitChar d) = some d := by decide

/-- No digit is taken for an underscore, a sign, a blank or a comma. -/
theorem digitChar_plain : ∀ d < 10, digitChar d ≠ '_' ∧ digitChar d ≠ '-' ∧ digitChar d ≠ '+' ∧
    digitChar d ≠ ',' ∧ isNumeralBlank (digitChar d) = false := by decide

theorem digitsValue_concat (ds : List Nat) (d : Nat) :
    digitsValue (ds ++ [d]) = 10 * digitsValue ds + d := by
  simp [digitsValue, List.foldl_append]

/-- The digits of a number without leading zeros. -/
structure IsDecimal (n : Nat) (ds : List Nat) : Prop where
  digits : ∀ d ∈ ds, d < 10
  value : digitsValue ds = n
  nonempty : ds ≠ []
  short : ∀ k, 0 < k → n < Nat.pow 10 k → ds.length ≤ k

theorem isDecimal_small {n : Nat} (h : n < 10) : IsDecimal n [n] := by
  refine ⟨?_, ?_, List.cons_ne_nil _ _, ?_⟩
  · intro d hd
    rw [List.mem_singleton.1 hd]
    exact h
  · simp [digitsValue]
  · intro k hk _
    exact hk

theorem IsDecimal.concat {n : Nat} {ds : List Nat} (h : IsDecimal (n / 10) ds) (large : 10 ≤ n) :
    IsDecimal n (ds ++ [n % 10]) := by
  refine ⟨?_, ?_, ?_, ?_⟩
  · intro d hd
    rcases List.mem_append.1 hd with hfront | hlast
    · exact h.digits d hfront
    · rw [List.mem_singleton.1 hlast]
      exact Nat.mod_lt n (by decide)
  · rw [digitsValue_concat, h.value]
    omega
  · simp
  · intro k hk hn
    rw [Nat.pow_eq] at hn
    cases k with
    | zero => exact absurd hk (Nat.lt_irrefl 0)
    | succ k =>
      have hsplit : (10 : Nat) ^ (k + 1) = 10 ^ k * 10 := Nat.pow_succ 10 k
      -- one digit alone cannot write a number from ten on
      have hpos : 0 < k := by
        refine Nat.pos_of_ne_zero fun hzero => ?_
        subst hzero
        omega
      have hquotient : n / 10 < 10 ^ k := by omega
      have hlength := h.short k hpos (Nat.pow_eq ▸ hquotient)
      simp only [List.length_append, List.length_singleton]
      omega

theorem digitsBefore_small (fuel : Nat) {n : Nat} (h : n < 10) (tail : List Char) :
    digitsBefore (fuel + 1) n tail = [n].map digitChar ++ tail := by
  rw [digitsBefore, Nat.mod_eq_of_lt h]
  exact if_pos h

/-- Writing puts the digits of the number in front, when there is fuel for all of them. -/
theorem exists_digitsBefore (fuel n : Nat) (enough : n < Nat.pow 10 (fuel + 1)) (tail : List Char) :
    ∃ ds, IsDecimal n ds ∧ digitsBefore (fuel + 1) n tail = ds.map digitChar ++ tail := by
  induction fuel generalizing n tail with
  | zero =>
    have hsmall : n < 10 := enough
    exact ⟨[n], isDecimal_small hsmall, digitsBefore_small 0 hsmall tail⟩
  | succ fuel ih =>
    by_cases hsmall : n < 10
    · exact ⟨[n], isDecimal_small hsmall, digitsBefore_small (fuel + 1) hsmall tail⟩
    · have hsplit : Nat.pow 10 (fuel + 1 + 1) = Nat.pow 10 (fuel + 1) * 10 := rfl
      have hquotient : n / 10 < Nat.pow 10 (fuel + 1) := by omega
      obtain ⟨ds, hds, hbefore⟩ := ih (n / 10) hquotient (digitChar (n % 10) :: tail)
      refine ⟨ds ++ [n % 10], hds.concat (by omega), ?_⟩
      rw [digitsBefore]
      simp only [hsmall, ↓reduceIte, hbefore, List.map_append, List.map_singleton,
        List.append_assoc, List.singleton_append]

theorem exists_natDigits (n : Nat) :
    ∃ ds, IsDecimal n ds ∧ natDigits n = ds.map digitChar := by
  have hlog : n < 2 ^ (n.log2 + 1) := Nat.lt_log2_self
  have hbase : 2 ^ (n.log2 + 1) ≤ 10 ^ (n.log2 + 1) := Nat.pow_le_pow_left (by decide) _
  have enough : n < Nat.pow 10 (n.log2 + 1) := Nat.lt_of_lt_of_le hlog hbase
  obtain ⟨ds, hds, hbefore⟩ := exists_digitsBefore n.log2 n enough []
  exact ⟨ds, hds, by simpa [natDigits] using hbefore⟩

/-! ### Reading digits -/

theorem digitRun_digits {ready : Bool} {ds : List Nat} (digits : ∀ d ∈ ds, d < 10)
    (h : ready = true ∨ ds ≠ []) : digitRun ready (ds.map digitChar) = some (ds, []) := by
  induction ds generalizing ready with
  | nil =>
    have hready : ready = true := h.resolve_right fun hne => hne rfl
    simp [digitRun, hready]
  | cons d rest ih =>
    obtain ⟨hd, hrest⟩ := List.forall_mem_cons.1 digits
    have hdigit := decimalDigit?_digitChar d hd
    have hplain := (digitChar_plain d hd).1
    have hrun : digitRun true (rest.map digitChar) = some (rest, []) := ih hrest (.inl rfl)
    rw [List.map_cons, digitRun]
    simp only [hplain, ↓reduceIte, hdigit, hrun, Option.map_some]

theorem readMagnitude_natDigits (negative : Bool) {n : Nat} (h : n < Nat.pow 10 digitLimit) :
    readMagnitude negative (natDigits n) = .integer (if negative then -(n : Int) else n) := by
  obtain ⟨ds, hds, hdigits⟩ := exists_natDigits n
  have hrun : digitRun false (ds.map digitChar) = some (ds, []) :=
    digitRun_digits hds.digits (.inr hds.nonempty)
  have hlength := hds.short digitLimit (by decide) h
  have hshort : ¬ digitLimit < ds.length := by omega
  unfold readMagnitude
  rw [hdigits, hrun]
  simp only [hshort, ↓reduceIte, List.all_nil, hds.value]

/-! ### Integers -/

theorem toList_intText (i : Int) : (intText i).toList =
    if i < 0 then '-' :: natDigits i.natAbs else natDigits i.natAbs := by
  unfold intText natText
  split
  · rw [String.toList_append, String.toList_ofList, String.toList_ofList]
    rfl
  · rw [String.toList_ofList]

theorem readInteger_intText {i : Int} (h : i.natAbs < Nat.pow 10 digitLimit) :
    readInteger (intText i) = .integer i := by
  have hminus : isNumeralBlank '-' = false := by decide
  unfold readInteger
  rw [toList_intText]
  by_cases hneg : i < 0
  · have hvalue : -(i.natAbs : Int) = i := by clear h; omega
    have hread := readMagnitude_natDigits true h
    rw [if_pos hneg, List.dropWhile_cons_of_neg (ne_true_of_eq_false hminus)]
    simp only [hread, ↓reduceIte, hvalue]
  · have hvalue : (i.natAbs : Int) = i := by clear h; omega
    have hread := readMagnitude_natDigits false h
    obtain ⟨ds, hds, hdigits⟩ := exists_natDigits i.natAbs
    rw [if_neg hneg]
    rw [hdigits] at hread ⊢
    cases ds with
    | nil => exact absurd rfl hds.nonempty
    | cons d rest =>
      obtain ⟨-, hnotMinus, hnotPlus, -, hnotBlank⟩ :=
        digitChar_plain d (hds.digits d List.mem_cons_self)
      rw [List.map_cons] at hread ⊢
      rw [List.dropWhile_cons_of_neg (ne_true_of_eq_false hnotBlank)]
      split
      · rename_i heq
        exact absurd (List.cons.inj heq).1 hnotMinus
      · rename_i heq
        exact absurd (List.cons.inj heq).1 hnotPlus
      · rw [hread, hvalue]
        rfl

/-- No numeral has a comma in it. -/
theorem comma_not_mem_intText (i : Int) : ',' ∉ (intText i).toList := by
  obtain ⟨ds, hds, hdigits⟩ := exists_natDigits i.natAbs
  have hnatural : ',' ∉ natDigits i.natAbs := by
    rw [hdigits]
    intro hmem
    obtain ⟨d, hd, hcomma⟩ := List.mem_map.1 hmem
    exact (digitChar_plain d (hds.digits d hd)).2.2.2.1 hcomma
  rw [toList_intText]
  split
  · simp [hnatural]
  · exact hnatural

end OracleCatalog.Text
