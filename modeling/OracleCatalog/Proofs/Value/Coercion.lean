import OracleCatalog.Value.Whole

/-!
# Coercing user input

Input that stands for no integer is taken for null. One kind of it is not: an infinite number has no
integer either, but fails with an error that is no refusal. A text can spell such a number.
-/

namespace OracleCatalog

open OracleCatalog.Text

/-! ### Texts that spell an infinity -/

namespace Decimal

def infinityWords : List (List Char) := ["inf".toList, "infinity".toList]

/-- What counts of a numeral: its characters without blanks around and without underscores. -/
def numeralCore (s : String) : List Char := (trimBoth isBlank s.toList).filter (· ≠ '_')

/-- A text that spells an infinity, with a sign or without, in any letter case. -/
def SpellsInfinity (s : String) : Prop :=
  ∃ sign ∈ [[], ['+'], ['-']], ∃ word, word.map Char.toLower ∈ infinityWords ∧
    numeralCore s = sign ++ word

/-- A character that numerals take as it is and that is no digit. -/
def IsMark (c : Char) : Prop := plainChar c = some c ∧ c.isDigit = false

instance (c : Char) : Decidable (IsMark c) :=
  inferInstanceAs (Decidable (plainChar c = some c ∧ c.isDigit = false))

theorem isMark_of_toLower {c : Char} (h : c.toLower ∈ "infinity".toList) : IsMark c := by
  have hsmall : "infinity".toList.all (fun d => IsMark d) = true := by decide
  unfold Char.toLower at h
  split at h
  · rename_i hcapital
    have hlow : 65 ≤ c.toNat := UInt32.le_iff_toNat_le.1 hcapital.1
    have hhigh : c.toNat ≤ 90 := UInt32.le_iff_toNat_le.1 hcapital.2
    have hdigit : ¬c.val ≤ '9'.val := by
      intro hle
      have hnine : c.toNat ≤ 57 := UInt32.le_iff_toNat_le.1 hle
      omega
    unfold IsMark plainChar Char.isDigit
    rw [if_pos (by omega), if_neg (by omega), decide_eq_false hdigit, Bool.and_false]
    exact ⟨rfl, rfl⟩
  · exact of_decide_eq_true (List.all_eq_true.1 hsmall c h)

theorem isMark_of_sign {sign : List Char} (h : sign ∈ [[], ['+'], ['-']]) :
    ∀ c ∈ sign, IsMark c := by
  simp only [List.mem_cons, List.not_mem_nil, or_false] at h
  rcases h with rfl | rfl | rfl
  · exact List.forall_mem_nil _
  · exact List.forall_mem_singleton.2 ⟨rfl, rfl⟩
  · exact List.forall_mem_singleton.2 ⟨rfl, rfl⟩

theorem toLower_mem_of_word {word : List Char} (h : word.map Char.toLower ∈ infinityWords) :
    ∀ c ∈ word, c.toLower ∈ "infinity".toList := by
  have hstarts : ∀ w ∈ infinityWords, w <+: "infinity".toList := by decide
  exact fun c hc => (hstarts _ h).subset (List.mem_map_of_mem hc)

theorem isMark_of_word {word : List Char} (h : word.map Char.toLower ∈ infinityWords) :
    ∀ c ∈ word, IsMark c :=
  fun c hc => isMark_of_toLower (toLower_mem_of_word h c hc)

theorem ne_nil_of_word {word : List Char} (h : word.map Char.toLower ∈ infinityWords) :
    word ≠ [] := by
  rintro rfl
  exact absurd h (by decide)

theorem ne_sign_of_word {word : List Char} (h : word.map Char.toLower ∈ infinityWords) :
    ∀ c ∈ word, c ≠ '-' ∧ c ≠ '+' := by
  intro c hc
  have hletter := toLower_mem_of_word h c hc
  refine ⟨?_, ?_⟩
  · rintro rfl
    exact absurd hletter (by decide)
  · rintro rfl
    exact absurd hletter (by decide)

theorem isDigit_digitChar : ∀ d < 10, (digitChar d).isDigit = true := by decide

/-- Only digits change their script: what has become a mark was that mark. -/
theorem eq_of_plainChar {c d : Char} (h : plainChar c = some d) (hd : d.isDigit = false) :
    c = d := by
  unfold plainChar at h
  split at h
  · split at h
    · cases h
    · exact Option.some.inj h
  · obtain ⟨k, hk, rfl⟩ := Option.map_eq_some_iff.1 h
    unfold decimalDigit? at hk
    obtain ⟨first, hfirst, rfl⟩ := Option.map_eq_some_iff.1 hk
    have hbounds := List.find?_some hfirst
    simp only [Bool.and_eq_true, decide_eq_true_eq] at hbounds
    rw [isDigit_digitChar _ (by omega)] at hd
    cases hd

theorem mapM_plainChar_iff {raw cs : List Char} (h : ∀ c ∈ cs, IsMark c) :
    raw.mapM plainChar = some cs ↔ raw = cs := by
  constructor
  · intro hmap
    induction raw generalizing cs with
    | nil => exact Option.some.inj hmap
    | cons c raw ih =>
      rw [List.mapM_cons] at hmap
      obtain ⟨d, hd, hmap⟩ := Option.bind_eq_some_iff.1 hmap
      obtain ⟨ds, hds, hcs⟩ := Option.bind_eq_some_iff.1 hmap
      obtain rfl := Option.some.inj hcs
      obtain ⟨hmark, hmarks⟩ := List.forall_mem_cons.1 h
      rw [eq_of_plainChar hd hmark.2, ih hmarks hds]
  · rintro rfl
    induction raw with
    | nil => rfl
    | cons c raw ih =>
      obtain ⟨hmark, hmarks⟩ := List.forall_mem_cons.1 h
      rw [List.mapM_cons, hmark.1, ih hmarks]
      rfl

theorem plainNumeral_eq_some_iff {s : String} {cs : List Char} (h : ∀ c ∈ cs, IsMark c) :
    plainNumeral s = some cs ↔ numeralCore s = cs :=
  mapM_plainChar_iff h

/-! ### Reading an infinity -/

theorem readDigitsAndExponent_ne_infinite (negative : Bool) (cs : List Char) (sign : Bool) :
    readDigitsAndExponent negative cs ≠ some (.infinite sign) := by
  have hfinite (whole : List Char) (placed : List Char × List Char) :
      (if whole.isEmpty && placed.1.isEmpty then none
        else (readExponentPart placed.2).map fun exponent =>
          finite negative (digitsValue (whole ++ placed.1)) (exponent - placed.1.length)) ≠
        some (infinite sign) := by
    intro h
    split at h
    · cases h
    · obtain ⟨exponent, -, heq⟩ := Option.map_eq_some_iff.1 h
      cases heq
  exact hfinite _ _

theorem readUnsigned_infinite_iff (negative : Bool) (cs : List Char) :
    (∃ sign, readUnsigned negative cs = some (.infinite sign)) ↔
      cs.map Char.toLower ∈ infinityWords := by
  have hwords : cs.map Char.toLower ∈ infinityWords ↔
      (cs.map Char.toLower = "inf".toList || cs.map Char.toLower = "infinity".toList) = true := by
    unfold infinityWords
    rw [List.mem_cons, List.mem_singleton, Bool.or_eq_true, decide_eq_true_eq, decide_eq_true_eq]
  rw [hwords]
  unfold readUnsigned
  dsimp only
  split
  · exact iff_of_true ⟨negative, rfl⟩ ‹_›
  · refine iff_of_false ?_ ‹_›
    rintro ⟨sign, h⟩
    split at h
    · split at h <;> cases h
    · split at h
      · split at h <;> cases h
      · exact readDigitsAndExponent_ne_infinite negative cs sign h

theorem spellsInfinity_of_plainNumeral {s : String} (sign : List Char) {cs : List Char}
    {negative infinite : Bool} (hsign : sign ∈ [[], ['+'], ['-']])
    (hnumeral : plainNumeral s = some (sign ++ cs))
    (h : readUnsigned negative cs = some (.infinite infinite)) : SpellsInfinity s := by
  have hword := (readUnsigned_infinite_iff negative cs).1 ⟨infinite, h⟩
  have hmarks : ∀ c ∈ sign ++ cs, IsMark c :=
    List.forall_mem_append.2 ⟨isMark_of_sign hsign, isMark_of_word hword⟩
  exact ⟨sign, hsign, cs, hword, (plainNumeral_eq_some_iff hmarks).1 hnumeral⟩

theorem read?_infinite_iff (s : String) :
    (∃ negative, read? s = some (.infinite negative)) ↔ SpellsInfinity s := by
  constructor
  · rintro ⟨negative, h⟩
    unfold read? at h
    split at h
    · exact spellsInfinity_of_plainNumeral ['-'] (by decide) ‹_› h
    · exact spellsInfinity_of_plainNumeral ['+'] (by decide) ‹_› h
    · exact spellsInfinity_of_plainNumeral [] (by decide) ‹_› h
    · cases h
  · rintro ⟨sign, hsign, word, hword, hcore⟩
    have hmarks : ∀ c ∈ sign ++ word, IsMark c :=
      List.forall_mem_append.2 ⟨isMark_of_sign hsign, isMark_of_word hword⟩
    have hnumeral := (plainNumeral_eq_some_iff hmarks).2 hcore
    have hread (negative : Bool) := (readUnsigned_infinite_iff negative word).2 hword
    unfold read?
    rw [hnumeral]
    simp only [List.mem_cons, List.not_mem_nil, or_false] at hsign
    rcases hsign with rfl | rfl | rfl
    · obtain ⟨c, rest, rfl⟩ := List.exists_cons_of_ne_nil (ne_nil_of_word hword)
      obtain ⟨hminus, hplus⟩ := ne_sign_of_word hword c List.mem_cons_self
      split
      · rename_i heq
        exact absurd (List.cons.inj (Option.some.inj heq)).1 hminus
      · rename_i heq
        exact absurd (List.cons.inj (Option.some.inj heq)).1 hplus
      · rename_i heq
        obtain rfl := Option.some.inj heq
        exact hread false
      · rename_i heq
        cases heq
    · exact hread false
    · exact hread true

end Decimal

/-! ### Coercion -/

namespace Value

/-- A number without bound, or a text that spells one. -/
def IsInfinite : Value → Prop
  | .float x => ∃ negative, Binary64.read x = .infinite negative
  | .decimal d => ∃ negative, d = .infinite negative
  | .text s => Decimal.SpellsInfinity s
  | _ => False

/-- What a value is coerced to that is `infinite` or not: an infinite one is neither an integer nor
refused. -/
inductive Coerced (infinite : Prop) : Except Error Int → Prop
  | integer (i : Int) : ¬infinite → Coerced infinite (.ok i)
  | refused (refusal : Refusal) : ¬infinite → Coerced infinite (.error (.refused refusal))
  | unbounded {e : Error} : infinite → e = .infiniteFloat ∨ e = .infiniteDecimal →
      Coerced infinite (.error e)

theorem Coerced.congr {p q : Prop} {outcome : Except Error Int} (h : Coerced p outcome)
    (hpq : p ↔ q) : Coerced q outcome := by
  cases h with
  | integer i hp => exact .integer i (mt hpq.2 hp)
  | refused refusal hp => exact .refused refusal (mt hpq.2 hp)
  | unbounded hp he => exact .unbounded (hpq.1 hp) he

theorem wholeOfFloat_coerced (x : Float) :
    Coerced (∃ negative, Binary64.read x = .infinite negative) (wholeOfFloat x) := by
  unfold wholeOfFloat
  cases hread : Binary64.read x with
  | finite negative m e => exact .integer _ nofun
  | infinite negative => exact .unbounded ⟨negative, rfl⟩ (.inl rfl)
  | nan => exact .refused _ nofun

theorem wholeOfDecimal_coerced (d : Decimal) :
    Coerced (∃ negative, d = .infinite negative) (wholeOfDecimal d) := by
  cases d with
  | finite negative c e => exact .integer _ nofun
  | infinite negative => exact .unbounded ⟨negative, rfl⟩ (.inr rfl)
  | nan negative signaling payload => exact .refused _ nofun

/-- No range is too small for an infinity. -/
theorem filter_isInRange_infinite_iff (s : String) :
    (∃ negative, (Decimal.read? s).filter Decimal.isInRange = some (.infinite negative)) ↔
      Decimal.SpellsInfinity s := by
  rw [← Decimal.read?_infinite_iff]
  refine exists_congr fun negative => ?_
  rw [Option.filter_eq_some_iff]
  exact and_iff_left rfl

theorem integral_coerced (v : Value) : Coerced v.IsInfinite v.integral := by
  cases v with
  | bool b => exact .integer _ id
  | int i => exact .integer i id
  | float x => exact wholeOfFloat_coerced x
  | decimal d => exact wholeOfDecimal_coerced d
  | text s =>
    refine Coerced.congr ?_ (filter_isInRange_infinite_iff s)
    unfold integral
    dsimp only
    generalize (Decimal.read? s).filter Decimal.isInRange = read
    cases read with
    | some d => exact (wholeOfDecimal_coerced d).congr (by simp only [Option.some.injEq])
    | none => exact .refused _ nofun
  | null | bytes _ | list _ | tuple _ | map _ | lob _ => exact .refused _ id

theorem not_isInfinite_of_isMissing {v : Value} (h : v.isMissing = true) : ¬v.IsInfinite := by
  cases v with
  | text s =>
    have hempty : s = "" := beq_iff_eq.1 h
    rw [hempty]
    rintro ⟨sign, -, word, hword, hcore⟩
    have hnil := (List.append_eq_nil_iff.1 hcore.symm).2
    exact Decimal.ne_nil_of_word hword hnil
  | null => exact id
  | _ => cases h

/-- Input that is coerced without a failure: it answers what is sent to the database, and null where
nothing is. -/
structure IsLenient (v : Value) (answer : Option Int) : Prop where
  answered : v.marshal = .ok answer
  agrees : ∀ sent, v.toDatabase = .ok sent → answer = sent
  none_of_error : ∀ e, v.toDatabase = .error e → answer = none

/-- Coercing user input answers for every value that is not infinite, and for no other. -/
theorem lenient_iff_not_infinite (v : Value) :
    (∃ answer, v.IsLenient answer) ↔ ¬v.IsInfinite := by
  cases hmissing : v.isMissing with
  | true =>
    have hsent : v.toDatabase = .ok none := if_pos hmissing
    refine iff_of_true ⟨none, ?_, ?_, fun _ _ => rfl⟩ (not_isInfinite_of_isMissing hmissing)
    · rw [marshal, hsent]
    · intro sent h
      exact Except.ok.inj (hsent.symm.trans h)
  | false =>
    have hsent : v.toDatabase = v.integral.map some := if_neg (ne_true_of_eq_false hmissing)
    have hcoerced := integral_coerced v
    generalize v.integral = outcome at hsent hcoerced
    cases hcoerced with
    | integer i hfinite =>
      have hok : v.toDatabase = .ok (some i) := hsent
      refine iff_of_true ⟨some i, ?_, ?_, ?_⟩ hfinite
      · rw [marshal, hok]
      · intro sent h
        exact Except.ok.inj (hok.symm.trans h)
      · intro e h
        cases hok.symm.trans h
    | refused refusal hfinite =>
      have herror : v.toDatabase = .error (.refused refusal) := hsent
      refine iff_of_true ⟨none, ?_, ?_, fun _ _ => rfl⟩ hfinite
      · rw [marshal, herror]
      · intro sent h
        cases herror.symm.trans h
    | unbounded hinfinite he =>
      refine iff_of_false ?_ (not_not_intro hinfinite)
      rintro ⟨answer, hanswer, -, -⟩
      rw [marshal, hsent] at hanswer
      rcases he with rfl | rfl <;> cases hanswer

/-- The error of an infinity is handed on, although the text is no integer. -/
theorem infinity_not_lenient :
    (Value.text " -In_finity\n").marshal = .error .infiniteDecimal ∧
      (Value.float (1 / 0)).marshal = .error .infiniteFloat :=
  ⟨rfl, rfl⟩

end Value

end OracleCatalog
