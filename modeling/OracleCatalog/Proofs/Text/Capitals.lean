import OracleCatalog.Proofs.Text.Case

/-!
# Capitals of capitals, small letters of small letters

What a character becomes as a capital has no other capital. So a text in capitals is its own text in
capitals, and the same holds of small letters. An underscore stands between words: the words around
it become small letters each on its own, even where a capital sigma ends one of them.
-/

namespace OracleCatalog.Text

/-! ### Code points as bits -/

/-- Code points as the bits of a number. -/
def pointBits (points : List Nat) : Nat := points.foldr (fun n bits => bits ||| 1 <<< n) 0

theorem testBit_pointBits (points : List Nat) (n : Nat) :
    (pointBits points).testBit n = decide (n ∈ points) := by
  induction points with
  | nil => exact Nat.zero_testBit n
  | cons m rest ih =>
    show (pointBits rest ||| 1 <<< m).testBit n = _
    rw [Nat.testBit_or, ih, Nat.one_shiftLeft, Nat.testBit_two_pow, ← Bool.decide_or]
    refine decide_eq_decide.2 ?_
    rw [List.mem_cons, or_comm, eq_comm]

theorem not_mem_of_pointBits {points others : List Nat}
    (h : pointBits points &&& pointBits others = 0) {n : Nat} (hn : n ∈ others) : n ∉ points := by
  intro hmem
  have hbit := congrArg (fun bits => bits.testBit n) h
  rw [Nat.testBit_and, testBit_pointBits, testBit_pointBits, decide_eq_true hmem,
    decide_eq_true hn, Nat.zero_testBit] at hbit
  cases hbit

/-! ### Where characters go -/

def CaseRun.points (run : CaseRun) : List Nat :=
  (List.range ((run.last - run.first) / run.step + 1)).map fun i => run.first + i * run.step

theorem CaseRun.mem_points {run : CaseRun} {n : Nat} (h : run.maps n = true) : n ∈ run.points := by
  unfold CaseRun.maps at h
  simp only [Bool.and_eq_true, decide_eq_true_eq, beq_iff_eq] at h
  obtain ⟨⟨hfirst, hlast⟩, hstep⟩ := h
  refine List.mem_map.2 ⟨(n - run.first) / run.step, List.mem_range.2 ?_, ?_⟩
  · have hle : n - run.first ≤ run.last - run.first := by omega
    exact Nat.lt_succ_of_le (Nat.div_le_div_right hle)
  · rw [Nat.div_mul_cancel (Nat.dvd_of_mod_eq_zero hstep)]
    omega

variable {expansions : List (Nat × List Nat)} {runs : List CaseRun}

/-- The code points that have an image of their own. -/
def mappedPoints (expansions : List (Nat × List Nat)) (runs : List CaseRun) : List Nat :=
  expansions.map (·.1) ++ runs.flatMap CaseRun.points

def imagePoints (expansions : List (Nat × List Nat)) (runs : List CaseRun) : List Nat :=
  expansions.flatMap (·.2) ++
    runs.flatMap fun run => run.points.map fun n : Nat => ((n : Int) + run.shift).toNat

theorem mapCase_of_not_mem {c : Char} (h : c.toNat ∉ mappedPoints expansions runs) :
    mapCase expansions runs c = [c] := by
  obtain ⟨hexpansions, hruns⟩ := not_or.1 (fun hor => h (List.mem_append.2 hor))
  have hlookup : expansions.lookup c.toNat = none := by
    cases hfound : expansions.lookup c.toNat with
    | none => rfl
    | some codes => exact absurd (List.mem_map.2 ⟨_, mem_of_lookup hfound, rfl⟩) hexpansions
  have hfind : runs.find? (·.maps c.toNat) = none := by
    refine List.find?_eq_none.2 fun run hrun hmaps => hruns ?_
    exact List.mem_flatMap.2 ⟨run, hrun, CaseRun.mem_points hmaps⟩
  unfold mapCase
  rw [hlookup]
  dsimp only
  rw [hfind]

/-- A character of an image is the character it was, or has a code point among those of images. -/
theorem eq_or_exists_of_mem_mapCase {c d : Char} (h : d ∈ mapCase expansions runs c) :
    mapCase expansions runs c = [d] ∧ d = c ∨
      ∃ n ∈ imagePoints expansions runs, d = Char.ofNat n := by
  rcases mapCase_cases expansions runs c with
    ⟨entry, hentry, -, hc⟩ | ⟨run, hrun, hmaps, hc⟩ | hc
  · rw [hc] at h
    obtain ⟨n, hn, rfl⟩ := List.mem_map.1 h
    exact .inr ⟨n, List.mem_append_left _ (List.mem_flatMap.2 ⟨entry, hentry, hn⟩), rfl⟩
  · rw [hc] at h
    obtain rfl := List.mem_singleton.1 h
    refine .inr ⟨_, List.mem_append_right _ ?_, rfl⟩
    exact List.mem_flatMap.2 ⟨run, hrun, List.mem_map.2 ⟨_, CaseRun.mem_points hmaps, rfl⟩⟩
  · rw [hc] at h
    obtain rfl := List.mem_singleton.1 h
    exact .inl ⟨hc, rfl⟩

/-- Where no character of an image has an image of its own, taking images twice changes nothing. -/
theorem mapCase_of_mem_mapCase
    (apart : pointBits (mappedPoints expansions runs) &&&
      pointBits (0 :: imagePoints expansions runs) = 0)
    {c d : Char} (h : d ∈ mapCase expansions runs c) : mapCase expansions runs d = [d] := by
  rcases eq_or_exists_of_mem_mapCase h with ⟨hc, rfl⟩ | ⟨n, hn, rfl⟩
  · exact hc
  · refine mapCase_of_not_mem (not_mem_of_pointBits apart ?_)
    rcases toNat_ofNat_cases n with hcode | hcode
    · rw [hcode]
      exact List.mem_cons_of_mem _ hn
    · rw [hcode]
      exact List.mem_cons_self

/-! ### Capitals -/

theorem upperPoints_apart : pointBits (mappedPoints upperExpansions upperRuns) &&&
    pointBits (0 :: imagePoints upperExpansions upperRuns) = 0 := by decide +kernel

theorem upperChar_of_mem_upperChar {c d : Char} (h : d ∈ upperChar c) : upperChar d = [d] :=
  mapCase_of_mem_mapCase upperPoints_apart h

theorem flatMap_upperChar_flatMap (cs : List Char) :
    (cs.flatMap upperChar).flatMap upperChar = cs.flatMap upperChar := by
  have hfixed : ∀ d ∈ cs.flatMap upperChar, upperChar d = [d] := by
    intro d hd
    obtain ⟨c, -, hmem⟩ := List.mem_flatMap.1 hd
    exact upperChar_of_mem_upperChar hmem
  generalize cs.flatMap upperChar = capitals at hfixed
  induction capitals with
  | nil => rfl
  | cons d rest ih =>
    rw [List.flatMap_cons, hfixed d List.mem_cons_self,
      ih fun e he => hfixed e (List.mem_cons_of_mem _ he)]
    rfl

theorem upper_upper (s : String) : upper (upper s) = upper s := by
  unfold upper
  rw [String.toList_ofList, flatMap_upperChar_flatMap]

/-! ### Small letters of small letters -/

theorem lowerPoints_apart : pointBits (mappedPoints lowerExpansions lowerRuns) &&&
    pointBits (0 :: imagePoints lowerExpansions lowerRuns) = 0 := by decide +kernel

theorem lowerChar_of_mem_lowerChar {c d : Char} (h : d ∈ lowerChar c) : lowerChar d = [d] :=
  mapCase_of_mem_mapCase lowerPoints_apart h

theorem lowerChar_of_mem_lowerChars {cased : Bool} {cs : List Char} {d : Char}
    (h : d ∈ lowerChars cased cs) : lowerChar d = [d] := by
  have hsigma : lowerChar 'σ' = ['σ'] := by decide +kernel
  have hfinal : lowerChar 'ς' = ['ς'] := by decide +kernel
  induction cs generalizing cased with
  | nil => cases h
  | cons c cs ih =>
    rw [lowerChars] at h
    rcases List.mem_append.1 h with hhere | hafter
    · split at hhere
      · obtain rfl := List.mem_singleton.1 hhere
        split
        · exact hfinal
        · exact hsigma
      · exact lowerChar_of_mem_lowerChar hhere
    · exact ih hafter

theorem lowerChars_of_small {cs : List Char} (h : ∀ c ∈ cs, lowerChar c = [c]) (cased : Bool) :
    lowerChars cased cs = cs := by
  have hsigma : lowerChar 'Σ' ≠ ['Σ'] := by decide +kernel
  induction cs generalizing cased with
  | nil => rfl
  | cons c cs ih =>
    obtain ⟨hc, hcs⟩ := List.forall_mem_cons.1 h
    have hne : c ≠ 'Σ' := by
      rintro rfl
      exact hsigma hc
    rw [lowerChars, if_neg hne, hc, ih hcs]
    rfl

theorem lower_of_small {s : String} (h : ∀ c ∈ s.toList, lowerChar c = [c]) : lower s = s := by
  rw [lower, lowerChars_of_small h, String.ofList_toList]

theorem lowerChar_of_mem_lower {s : String} {c : Char} (h : c ∈ (lower s).toList) :
    lowerChar c = [c] := by
  rw [lower, String.toList_ofList] at h
  exact lowerChar_of_mem_lowerChars h

/-! ### Words around an underscore -/

theorem underscore_uncased : caseIgnorableSpans.covers '_' = false ∧
    casedSpans.covers '_' = false ∧ lowerChar '_' = ['_'] := by decide +kernel

theorem startsCased_append_underscore (cs ds : List Char) :
    startsCased (cs ++ '_' :: ds) = startsCased cs := by
  obtain ⟨hignorable, hcased, -⟩ := underscore_uncased
  induction cs with
  | nil =>
    show (if caseIgnorableSpans.covers '_' then startsCased ds else casedSpans.covers '_') = false
    rw [hignorable, hcased]
    rfl
  | cons c cs ih => rw [List.cons_append, startsCased, startsCased, ih]

theorem lowerChars_append_underscore (cased : Bool) (cs ds : List Char) :
    lowerChars cased (cs ++ '_' :: ds) = lowerChars cased cs ++ '_' :: lowerChars false ds := by
  obtain ⟨hignorable, hcased, hlower⟩ := underscore_uncased
  induction cs generalizing cased with
  | nil =>
    show (if '_' = 'Σ' then [if cased && !startsCased ds then 'ς' else 'σ'] else lowerChar '_') ++
      lowerChars (if caseIgnorableSpans.covers '_' then cased else casedSpans.covers '_') ds = _
    rw [if_neg (by decide), hlower, hignorable, hcased]
    rfl
  | cons c cs ih =>
    rw [List.cons_append, lowerChars, lowerChars, startsCased_append_underscore, ih,
      List.append_assoc]

theorem toList_underscore (s t : String) :
    (s ++ "_" ++ t).toList = s.toList ++ '_' :: t.toList := by
  rw [String.toList_append, String.toList_append, List.append_assoc]
  rfl

theorem lower_underscore (s t : String) : lower (s ++ "_" ++ t) = lower s ++ "_" ++ lower t := by
  refine String.toList_injective ?_
  rw [toList_underscore, lower, lower, lower, String.toList_ofList, String.toList_ofList,
    String.toList_ofList, toList_underscore, lowerChars_append_underscore]

/-- The text is another one and goes on behind an underscore. -/
def Continues (whole front : String) : Prop := ∃ rest, whole = front ++ "_" ++ rest

theorem continues_iff_startsWith (whole front : String) :
    Continues whole front ↔ front.toList ++ ['_'] <+: whole.toList := by
  constructor
  · rintro ⟨rest, rfl⟩
    refine ⟨rest.toList, ?_⟩
    rw [toList_underscore, List.append_assoc]
    rfl
  · rintro ⟨rest, hrest⟩
    refine ⟨String.ofList rest, String.toList_injective ?_⟩
    rw [toList_underscore, String.toList_ofList, ← hrest, List.append_assoc]
    rfl

instance (whole front : String) : Decidable (Continues whole front) :=
  decidable_of_iff _ (continues_iff_startsWith whole front).symm

/-- Words with an underscore between them can be cut in different places. -/
theorem underscore_cases {s t s' t' : String} (h : s ++ "_" ++ t = s' ++ "_" ++ t') :
    (s = s' ∧ t = t') ∨ (∃ rest, s' = s ++ "_" ++ rest ∧ t = rest ++ "_" ++ t') ∨
      ∃ rest, s = s' ++ "_" ++ rest ∧ t' = rest ++ "_" ++ t := by
  -- one of the first words ends where the other does, or the underscore behind it is inside of it
  have hcut : ∀ {s t s' t' : String} {more : List Char}, s'.toList = s.toList ++ more →
      '_' :: t.toList = more ++ '_' :: t'.toList →
      (s = s' ∧ t = t') ∨ ∃ rest, s' = s ++ "_" ++ rest ∧ t = rest ++ "_" ++ t' := by
    intro s t s' t' more hfront hback
    cases more with
    | nil =>
      rw [List.append_nil] at hfront
      exact .inl ⟨(String.toList_injective hfront).symm,
        String.toList_injective (List.cons.inj hback).2⟩
    | cons c rest =>
      obtain ⟨rfl, hrest⟩ := List.cons.inj hback
      refine .inr ⟨String.ofList rest, String.toList_injective ?_, String.toList_injective ?_⟩
      · rw [toList_underscore, String.toList_ofList, hfront]
      · rw [toList_underscore, String.toList_ofList]
        exact hrest
  have hchars := congrArg String.toList h
  rw [toList_underscore, toList_underscore] at hchars
  rcases List.append_eq_append_iff.1 hchars with ⟨more, hfront, hback⟩ | ⟨more, hfront, hback⟩
  · exact (hcut hfront hback).imp_right .inl
  · rcases hcut hfront hback with ⟨hs, ht⟩ | hlonger
    · exact .inl ⟨hs.symm, ht.symm⟩
    · exact .inr (.inr hlonger)

theorem not_continues_self (s : String) : ¬Continues s s := by
  rintro ⟨rest, h⟩
  have hlength := congrArg (fun t => t.toList.length) h
  rw [toList_underscore, List.length_append, List.length_cons] at hlength
  omega

end OracleCatalog.Text
