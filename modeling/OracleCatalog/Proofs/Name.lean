import OracleCatalog.Proofs.OrderedMap
import OracleCatalog.Row.Basic

/-!
# Names of the catalog

The catalog names things by texts, and a name can be missing. Names are keys of maps as they are,
comparing them decides equality, and a folded name is a name again.
-/

namespace OracleCatalog

/-- A name of the catalog: a text, or null where there is none. -/
def Value.IsName : Value → Prop
  | .null | .text _ => True
  | _ => False

namespace Value

theorem isName_null : IsName .null := trivial

theorem isName_text (s : String) : IsName (.text s) := trivial

theorem IsName.cases {v : Value} (h : v.IsName) : v = .null ∨ ∃ s, v = .text s := by
  cases v with
  | null => exact .inl rfl
  | text s => exact .inr ⟨s, rfl⟩
  | _ => exact absurd h id

@[simp] theorem null_beq_text (s : String) : (null == text s) = false := rfl

@[simp] theorem text_beq_null (s : String) : (text s == null) = false := rfl

theorem lawfulOn_isName : OrderedMap.LawfulOn IsName := by
  intro a b ha hb
  rcases ha.cases with rfl | ⟨s, rfl⟩ <;> rcases hb.cases with rfl | ⟨t, rfl⟩
  · exact ⟨fun _ => rfl, fun _ => rfl⟩
  · simp only [null_beq_text, Bool.false_eq_true, reduceCtorEq]
  · simp only [text_beq_null, Bool.false_eq_true, reduceCtorEq]
  · simp only [text_beq, beq_iff_eq, text.injEq]

theorem IsName.asKey {v : Value} (h : v.IsName) : v.asKey = .ok v := by
  rcases h.cases with rfl | ⟨s, rfl⟩ <;> rfl

/-- A value that is a text, as the name of something that is not missing. -/
def IsText (v : Value) : Prop := ∃ s, v = .text s

theorem isText_text (s : String) : IsText (.text s) := ⟨s, rfl⟩

theorem IsText.isName {v : Value} (h : v.IsText) : v.IsName := by
  obtain ⟨s, rfl⟩ := h
  exact isName_text s

theorem eq_of_text_beq {s : String} {v : Value} (h : (text s == v) = true) : v = text s := by
  cases v with
  | text t => rw [eq_of_beq ((text_beq s t).symm.trans h)]
  | _ => cases h

theorem eq_of_beq_text {s : String} {v : Value} (h : (v == text s) = true) : v = text s := by
  cases v with
  | text t => rw [eq_of_beq ((text_beq t s).symm.trans h)]
  | float x =>
    change same (float x) (text s) = true at h
    unfold same at h
    split at h
    · rename_i hnumber
      cases hnumber
    · cases h
  | decimal d =>
    change same (decimal d) (text s) = true at h
    unfold same at h
    split at h
    · rename_i hnumber
      cases hnumber
    · cases h
  | _ => cases h

theorem lawfulOn_isText : OrderedMap.LawfulOn IsText := by
  rintro _ _ ⟨s, rfl⟩ ⟨t, rfl⟩
  simp only [text_beq, beq_iff_eq, text.injEq]

end Value

theorem foldedName_isName {folding : CaseFolding} {name folded : Value} (h : name.IsName)
    (hf : foldedName folding name = .ok folded) : folded.IsName := by
  cases folding with
  | asIs =>
    cases hf
    exact h
  | lower =>
    rcases h.cases with rfl | ⟨s, rfl⟩
    · cases hf
      exact Value.isName_null
    · cases hf
      exact Value.isName_text _

end OracleCatalog
