import OracleCatalog.Proofs.Name
import OracleCatalog.Proofs.Success
import OracleCatalog.Settings.Reader

/-!
# What a map says of a setting

A map may name a setting in two spellings, and what stands last counts. Writing an entry over a map
puts a new value in the place of the old one, so that what stands behind that place still counts
more than the new value.
-/

namespace OracleCatalog

namespace Setting

/-- What stands last in a map for a setting, in either spelling. -/
def last? (setting : Setting) (entries : Entries) : Option Value :=
  (entries.filterMap fun entry =>
    if ofKey? entry.1 = some setting then some entry.2 else none).getLast?

/-- What stands last for a setting behind the place of its name. -/
def behind? (setting : Setting) (entries : Entries) : Option Value :=
  setting.last? (entries.dropWhile fun entry => !(Value.text setting.name == entry.1)).tail

theorem ofKey?_name (setting : Setting) : ofKey? (.text setting.name) = some setting := by
  cases setting <;> decide

theorem name_injective {setting other : Setting} (h : setting.name = other.name) :
    setting = other := by
  have hkeys := ofKey?_name setting
  rw [h, ofKey?_name] at hkeys
  exact (Option.some.inj hkeys).symm

theorem name_beq_eq_false {setting other : Setting} (h : setting ≠ other) :
    (Value.text setting.name == .text other.name) = false := by
  rw [Value.text_beq]
  exact beq_eq_false_iff_ne.2 fun heq => h (name_injective heq)

theorem last?_cons (setting : Setting) (key v : Value) (rest : Entries) :
    setting.last? ((key, v) :: rest) =
      (setting.last? rest).or (if ofKey? key = some setting then some v else none) := by
  unfold last?
  rw [List.filterMap_cons]
  by_cases hkey : ofKey? key = some setting
  · simp only [hkey, ↓reduceIte, List.getLast?_cons]
    cases (List.filterMap _ rest).getLast? <;> rfl
  · simp only [hkey, ↓reduceIte, Option.or_none]

/-! ### Writing entries over a map -/

section Writing

variable {setting other : Setting}

/-- What is written under the name of a setting counts as the last, unless something stands behind
its place. -/
theorem last?_put_name (setting : Setting) (v : Value) (entries : Entries) :
    setting.last? (entries.put (.text setting.name) v) =
      (setting.behind? entries).or (some v) := by
  induction entries with
  | nil => simp [OrderedMap.put, behind?, last?, ofKey?_name]
  | cons entry rest ih =>
    obtain ⟨key, w⟩ := entry
    cases hkey : Value.text setting.name == key with
    | true =>
      obtain rfl := Value.eq_of_text_beq hkey
      simp [OrderedMap.put, behind?, last?_cons, ofKey?_name]
    | false =>
      have hbehind : setting.behind? ((key, w) :: rest) = setting.behind? rest := by
        simp [behind?, hkey]
      simp only [OrderedMap.put, hkey, Bool.false_eq_true, ↓reduceIte, last?_cons, ih, hbehind]
      cases setting.behind? rest <;> rfl

theorem last?_put_of_ne (h : setting ≠ other) (v : Value) (entries : Entries) :
    setting.last? (entries.put (.text other.name) v) = setting.last? entries := by
  have hkey : ofKey? (.text other.name) ≠ some setting := by
    rw [ofKey?_name]
    exact fun heq => h (Option.some.inj heq).symm
  induction entries with
  | nil => simp [OrderedMap.put, last?, hkey]
  | cons entry rest ih =>
    obtain ⟨key, w⟩ := entry
    cases hput : Value.text other.name == key with
    | true =>
      obtain rfl := Value.eq_of_text_beq hput
      simp [OrderedMap.put, last?_cons, hkey]
    | false =>
      simp only [OrderedMap.put, hput, Bool.false_eq_true, ↓reduceIte, last?_cons, ih]

theorem behind?_put_of_ne (h : setting ≠ other) (v : Value) (entries : Entries) :
    setting.behind? (entries.put (.text other.name) v) = setting.behind? entries := by
  have hname := name_beq_eq_false h
  induction entries with
  | nil => simp [OrderedMap.put, behind?, last?, hname]
  | cons entry rest ih =>
    obtain ⟨key, w⟩ := entry
    cases hput : Value.text other.name == key with
    | true =>
      obtain rfl := Value.eq_of_text_beq hput
      simp [OrderedMap.put, behind?, hname]
    | false =>
      cases hkey : Value.text setting.name == key with
      | true =>
        have hrest := last?_put_of_ne h v rest
        simp [OrderedMap.put, hput, behind?, hkey, hrest]
      | false =>
        unfold behind? at ih ⊢
        simp [OrderedMap.put, hput, hkey, ih]

theorem get?_put_name_of_ne (h : setting ≠ other) (v : Value) (entries : Entries) :
    OrderedMap.get? (.text setting.name) (entries.put (.text other.name) v) =
      OrderedMap.get? (.text setting.name) entries := by
  have hname := name_beq_eq_false h
  induction entries with
  | nil => simp only [OrderedMap.put, OrderedMap.get?, hname, Bool.false_eq_true, ↓reduceIte]
  | cons entry rest ih =>
    obtain ⟨key, w⟩ := entry
    cases hput : Value.text other.name == key with
    | true =>
      obtain rfl := Value.eq_of_text_beq hput
      simp [OrderedMap.put, OrderedMap.get?, hname]
    | false => simp only [OrderedMap.put, hput, Bool.false_eq_true, ↓reduceIte, OrderedMap.get?, ih]

end Writing

/-- The entries under the names of settings. -/
def named (values : OrderedMap Setting Value) : Entries :=
  values.map fun entry => (.text entry.1.name, entry.2)

/-- Of a setting that is written over a map, the new value counts unless something stands behind its
place; of any other one, what the map says. -/
theorem last?_update {values : OrderedMap Setting Value} (distinct : (OrderedMap.keys values).Nodup)
    (setting : Setting) (entries : Entries) :
    setting.last? (OrderedMap.update entries (named values)) =
      match OrderedMap.get? setting values with
      | some v => (setting.behind? entries).or (some v)
      | none => setting.last? entries := by
  induction values generalizing entries with
  | nil => rfl
  | cons entry rest ih =>
    obtain ⟨other, v⟩ := entry
    obtain ⟨hnot, hrest⟩ := List.nodup_cons.1 distinct
    have hstep : OrderedMap.update entries (named ((other, v) :: rest)) =
        OrderedMap.update (entries.put (.text other.name) v) (named rest) := rfl
    rw [hstep, ih hrest]
    by_cases heq : setting = other
    · subst heq
      have hnone : OrderedMap.get? setting rest = none := OrderedMap.get?_eq_none hnot
      simp [hnone, OrderedMap.get?, last?_put_name]
    · have hne : (setting == other) = false := beq_eq_false_iff_ne.2 heq
      simp only [OrderedMap.get?, hne, Bool.false_eq_true, ↓reduceIte, behind?_put_of_ne heq,
        last?_put_of_ne heq]

theorem get?_update_named {setting : Setting} {values : OrderedMap Setting Value}
    (h : setting ∉ OrderedMap.keys values) (entries : Entries) :
    OrderedMap.get? (.text setting.name) (OrderedMap.update entries (named values)) =
      OrderedMap.get? (.text setting.name) entries := by
  induction values generalizing entries with
  | nil => rfl
  | cons entry rest ih =>
    obtain ⟨other, v⟩ := entry
    obtain ⟨hne, hrest⟩ := not_or.1 fun hmem => h (List.mem_cons.2 hmem)
    exact (ih hrest _).trans (get?_put_name_of_ne hne v entries)

end Setting

end OracleCatalog
