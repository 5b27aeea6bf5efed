import Mathlib
import OracleCatalog.Proofs.Settings.Connections

/-!
# Variables before the file

Variables are written over the entries of the file under the first spellings of their settings. The
file may have the second spelling of a setting as well, and behind the place of the first one it is
the spelling that counts. So a variable settles its setting unless something else stands there.
-/

namespace OracleCatalog

open OracleCatalog.Settings (readPort)

/-! ### Second spellings -/

namespace Setting

variable {setting : Setting}

/-- The map has a value under a second spelling of the setting, behind the first spelling. -/
def SecondBehind (setting : Setting) (entries : Entries) (w : Value) : Prop :=
  ∃ second u before between after, (second, setting) ∈ aliases ∧
    entries = before ++ (.text setting.name, u) :: (between ++ (.text second, w) :: after)

theorem ofKey?_of_alias {second : String} (h : (second, setting) ∈ aliases) :
    ofKey? (.text second) = some setting := by
  have hall : ∀ entry ∈ aliases, ofKey? (.text entry.1) = some entry.2 := by decide
  exact hall _ h

theorem eq_of_alias {second other : String} (h : (second, setting) ∈ aliases)
    (hother : (other, setting) ∈ aliases) : other = second := by
  have hall : ∀ entry ∈ aliases, ∀ entry' ∈ aliases, entry.2 = entry'.2 → entry'.1 = entry.1 := by
    decide
  exact hall _ h _ hother rfl

/-- A key names a setting in its first spelling or in a second one. -/
theorem spelled_of_ofKey? {key : Value} (h : ofKey? key = some setting) :
    key = .text setting.name ∨ ∃ second, (second, setting) ∈ aliases ∧ key = .text second := by
  cases key with
  | text s =>
    rcases Option.or_eq_some_iff.1 h with hlookup | ⟨-, hname⟩
    · obtain ⟨before, after, haliases, -⟩ := List.lookup_eq_some_iff.1 hlookup
      exact .inr ⟨s, haliases ▸ List.mem_append_right _ List.mem_cons_self, rfl⟩
    · have hfound := List.find?_some hname
      exact .inl (congrArg Value.text (eq_of_beq hfound).symm)
  | _ => cases h

theorem last?_eq_none {entries : Entries} (h : ∀ entry ∈ entries, ofKey? entry.1 ≠ some setting) :
    setting.last? entries = none := by
  induction entries with
  | nil => rfl
  | cons entry rest ih =>
    obtain ⟨hentry, hrest⟩ := List.forall_mem_cons.1 h
    rw [last?_cons, ih hrest, if_neg hentry]
    rfl

theorem last?_append (setting : Setting) (before after : Entries) :
    setting.last? (before ++ after) = (setting.last? after).or (setting.last? before) := by
  unfold last?
  rw [List.filterMap_append, List.getLast?_append]

theorem exists_of_last? {entries : Entries} {w : Value} (h : setting.last? entries = some w) :
    ∃ entry ∈ entries, ofKey? entry.1 = some setting ∧ entry.2 = w := by
  obtain ⟨entry, hmem, hentry⟩ := List.mem_filterMap.1 (List.mem_of_getLast? h)
  by_cases hkey : ofKey? entry.1 = some setting
  · rw [if_pos hkey] at hentry
    exact ⟨entry, hmem, hkey, Option.some.inj hentry⟩
  · rw [if_neg hkey] at hentry
    cases hentry

theorem dropWhile_first {setting : Setting} {before after : Entries} {u : Value}
    (once : NamedOnce (before ++ (.text setting.name, u) :: after)) :
    (before ++ (.text setting.name, u) :: after).dropWhile
        (fun entry => !(Value.text setting.name == entry.1)) =
      (.text setting.name, u) :: after := by
  have hbefore : ∀ entry ∈ before, (!(Value.text setting.name == entry.1)) = true := by
    intro entry hmem
    cases hkey : Value.text setting.name == entry.1 with
    | true => exact absurd (Value.eq_of_text_beq hkey) (once.ne_of_mem (.inl hmem))
    | false => rfl
  rw [List.dropWhile_append_of_pos hbefore]
  simp

theorem secondBehind_of_behind? {entries : Entries} (once : NamedOnce entries) {w : Value}
    (h : setting.behind? entries = some w) : setting.SecondBehind entries w := by
  unfold behind? at h
  have hsplit := List.takeWhile_append_dropWhile
    (p := fun entry : Value × Value => !(Value.text setting.name == entry.1)) (l := entries)
  have hhead := List.head?_dropWhile_not
    (fun entry : Value × Value => !(Value.text setting.name == entry.1)) entries
  cases hdrop : entries.dropWhile fun entry => !(Value.text setting.name == entry.1) with
  | nil =>
    rw [hdrop] at h
    cases h
  | cons first tail =>
    obtain ⟨key, u⟩ := first
    rw [hdrop] at h hsplit hhead
    obtain rfl : key = .text setting.name := Value.eq_of_text_beq (by simpa using hhead)
    obtain ⟨⟨key, w⟩, hmem, hkey, rfl⟩ := exists_of_last? h
    rw [← hsplit] at once
    rcases spelled_of_ofKey? hkey with rfl | ⟨second, halias, rfl⟩
    · exact absurd rfl (once.ne_of_mem (.inr hmem))
    · obtain ⟨between, after, rfl⟩ := List.append_of_mem hmem
      exact ⟨second, u, _, between, after, halias, hsplit.symm⟩

-- Of the alias nothing can stand behind its one place, and of the first spelling neither.
theorem behind?_of_secondBehind {entries : Entries} (once : NamedOnce entries) {w : Value}
    (h : setting.SecondBehind entries w) : setting.behind? entries = some w := by
  obtain ⟨second, u, before, between, after, halias, rfl⟩ := h
  have hassoc : before ++ (.text setting.name, u) :: (between ++ (.text second, w) :: after) =
      (before ++ (.text setting.name, u) :: between) ++ (.text second, w) :: after := by simp
  have hafter : setting.last? after = none := by
    apply last?_eq_none
    intro entry hmem hkey
    rcases spelled_of_ofKey? hkey with heq | ⟨other, hother, heq⟩
    · exact once.ne_of_mem (.inr (List.mem_append_right _ (List.mem_cons_of_mem _ hmem))) heq
    · rw [hassoc] at once
      obtain rfl := eq_of_alias halias hother
      exact once.ne_of_mem (.inr hmem) heq
  unfold behind?
  rw [dropWhile_first once, List.tail_cons, last?_append, last?_cons, hafter,
    if_pos (ofKey?_of_alias halias)]
  rfl

/-- Where no text is named twice, what counts behind the first spelling is what stands there under a
second one. -/
theorem behind?_eq_some_iff {entries : Entries} (once : NamedOnce entries) {w : Value} :
    setting.behind? entries = some w ↔ setting.SecondBehind entries w :=
  ⟨secondBehind_of_behind? once, behind?_of_secondBehind once⟩

end Setting

/-! ### Variables over the file -/

theorem Setting.read_of_ofVariable {setting : Setting} {s : String} {v w : Value}
    (hv : setting.ofVariable s = .ok v) (hread : setting.read v = .ok w) : w = v := by
  cases setting with
  | port =>
    unfold Setting.ofVariable at hv
    dsimp only at hv
    cases hdigits : Text.allDigits s with
    | true =>
      rw [if_pos hdigits] at hv
      obtain ⟨i, -, rfl⟩ := Error.ok_of_map hv
      cases hread
      rfl
    | false =>
      rw [if_neg (Bool.not_eq_true _ ▸ hdigits)] at hv
      cases hv
      simp [Setting.read, readPort, hdigits] at hread
  | _ =>
    cases hread
    rfl

/-- Only the port is read as a number, and it has one spelling. -/
theorem Setting.read_of_secondBehind {setting : Setting} {entries : Entries} {w : Value}
    (h : setting.SecondBehind entries w) : setting.read w = .ok w := by
  obtain ⟨second, u, before, between, after, halias, -⟩ := h
  have hport : setting ≠ .port := by
    have hall : ∀ entry ∈ Setting.aliases, entry.2 ≠ .port := by decide
    exact hall _ halias
  exact Setting.read_of_ne_port hport w

theorem entries_of_service_variable :
    Variables.entries [("ORADIALECT_SERVICE_NAME", "c")] =
      .ok [(.text "service_name", .text "c")] := by
  simp [Variables.entries_eq, Setting.variableNames, Variables.entry?, OrderedMap.get?,
    variableStem, Setting.ofVariable, Except.map, Setting.name]
  rfl

theorem read_second_spelling_first :
    Toml.read "[tool.oradialect.connection]\nserviceName = \"b\"\nservice_name = \"a\"\n" =
      .ok (connectionTables
        (.map [(.text "serviceName", .text "b"), (.text "service_name", .text "a")])) := by
  cbv

theorem read_second_spelling_last :
    Toml.read "[tool.oradialect.connection]\nservice_name = \"a\"\nserviceName = \"b\"\n" =
      .ok (connectionTables
        (.map [(.text "service_name", .text "a"), (.text "serviceName", .text "b")])) := by
  cbv

end OracleCatalog
