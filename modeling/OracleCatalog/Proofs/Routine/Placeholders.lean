import OracleCatalog.Proofs.Routine.Call
import Mathlib.Data.List.Nodup

/-!
# Placeholders of a call

The value of a function is bound under a name that no argument has, since it starts with a colon.
A placeholder is a name behind a colon, though: so the placeholder of an argument that is called
`result` is the one of the value of the function. No other two placeholders of a call are the same.
-/

namespace OracleCatalog

open OracleCatalog.Text

namespace Routine

variable {routine : Routine}

/-- The placeholders of a call: the value of a function, then the arguments. -/
def placeholders (routine : Routine) : List String :=
  (if routine.isFunction then [resultName] else []) ++ routine.arguments.map (·.placeholder)

/-- The name of an argument whose placeholder stands for the value of a function. -/
def resultWord : String := "result"

/-! ### Arguments -/

theorem eq_of_placeholder_eq {a b : Parameter} (ha : a.name.IsText) (hb : b.name.IsText)
    (h : a.placeholder = b.placeholder) : a.name = b.name := by
  obtain ⟨s, hs⟩ := ha
  obtain ⟨t, ht⟩ := hb
  unfold Parameter.placeholder at h
  rw [hs, ht, String.append_right_inj] at h
  rw [hs, ht]
  exact congrArg Value.text h

theorem arguments_sublist (routine : Routine) : routine.arguments.Sublist routine.parameters :=
  List.filter_sublist

theorem nodup_argumentPlaceholders (texts : ∀ p ∈ routine.parameters, p.name.IsText)
    (distinct : routine.parameterNames.Nodup) :
    (routine.arguments.map (·.placeholder)).Nodup := by
  have hnames : (routine.arguments.map (·.name)).Nodup :=
    distinct.sublist (routine.arguments_sublist.map _)
  have htexts : ∀ p ∈ routine.arguments, p.name.IsText :=
    fun p hp => texts p (routine.arguments_sublist.mem hp)
  refine List.Nodup.map_on (fun p hp q hq heq => ?_) (.of_map _ hnames)
  have hsame := eq_of_placeholder_eq (htexts p hp) (htexts q hq) heq
  exact List.inj_on_of_nodup_map hnames hp hq hsame

/-- The value of a function shares its placeholder with the argument of one name. -/
theorem resultName_mem_iff (texts : ∀ p ∈ routine.parameters, p.name.IsText) :
    resultName ∈ routine.arguments.map (·.placeholder) ↔
      .text resultWord ∈ routine.parameterNames := by
  have hresult : resultName = ":" ++ resultWord := by decide
  have hplaceholder {p : Parameter} (hp : p ∈ routine.parameters) :
      p.placeholder = resultName ↔ p.name = .text resultWord := by
    obtain ⟨s, hs⟩ := texts p hp
    unfold Parameter.placeholder
    rw [hs, hresult, String.append_right_inj, Value.text.injEq]
    rfl
  rw [List.mem_map, parameterNames, List.mem_map]
  constructor
  · rintro ⟨p, hp, heq⟩
    have hmem := routine.arguments_sublist.mem hp
    exact ⟨p, hmem, (hplaceholder hmem).1 heq⟩
  · rintro ⟨p, hp, hname⟩
    have hargument : p.isResult = false := by
      unfold Parameter.isResult
      rw [hname]
      decide
    refine ⟨p, List.mem_filter.2 ⟨hp, ?_⟩, (hplaceholder hp).2 hname⟩
    rw [hargument]
    rfl

/-! ### All placeholders -/

theorem nodup_placeholders_iff (texts : ∀ p ∈ routine.parameters, p.name.IsText)
    (distinct : routine.parameterNames.Nodup) : routine.placeholders.Nodup ↔
      ¬(routine.isFunction = true ∧ .text resultWord ∈ routine.parameterNames) := by
  have harguments := nodup_argumentPlaceholders texts distinct
  unfold placeholders
  cases routine.isFunction with
  | false =>
    rw [if_neg Bool.false_ne_true, List.nil_append]
    exact iff_of_true harguments fun h => Bool.false_ne_true h.1
  | true =>
    rw [if_pos rfl, List.singleton_append, List.nodup_cons, resultName_mem_iff texts,
      and_iff_left harguments, and_iff_right rfl]

theorem call_eq_callText (routine : Routine) :
    routine.call = Token.callText routine.name.toText routine.isFunction
      (routine.arguments.map (·.placeholder)) := rfl

def token (placeholder : String) : Token := .named (placeholder.toList.drop 1)

/-- The placeholders are what a reader of the call finds when all names are plain words. -/
theorem filter_tokens_call (hquestion : '?' ∉ routine.name.toText.toList)
    (hcolon : ':' ∉ routine.name.toText.toList)
    (words : ∀ p ∈ routine.arguments, p.name.toText ≠ "" ∧ p.name.toText.toList.all isNameChar) :
    (Token.ofText routine.call.toList).filter Token.isPlaceholder =
      routine.placeholders.map token := by
  have hnames : routine.arguments.map (·.placeholder) =
      (routine.arguments.map (·.name.toText)).map (":" ++ ·) := by
    rw [List.map_map]
    rfl
  have hwords : ∀ word ∈ routine.arguments.map (·.name.toText),
      word ≠ "" ∧ word.toList.all isNameChar = true := by
    intro word hword
    obtain ⟨p, hp, rfl⟩ := List.mem_map.1 hword
    exact words p hp
  have hcut := Token.cut_iff.1 (Token.cut_call routine.isFunction hquestion hcolon hwords)
  have htoken (name : String) : token (":" ++ name) = .named name.toList := by
    unfold token
    rw [Token.toList_placeholder]
    rfl
  have hresult : (if routine.isFunction then [resultName] else []).map token =
      if routine.isFunction then [.named "result".toList] else [] := by
    cases routine.isFunction <;> rfl
  have harguments : ((routine.arguments.map (·.name.toText)).map (":" ++ ·)).map token =
      (routine.arguments.map (·.name.toText)).map (.named ·.toList) := by
    rw [List.map_map]
    exact List.map_congr_left fun name _ => htoken name
  rw [call_eq_callText, hnames, ← hcut, Token.filter_ofCall, placeholders, hnames, List.map_append,
    hresult, harguments]

/-- A call binds the value of a function and the arguments under different placeholders unless a
function has an argument that is called `result`, whose placeholder is then that of the value. -/
theorem placeholders_distinct_iff (texts : ∀ p ∈ routine.parameters, p.name.IsText)
    (distinct : routine.parameterNames.Nodup) :
    routine.call = Token.callText routine.name.toText routine.isFunction
        (routine.arguments.map (·.placeholder)) ∧
      (routine.placeholders.Nodup ↔
        ¬(routine.isFunction = true ∧ .text resultWord ∈ routine.parameterNames)) ∧
      (resultName ∈ routine.arguments.map (·.placeholder) ↔
        .text resultWord ∈ routine.parameterNames) ∧
      ('?' ∉ routine.name.toText.toList → ':' ∉ routine.name.toText.toList →
        (∀ p ∈ routine.arguments, p.name.toText ≠ "" ∧ p.name.toText.toList.all isNameChar) →
        (Token.ofText routine.call.toList).filter Token.isPlaceholder =
          routine.placeholders.map token) :=
  ⟨rfl, nodup_placeholders_iff texts distinct, resultName_mem_iff texts, filter_tokens_call⟩

/-- A parameter that receives the value of a function. -/
def resultParameter : Parameter :=
  { name := .text resultName, type := .integer, isIn := .bool false, isOut := .bool true }

/-- A function with an argument in front of its value and one behind it. -/
def payment : Routine :=
  { name := .text "HR.PAY"
    parameters := [{ name := .text "EMP", type := .integer }, resultParameter,
      { name := .text "SUM#", type := .decimal }] }

theorem payment_placeholders_distinct :
    (∀ p ∈ payment.parameters, p.name.IsText) ∧ payment.parameterNames.Nodup ∧
      payment.call = "BEGIN :result := HR.PAY(:EMP, :SUM#); END;" ∧
      payment.placeholders = [":result", ":EMP", ":SUM#"] ∧ payment.placeholders.Nodup ∧
      (Token.ofText payment.call.toList).filter Token.isPlaceholder =
        [.named "result".toList, .named "EMP".toList, .named "SUM#".toList] := by
  have texts : ∀ p ∈ payment.parameters, p.name.IsText :=
    List.forall_mem_cons.2 ⟨Value.isText_text _, List.forall_mem_cons.2 ⟨Value.isText_text _,
      List.forall_mem_singleton.2 (Value.isText_text _)⟩⟩
  have distinct : payment.parameterNames.Nodup := by
    simp [parameterNames, payment, resultParameter, resultName]
  have words : ∀ p ∈ payment.arguments,
      p.name.toText ≠ "" ∧ p.name.toText.toList.all isNameChar :=
    List.forall_mem_cons.2 ⟨by decide, List.forall_mem_singleton.2 (by decide)⟩
  obtain ⟨-, hdistinct, -, htokens⟩ := placeholders_distinct_iff texts distinct
  have hnone : ¬(payment.isFunction = true ∧ .text resultWord ∈ payment.parameterNames) := by
    simp [parameterNames, payment, resultParameter, resultName, resultWord]
  exact ⟨texts, distinct, by cbv, by cbv, hdistinct.2 hnone,
    htokens (by decide) (by decide) words⟩

def resultOfResult : Routine :=
  { name := .text "F", parameters := [resultParameter, { name := .text "result", type := .integer }] }

theorem result_placeholder_shared :
    (∀ p ∈ resultOfResult.parameters, p.name.IsText) ∧ resultOfResult.parameterNames.Nodup ∧
      resultOfResult.call = "BEGIN :result := F(:result); END;" ∧
      ¬resultOfResult.placeholders.Nodup := by
  refine ⟨?_, ?_, by cbv, by decide⟩
  · exact List.forall_mem_cons.2 ⟨Value.isText_text _,
      List.forall_mem_singleton.2 (Value.isText_text _)⟩
  · simp [parameterNames, resultOfResult, resultParameter, resultName]

end Routine

end OracleCatalog
