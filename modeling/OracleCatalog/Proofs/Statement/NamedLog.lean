import OracleCatalog.Proofs.Name
import OracleCatalog.Proofs.Statement.Interpolation
import OracleCatalog.Proofs.Statement.Lockstep

/-!
# The log of values of names

On the cursor a value is bound under its bare name, where it replaces what was bound to any other
spelling of that name. The log goes by the spellings as they were given, in the order in which each
was given first, and passes over nulls. So the log shows what has been sent exactly when both come
to the same text for every name, and for that it is enough that each name has one spelling.
-/

namespace OracleCatalog

/-! ### Spellings -/

/-- Every name is bound under one spelling, with one colon before it at most. -/
structure SpelledOnce (bound : Entries) : Prop where
  unique : ∀ s t, .text s ∈ OrderedMap.keys bound → .text t ∈ OrderedMap.keys bound →
    bareName s = bareName t → s = t
  plain : ∀ s, .text s ∈ OrderedMap.keys bound → (Value.text s).spells (bareName s).toList = true

theorem bareName_of_spells {s : String} {name : List Char} (h : (Value.text s).spells name = true)
    (hname : name.head? ≠ some ':') : bareName s = String.ofList name := by
  have hcolon : bareName (String.ofList (':' :: name)) = String.ofList name := by
    rw [bareName, String.toList_ofList, List.dropWhile_cons_of_pos rfl, dropWhile_colon hname]
  unfold Value.spells Value.isText at h
  rw [Bool.or_eq_true, beq_iff_eq, beq_iff_eq] at h
  rcases h with rfl | rfl
  · exact bareName_of_head (by rwa [String.toList_ofList])
  · exact hcolon

/-! ### What is shown as bound and what is on the cursor -/

/-- What the cursor has under a name is what is shown as bound to a spelling of it. -/
structure Named (bound : Entries) (bindings : Bindings) : Prop where
  positional : bindings.positional = []
  texts : OrderedMap.KeysIn Value.IsText bound
  textsOnCursor : OrderedMap.KeysIn Value.IsText bindings.named
  distinct : (OrderedMap.keys bound).Nodup
  onCursor : ∀ s, .text s ∈ OrderedMap.keys bound →
    (OrderedMap.get? (.text (bareName s)) bindings.named).isSome = true
  shown : ∀ name value, OrderedMap.get? (.text name) bindings.named = some value →
    ∃ s, bareName s = name ∧ OrderedMap.get? (.text s) bound = some value

theorem Named.put {bound : Entries} {bindings : Bindings} (h : Named bound bindings) (s : String)
    (value : Value) :
    Named (bound.put (.text s) value)
      { bindings with named := bindings.named.put (.text (bareName s)) value } := by
  have lawful := Value.lawfulOn_isText
  have hget : ∀ name, OrderedMap.get? (.text name) (bindings.named.put (.text (bareName s)) value) =
      if Value.text name == .text (bareName s) then some value
      else OrderedMap.get? (.text name) bindings.named := fun name =>
    OrderedMap.get?_put lawful h.textsOnCursor (Value.isText_text _) (Value.isText_text name) value
  have hbound : ∀ t, OrderedMap.get? (.text t) (bound.put (.text s) value) =
      if Value.text t == .text s then some value else OrderedMap.get? (.text t) bound := fun t =>
    OrderedMap.get?_put lawful h.texts (Value.isText_text s) (Value.isText_text t) value
  refine ⟨h.positional, OrderedMap.keysIn_put h.texts (Value.isText_text s) value,
    OrderedMap.keysIn_put h.textsOnCursor (Value.isText_text _) value,
    OrderedMap.nodup_put lawful h.texts (Value.isText_text s) value h.distinct, ?_, ?_⟩
  · intro t ht
    rw [hget]
    split
    · rfl
    · rename_i hne
      rcases (OrderedMap.mem_keys_put lawful h.texts (Value.isText_text s) value).1 ht with heq | ht
      · rw [Value.text.inj heq] at hne
        exact absurd (lawful.beq_self (Value.isText_text _)) hne
      · exact h.onCursor t ht
  · intro name v hv
    rw [hget] at hv
    split at hv
    · rename_i heq
      rw [Value.text_beq, beq_iff_eq] at heq
      refine ⟨s, heq.symm, ?_⟩
      rw [hbound, lawful.beq_self (Value.isText_text s), if_pos rfl]
      exact hv
    · rename_i hne
      obtain ⟨t, rfl, ht⟩ := h.shown name v hv
      refine ⟨t, rfl, ?_⟩
      rw [hbound, if_neg, ht]
      intro heq
      rw [Value.text_beq, beq_iff_eq] at heq
      rw [heq, lawful.beq_self (Value.isText_text _)] at hne
      exact hne rfl

theorem tracking_named : Tracking Value.IsText Named where
  start := by
    refine ⟨rfl, OrderedMap.keysIn_nil, OrderedMap.keysIn_nil, List.nodup_nil, ?_, ?_⟩
    · intro s hs
      cases hs
    · intro name value hget
      cases hget
  step := by
    rintro bound bindings placeholder h ⟨s, rfl⟩ value
    exact ⟨_, Bindings.bind_text bindings s value, h.put s value⟩
  behind := by
    rintro placeholder shifted offset ⟨s, rfl⟩ hshifted
    cases hshifted

/-! ### What has been sent, as a log would show it -/

/-- What stands for a name that is sent with others. The result of a function stays, and so does a
name without a value. -/
def sentNameText (sent : Entries) (name : List Char) : List Char :=
  if String.ofList (':' :: name) = resultName then ':' :: name
  else
    match OrderedMap.get? (.text (String.ofList name)) sent with
    | some value => if value.isNull then ':' :: name else (Literal.ofBound value).toList
    | none => ':' :: name

def Token.withSent (sent : Entries) : Token → List Char
  | .named name => sentNameText sent name
  | token => token.text

def withSent (sent : Entries) (statement : String) : String :=
  String.ofList ((Token.ofText statement.toList).flatMap (Token.withSent sent))

def IsTokenName (name : List Char) : Prop := name ≠ [] ∧ ∀ c ∈ name, isNameChar c = true

theorem IsTokenName.head_ne_colon {name : List Char} (h : IsTokenName name) :
    name.head? ≠ some ':' := by
  intro hhead
  exact absurd (h.2 ':' (List.mem_of_mem_head? hhead)) (by decide)

theorem Named.value_eq {bound : Entries} {bindings : Bindings} (h : Named bound bindings)
    (once : SpelledOnce bound) {s : String} {key value other : Value} {name : List Char}
    (hname : name.head? ≠ some ':') (hs : bareName s = String.ofList name)
    (hvalue : OrderedMap.get? (.text s) bound = some value) (hmem : (key, other) ∈ bound)
    (hspells : key.spells name = true) : other = value := by
  have hkey : key ∈ OrderedMap.keys bound := List.mem_map.2 ⟨_, hmem, rfl⟩
  obtain ⟨t, rfl⟩ := h.texts key hkey
  have hsmem : .text s ∈ OrderedMap.keys bound :=
    List.mem_map.2 ⟨_, OrderedMap.mem_of_get? Value.lawfulOn_isText h.texts
      (Value.isText_text s) hvalue, rfl⟩
  obtain rfl := once.unique s t hsmem hkey (hs.trans (bareName_of_spells hspells hname).symm)
  have hother := OrderedMap.get?_of_mem Value.lawfulOn_isText h.texts h.distinct hmem
  exact Option.some.inj (hother.symm.trans hvalue)

/-- When each name has one spelling, the log shows what is sent under it. -/
theorem Named.nameText_eq {bound : Entries} {bindings : Bindings} (h : Named bound bindings)
    (once : SpelledOnce bound) {name : List Char} (hname : name.head? ≠ some ':') :
    nameText bound name = sentNameText bindings.named name := by
  unfold nameText sentNameText
  by_cases hresult : String.ofList (':' :: name) = resultName
  · rw [if_pos hresult, if_pos hresult]
  rw [if_neg hresult, if_neg hresult]
  cases hget : OrderedMap.get? (.text (String.ofList name)) bindings.named with
  | none =>
    have hnone : lastValue? bound name = none := by
      refine lastValue?_eq_none_iff.2 fun key value hmem hspells => ?_
      have hkey : key ∈ OrderedMap.keys bound := List.mem_map.2 ⟨_, hmem, rfl⟩
      obtain ⟨t, rfl⟩ := h.texts key hkey
      have hsent := h.onCursor t hkey
      rw [bareName_of_spells hspells hname, hget] at hsent
      cases hsent
    rw [hnone]
  | some value =>
    obtain ⟨s, hs, hvalue⟩ := h.shown _ _ hget
    have hmem := OrderedMap.mem_of_get? Value.lawfulOn_isText h.texts (Value.isText_text s) hvalue
    have hspells : (Value.text s).spells name = true := by
      have hplain := once.plain s (List.mem_map.2 ⟨_, hmem, rfl⟩)
      rw [hs, String.toList_ofList] at hplain
      exact hplain
    cases hlast : lastValue? bound name with
    | none => exact (if_pos (lastValue?_eq_none_iff.1 hlast _ _ hmem hspells)).symm
    | some last =>
      obtain ⟨hnull, key, hkey, hkeySpells⟩ := lastValue?_eq_some hlast
      obtain rfl := h.value_eq once hname hs hvalue hkey hkeySpells
      exact (if_neg (ne_true_of_eq_false hnull)).symm

theorem replacedFrom_eq_withSent {bound sent : Entries} (index : Nat) {tokens : List Token}
    (hpositions : positionValues bound = [])
    (h : ∀ name, .named name ∈ tokens → nameText bound name = sentNameText sent name) :
    replacedFrom bound index tokens = tokens.flatMap (Token.withSent sent) := by
  induction tokens generalizing index with
  | nil => rfl
  | cons token tokens ih =>
    have hrest := ih (if token = .question then index + 1 else index)
      fun name hname => h name (List.mem_cons_of_mem _ hname)
    rw [replacedFrom, List.flatMap_cons, hrest]
    congr 1
    cases token with
    | question =>
      rw [Token.replaced, hpositions]
      rfl
    | named name => exact h name List.mem_cons_self
    | _ => rfl

theorem positionValues_of_texts {bound : Entries} (texts : OrderedMap.KeysIn Value.IsText bound) :
    positionValues bound = [] := by
  unfold positionValues OrderedMap.values
  rw [List.map_eq_nil_iff, List.filter_eq_nil_iff]
  intro entry hentry
  obtain ⟨s, hs⟩ := texts entry.1 (List.mem_map.2 ⟨entry, hentry, rfl⟩)
  rw [hs]
  exact Bool.false_ne_true

theorem replaced_eq_withSent {bound sent : Entries} (texts : OrderedMap.KeysIn Value.IsText bound)
    (h : ∀ name, IsTokenName name → nameText bound name = sentNameText sent name) (sql : String) :
    replaced bound sql = withSent sent sql := by
  refine congrArg String.ofList (replacedFrom_eq_withSent 0 (positionValues_of_texts texts) ?_)
  intro name hname
  obtain ⟨rest, hne, hall, -⟩ := Token.isLongest_of_mem hname
  exact h name ⟨hne, hall⟩

theorem ofText_name {name : List Char} (h : IsTokenName name) :
    Token.ofText (String.ofList (':' :: name)).toList = [.named name] := by
  have hlongest : (Token.named name).IsLongest [] := ⟨h.1, h.2, fun c hc => by cases hc⟩
  have hcut := Token.eq_ofText_of_cut (.cons hlongest .nil)
  rw [String.toList_ofList, hcut, List.append_nil]
  rfl

theorem replaced_name {name : List Char} (h : IsTokenName name) (bound : Entries) :
    replaced bound (String.ofList (':' :: name)) = String.ofList (nameText bound name) := by
  rw [replaced, ofText_name h, replacedFrom, replacedFrom, List.append_nil]
  rfl

theorem withSent_name {name : List Char} (h : IsTokenName name) (sent : Entries) :
    withSent sent (String.ofList (':' :: name)) = String.ofList (sentNameText sent name) := by
  rw [withSent, ofText_name h, List.flatMap_cons, List.flatMap_nil, List.append_nil]
  rfl

/-! ### Runs -/

namespace LoggedStatement

variable {α : Type} {sql : String} {placeholders : Entries}

def SendsNames (o : Outcome LoggedStatement α) (sent : Entries) : Prop :=
  ∃ cursor sql, .execute cursor sql (.map sent) ∈ o.environment.events

/-- An execution that has sent the values of bare names on the cursor, and shows those that the
statement keeps as bound. -/
structure ExecutesNames (sql : String) (o : Outcome LoggedStatement α) : Prop where
  sends : ∀ sent, SendsNames o sent ↔ sent = o.state.statement.inner.base.bindings.named
  shows : Shows o (replaced o.state.statement.bound sql)

theorem Executed.executesNames {o : Outcome LoggedStatement α} (h : Executed sql o)
    (hnamed : Named o.state.statement.bound o.state.statement.inner.base.bindings) :
    ExecutesNames sql o := by
  obtain ⟨cursor, hevents⟩ := h.sends
  have hsent : o.state.statement.inner.base.bindings.sent =
      .map o.state.statement.inner.base.bindings.named := by
    rw [Bindings.sent, Bindings.isNamed, hnamed.positional]
    rfl
  have hkeys : OrderedMap.KeysIn Value.IsPlaceholder o.state.statement.bound :=
    fun k hk => .inr (hnamed.texts k hk)
  have hshown : shownText o.state.statement.bound sql = replaced o.state.statement.bound sql := by
    rw [shownText, LogEntry.interpolated_eq hkeys]
  refine ⟨fun sent => ?_, hshown ▸ h.shows⟩
  unfold SendsNames
  rw [hevents, hsent]
  constructor
  · rintro ⟨_, _, hmem⟩
    cases List.mem_singleton.1 hmem
    rfl
  · rintro rfl
    exact ⟨_, _, List.mem_singleton_self _⟩

section Runs

variable {cursor : Cursor} {buffering : Value} {log : String} {env : Environment}
  {requests : List Request}

theorem executesNames_of_sends (texts : ∀ v ∈ OrderedMap.values placeholders, v.IsText)
    (h : ∀ request ∈ requests, request.BindsOnly Value.IsText) (fractions : env.TellsFractions)
    {o : Outcome LoggedStatement Value}
    (ho : o ∈ run cursor buffering placeholders log env requests sql) {sent : Entries}
    (hsends : SendsNames o sent) : ExecutesNames sql o := by
  rcases executed_of_run h fractions ho with hquiet | hexecuted
  · obtain ⟨cursor, sql, hmem⟩ := hsends
    rw [hquiet] at hmem
    cases hmem
  · exact hexecuted.executesNames (related_of_run tracking_named texts h ho)

theorem exists_sending_counterpart (texts : ∀ v ∈ OrderedMap.values placeholders, v.IsText)
    (h : ∀ request ∈ requests, request.BindsOnly Value.IsText) (fractions : env.TellsFractions)
    (sql' : String) {o : Outcome LoggedStatement Value}
    (ho : o ∈ run cursor buffering placeholders log env requests sql) {sent : Entries}
    (hsends : SendsNames o sent) :
    ∃ o' ∈ run cursor buffering placeholders log env requests sql',
      o.state.statement.bound = o'.state.statement.bound ∧ SendsNames o' sent := by
  obtain ⟨o', ho', hlockstep⟩ := exists_counterpart h fractions sql' ho
  refine ⟨o', ho', hlockstep.bindings.bound_eq, ?_⟩
  rcases hlockstep.cases with ⟨hquiet, -⟩ | ⟨hexecuted, hexecuted'⟩
  · obtain ⟨cursor, sql, hmem⟩ := hsends
    rw [hquiet] at hmem
    cases hmem
  · have hexecutes := hexecuted.executesNames (related_of_run tracking_named texts h ho)
    have hexecutes' := hexecuted'.executesNames (related_of_run tracking_named texts h ho')
    refine (hexecutes'.sends sent).2 ?_
    rw [(hexecutes.sends sent).1 hsends, hlockstep.bindings.base.bindings_eq]

end Runs

def bindNames (values : List (String × Value)) : List Request :=
  values.map (fun (name, value) => .bindValue (.text name) value .null) ++ [.execute .null]

def runNames (values : List (String × Value)) : String → List (Outcome LoggedStatement Value) :=
  run { number := 0 } (.bool false) [] defaultLog {} (bindNames values)

theorem bindNames_bindsOnly (values : List (String × Value)) :
    ∀ request ∈ bindNames values, request.BindsOnly Value.IsText := by
  intro request hrequest
  rcases List.mem_append.1 hrequest with hrequest | hrequest
  · obtain ⟨⟨name, value⟩, -, rfl⟩ := List.mem_map.1 hrequest
    exact Value.isText_text name
  · obtain rfl := List.mem_singleton.1 hrequest
    intro placements hplacements
    cases hplacements

theorem texts_nil : ∀ v ∈ OrderedMap.values ([] : Entries), v.IsText := by
  intro v hv
  cases hv

def oneSpelling : List (String × Value) := [(":a", .text "x"), ("b", .null), (":a", .text "y")]

theorem spelledOnce_oneSpelling : SpelledOnce [(.text ":a", .text "y"), (.text "b", .null)] := by
  have hkeys : ∀ s, .text s ∈ OrderedMap.keys [(Value.text ":a", Value.text "y"),
      (.text "b", .null)] → s = ":a" ∨ s = "b" := by
    intro s hs
    rcases List.mem_cons.1 hs with hs | hs
    · exact .inl (Value.text.inj hs)
    · exact .inr (Value.text.inj (List.mem_singleton.1 hs))
  constructor
  · intro s t hs ht hst
    rcases hkeys s hs with rfl | rfl <;> rcases hkeys t ht with rfl | rfl
    · rfl
    · exact absurd hst (by decide)
    · exact absurd hst (by decide)
    · rfl
  · intro s hs
    rcases hkeys s hs with rfl | rfl
    · decide
    · decide

def twoSpellings : List (String × Value) := [("a", .text "x"), (":a", .text "y"), ("a", .text "z")]

end LoggedStatement

end OracleCatalog
