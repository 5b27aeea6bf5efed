import OracleCatalog.Proofs.Statement.Tracking

/-!
# What is shown as bound is what the cursor has

A prepared statement shows its bound values in one map, and the statement on the cursor keeps those
at positions and those of names apart. As long as no name is written with a colon, the two halves of
the map are the two maps on the cursor.
-/

namespace OracleCatalog

/-! ### Halves of a map -/

namespace OrderedMap

variable {κ α : Type} {p : κ → Bool} {map : OrderedMap κ α} {key : κ}

theorem filter_cons_of_key (hkey : p key = true) (value : α) (rest : OrderedMap κ α) :
    List.filter (fun entry => p entry.1) ((key, value) :: rest) =
      (key, value) :: rest.filter fun entry => p entry.1 := List.filter_cons_of_pos hkey

theorem filter_cons_of_not_key (hkey : ¬ p key = true) (value : α) (rest : OrderedMap κ α) :
    List.filter (fun entry => p entry.1) ((key, value) :: rest) =
      rest.filter fun entry => p entry.1 := List.filter_cons_of_neg hkey

variable [BEq κ]

theorem filter_put_of_pos (hkey : p key = true)
    (hsame : ∀ k ∈ keys map, (key == k) = true → p k = true) (value : α) :
    (put key value map).filter (fun entry => p entry.1) =
      put key value (map.filter fun entry => p entry.1) := by
  induction map with
  | nil => rw [put, filter_cons_of_key hkey, List.filter_nil, put]
  | cons entry rest ih =>
    obtain ⟨k, v⟩ := entry
    have hrest := ih fun k' hk' => hsame k' (List.mem_cons_of_mem _ hk')
    rw [put]
    by_cases hput : (key == k) = true
    · have hk : p k = true := hsame k List.mem_cons_self hput
      rw [if_pos hput, filter_cons_of_key hk, filter_cons_of_key hk, put, if_pos hput]
    · rw [if_neg hput]
      by_cases hk : p k = true
      · rw [filter_cons_of_key hk, filter_cons_of_key hk, hrest, put, if_neg hput]
      · rw [filter_cons_of_not_key hk, filter_cons_of_not_key hk, hrest]

theorem filter_put_of_neg (hkey : p key = false)
    (hsame : ∀ k ∈ keys map, (key == k) = true → p k = false) (value : α) :
    (put key value map).filter (fun entry => p entry.1) = map.filter fun entry => p entry.1 := by
  induction map with
  | nil => rw [put, filter_cons_of_not_key (ne_true_of_eq_false hkey)]
  | cons entry rest ih =>
    obtain ⟨k, v⟩ := entry
    have hrest := ih fun k' hk' => hsame k' (List.mem_cons_of_mem _ hk')
    rw [put]
    by_cases hput : (key == k) = true
    · have hk : ¬ p k = true := ne_true_of_eq_false (hsame k List.mem_cons_self hput)
      rw [if_pos hput, filter_cons_of_not_key hk, filter_cons_of_not_key hk]
    · rw [if_neg hput]
      by_cases hk : p k = true
      · rw [filter_cons_of_key hk, filter_cons_of_key hk, hrest]
      · rw [filter_cons_of_not_key hk, filter_cons_of_not_key hk, hrest]

end OrderedMap

/-! ### Plain placeholders -/

namespace Value

def isTextual : Value → Bool
  | .text _ => true
  | _ => false

/-- A position, or a name that does not begin with a colon. -/
def IsPlain (v : Value) : Prop :=
  v.position?.isSome = true ∨ ∃ s, v = .text s ∧ s.toList.head? ≠ some ':'

theorem isTextual_of_text_beq {s : String} {v : Value} (h : (text s == v) = true) :
    v.isTextual = true := by
  cases v with
  | text t => rfl
  | _ => cases h

theorem isTextual_of_position {v : Value} (h : v.position?.isSome = true) :
    v.isTextual = false := by
  cases v with
  | text t => cases h
  | _ => rfl

theorem not_isTextual_of_position_beq {v w : Value} (h : v.position?.isSome = true)
    (hvw : (v == w) = true) : w.isTextual = false := by
  cases w with
  | text t =>
    cases v with
    | int i => cases hvw
    | bool b => cases hvw
    | _ => cases h
  | _ => rfl

theorem IsPlain.position_of_not_textual {v : Value} (h : v.IsPlain) (hv : v.isTextual = false) :
    v.position?.isSome = true := by
  rcases h with h | ⟨s, rfl, -⟩
  · exact h
  · cases hv

theorem IsPlain.behind {v shifted : Value} {offset : Nat} (h : v.IsPlain)
    (hshifted : v.behind offset = .ok shifted) : shifted.IsPlain := by
  rcases h with h | ⟨s, rfl, -⟩
  · cases v with
    | int i =>
      obtain rfl := Except.ok.inj hshifted
      exact .inl rfl
    | bool b =>
      obtain rfl := Except.ok.inj hshifted
      exact .inl rfl
    | _ => cases h
  · cases hshifted

end Value

/-! ### The two halves -/

/-- What is shown as bound to positions and to names is what is bound to them on the cursor. -/
structure Mirrors (bound : Entries) (bindings : Bindings) : Prop where
  plain : OrderedMap.KeysIn Value.IsPlain bound
  positional : bound.filter (fun entry => entry.1.position?.isSome) = bindings.positional
  named : bound.filter (fun entry => entry.1.isTextual) = bindings.named

theorem Mirrors.put_position {bound : Entries} {bindings : Bindings} (h : Mirrors bound bindings)
    {placeholder : Value} (hposition : placeholder.position?.isSome = true) (value : Value) :
    Mirrors (bound.put placeholder value)
      { bindings with positional := bindings.positional.put placeholder value } := by
  have hsame : ∀ k ∈ OrderedMap.keys bound, (placeholder == k) = true → k.isTextual = false :=
    fun k _ heq => Value.not_isTextual_of_position_beq hposition heq
  refine ⟨OrderedMap.keysIn_put h.plain (.inl hposition) value, ?_, ?_⟩
  · rw [← h.positional]
    exact OrderedMap.filter_put_of_pos (p := fun k : Value => k.position?.isSome) hposition
      (fun k hk heq => (h.plain k hk).position_of_not_textual (hsame k hk heq)) value
  · rw [← h.named]
    exact OrderedMap.filter_put_of_neg (p := Value.isTextual)
      (Value.isTextual_of_position hposition) hsame value

theorem Mirrors.put_name {bound : Entries} {bindings : Bindings} (h : Mirrors bound bindings)
    {s : String} (hs : s.toList.head? ≠ some ':') (value : Value) :
    Mirrors (bound.put (.text s) value)
      { bindings with named := bindings.named.put (.text s) value } := by
  have hsame : ∀ k ∈ OrderedMap.keys bound, (Value.text s == k) = true → k.isTextual = true :=
    fun k _ heq => Value.isTextual_of_text_beq heq
  refine ⟨OrderedMap.keysIn_put h.plain (.inr ⟨s, rfl, hs⟩) value, ?_, ?_⟩
  · rw [← h.positional]
    refine OrderedMap.filter_put_of_neg (p := fun k : Value => k.position?.isSome) rfl ?_ value
    intro k hk heq
    have htextual := hsame k hk heq
    cases hposition : k.position?.isSome with
    | false => rfl
    | true => rw [Value.isTextual_of_position hposition] at htextual; cases htextual
  · rw [← h.named]
    exact OrderedMap.filter_put_of_pos (p := Value.isTextual) rfl hsame value

theorem tracking_mirrors : Tracking Value.IsPlain Mirrors where
  start := ⟨OrderedMap.keysIn_nil, rfl, rfl⟩
  behind := fun h hshifted => h.behind hshifted
  step := by
    rintro bound bindings placeholder h (hposition | ⟨s, rfl, hs⟩) value
    · obtain ⟨i, hi⟩ := Option.isSome_iff_exists.1 hposition
      refine ⟨_, ?_, h.put_position hposition value⟩
      unfold Bindings.bind
      rw [hi]
    · refine ⟨_, ?_, h.put_name hs value⟩
      rw [Bindings.bind_text, bareName_of_head hs]

namespace PreparedStatement

/-- In every state that is reached, whether rows are buffered or not, the values that are shown as
bound to positions and to names are those on the cursor. -/
theorem bound_mirrors_cursor (cursor : Cursor) (sql : String) (buffering : Value)
    (ownText : Option String) (env : Environment) {placeholders : Entries}
    (finals : ∀ v ∈ OrderedMap.values placeholders, v.IsPlain) {requests : List Request}
    (h : ∀ request ∈ requests, request.BindsIn Value.IsPlain) :
    ∀ o ∈ Action.outcomes (requests.map answer)
        { inner := .plain { cursor, sql }, buffering, placeholders, ownText } env,
      o.state.bound.filter (fun entry => entry.1.position?.isSome) =
          o.state.inner.base.bindings.positional ∧
        o.state.bound.filter (fun entry => entry.1.isTextual) =
          o.state.inner.base.bindings.named := by
  intro o ho
  have hkeeps : ∀ action ∈ requests.map answer,
      Action.Keeps (Tracks Mirrors placeholders) action := by
    intro action haction
    obtain ⟨request, hrequest, rfl⟩ := List.mem_map.1 haction
    exact keeps_answer tracking_mirrors finals (h request hrequest)
  have htracks := Action.keeps_outcomes hkeeps ⟨rfl, tracking_mirrors.start⟩ env o ho
  exact ⟨htracks.related.positional, htracks.related.named⟩

/-- A position, a name that stands for another, a buffer around the statement, and a position that
is bound when the statement has been executed. -/
def mixedRequests : List Request :=
  [.bind (.list [.text "x"]) .null, .bind (.map [(.text "b", .text "y")]) .null,
    .buffer (.bool true), .execute .null, .bindValue (.int 1) .null .null]

def mixedRun : List (Outcome PreparedStatement Value) :=
  Action.outcomes (mixedRequests.map answer)
    { inner := .plain { cursor := { number := 0 }, sql := "? ? :c" }
      buffering := .bool false
      placeholders := [(.text "b", .text "c")]
      ownText := none } {}

theorem mixedRequests_plain : ∀ request ∈ mixedRequests, request.BindsIn Value.IsPlain := by
  intro request hrequest
  rcases List.mem_cons.1 hrequest with rfl | hrequest
  · intro placements hplacements
    obtain rfl := Except.ok.inj hplacements
    exact OrderedMap.keysIn_cons.2 ⟨.inl rfl, OrderedMap.keysIn_nil⟩
  rcases List.mem_cons.1 hrequest with rfl | hrequest
  · intro placements hplacements
    obtain rfl := Except.ok.inj hplacements
    exact OrderedMap.keysIn_cons.2 ⟨.inr ⟨"b", rfl, by decide⟩, OrderedMap.keysIn_nil⟩
  rcases List.mem_cons.1 hrequest with rfl | hrequest
  · trivial
  rcases List.mem_cons.1 hrequest with rfl | hrequest
  · intro placements hplacements
    cases hplacements
  · obtain rfl := List.mem_singleton.1 hrequest
    exact .inl rfl

theorem bound_mirrors_cursor_mixed :
    ∃ o ∈ mixedRun, o.state.wrapping = .buffered ∧
      o.state.bound = [(.int 0, .text "x"), (.text "c", .text "y"), (.int 1, .null)] ∧
      o.state.inner.base.bindings.positional = [(.int 0, .text "x"), (.int 1, .null)] ∧
      o.state.inner.base.bindings.named = [(.text "c", .text "y")] := by
  have ho : mixedRun[4] ∈ mixedRun := List.getElem_mem _
  have finals : ∀ v ∈ OrderedMap.values [(Value.text "b", Value.text "c")], v.IsPlain := by
    intro v hv
    obtain rfl := List.mem_singleton.1 hv
    exact .inr ⟨"c", rfl, by decide⟩
  have hbound : mixedRun[4].state.bound =
      [(.int 0, .text "x"), (.text "c", .text "y"), (.int 1, .null)] := rfl
  obtain ⟨hpositional, hnamed⟩ := bound_mirrors_cursor { number := 0 } "? ? :c" (.bool false) none
    {} finals mixedRequests_plain mixedRun[4] ho
  rw [hbound] at hpositional hnamed
  exact ⟨mixedRun[4], ho, rfl, hbound, hpositional.symm, hnamed.symm⟩

end PreparedStatement

end OracleCatalog
