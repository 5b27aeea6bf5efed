import OracleCatalog.Proofs.OrderedMap
import OracleCatalog.Proofs.Statement.Cut
import OracleCatalog.Proofs.Statement.Placeholder
import OracleCatalog.Statement.Binding

/-!
# Values in the place of placeholders

Interpolation puts values in the place of the tokens of a statement, each token by itself: question
marks take the values of positions one after the other, and a name takes the last value that is
bound to it, however it is spelled. What is put in place is not looked at again.
-/

namespace OracleCatalog

def Value.IsPlaceholder (v : Value) : Prop := v.position?.isSome = true ∨ ∃ s, v = .text s

/-- Whether a placeholder is the name, written with a colon before it or without. -/
def Value.spells (name : List Char) (placeholder : Value) : Bool :=
  placeholder.isText (String.ofList name) || placeholder.isText (String.ofList (':' :: name))

/-! ### Replacing tokens -/

/-- The values that are bound to positions, in the order of the entries. -/
def positionValues (bound : Entries) : List Value :=
  OrderedMap.values (bound.filter fun entry => entry.1.position?.isSome)

/-- The last value other than null that is bound to a name. -/
def lastValue? (bound : Entries) (name : List Char) : Option Value :=
  (OrderedMap.values
    (bound.filter fun entry => entry.1.spells name && !entry.2.isNull)).getLast?

/-- What stands for a name. The result of a function stays, and so does a name without a value. -/
def nameText (bound : Entries) (name : List Char) : List Char :=
  if String.ofList (':' :: name) = resultName then ':' :: name
  else
    match lastValue? bound name with
    | some v => (Literal.ofBound v).toList
    | none => ':' :: name

/-- What stands for a token that has `index` question marks before it. -/
def Token.replaced (bound : Entries) (index : Nat) : Token → List Char
  | .question => (((positionValues bound)[index]?).map questionText).getD ['?']
  | .named name => nameText bound name
  | token => token.text

/-- Tokens with values in their place, behind `index` question marks. -/
def replacedFrom (bound : Entries) : Nat → List Token → List Char
  | _, [] => []
  | index, token :: tokens =>
    token.replaced bound index ++
      replacedFrom bound (if token = .question then index + 1 else index) tokens

def replaced (bound : Entries) (statement : String) : String :=
  String.ofList (replacedFrom bound 0 (Token.ofText statement.toList))

/-! ### What a substitution keeps of the bound values -/

theorem positionValues_concat (bound : Entries) (key value : Value) :
    positionValues (bound ++ [(key, value)]) =
      positionValues bound ++ if key.position?.isSome then [value] else [] := by
  unfold positionValues OrderedMap.values
  rw [List.filter_append, List.map_append, List.filter_cons, List.filter_nil]
  split <;> rfl

theorem lastValue?_concat (bound : Entries) (key value : Value) (name : List Char) :
    lastValue? (bound ++ [(key, value)]) name =
      if key.spells name && !value.isNull then some value else lastValue? bound name := by
  unfold lastValue? OrderedMap.values
  rw [List.filter_append, List.map_append, List.filter_cons, List.filter_nil]
  split
  · exact List.getLast?_concat
  · rw [List.map_nil, List.append_nil]

theorem lastValue?_eq_some {bound : Entries} {name : List Char} {value : Value}
    (h : lastValue? bound name = some value) :
    value.isNull = false ∧ ∃ key, (key, value) ∈ bound ∧ key.spells name = true := by
  obtain ⟨⟨key, v⟩, hmem, rfl⟩ := List.mem_map.1 (List.mem_of_getLast? h)
  obtain ⟨hbound, hlast⟩ := List.mem_filter.1 hmem
  obtain ⟨hspells, hnull⟩ := Bool.and_eq_true_iff.1 hlast
  rw [Bool.not_eq_true'] at hnull
  exact ⟨hnull, key, hbound, hspells⟩

theorem lastValue?_eq_none_iff {bound : Entries} {name : List Char} :
    lastValue? bound name = none ↔
      ∀ key value, (key, value) ∈ bound → key.spells name = true → value.isNull = true := by
  unfold lastValue? OrderedMap.values
  rw [List.getLast?_eq_none_iff, List.map_eq_nil_iff, List.filter_eq_nil_iff]
  constructor
  · intro h key value hmem hspells
    have hlast := h (key, value) hmem
    rw [hspells, Bool.true_and, Bool.not_eq_true', Bool.not_eq_false] at hlast
    exact hlast
  · rintro h ⟨key, value⟩ hmem hlast
    obtain ⟨hspells, hnull⟩ := Bool.and_eq_true_iff.1 hlast
    rw [h key value hmem hspells] at hnull
    cases hnull

namespace Substitution

/-- The literals are those of the bound values. -/
structure Holds (bound : Entries) (substitution : Substitution) : Prop where
  positional : substitution.positional = (positionValues bound).map literal?
  named : ∀ name, name.head? ≠ some ':' →
    OrderedMap.get? (String.ofList (':' :: name)) substitution.named =
      if String.ofList (':' :: name) = resultName then none
      else (lastValue? bound name).map Literal.ofBound

def withColon (s : String) : String := if s.toList.head? = some ':' then s else ":" ++ s

theorem withColon_eq_iff (s : String) {name : List Char} (h : name.head? ≠ some ':') :
    withColon s = String.ofList (':' :: name) ↔ (Value.text s).spells name = true := by
  have hcolon : (":" : String).toList = [':'] := by decide
  unfold withColon Value.spells Value.isText
  rw [Bool.or_eq_true, beq_iff_eq, beq_iff_eq]
  split
  · rename_i hs
    refine ⟨.inr, fun hor => hor.resolve_left ?_⟩
    rintro rfl
    rw [String.toList_ofList] at hs
    exact h hs
  · rename_i hs
    rw [← String.toList_inj, String.toList_append, hcolon, String.toList_ofList,
      ← String.toList_inj, String.toList_ofList]
    constructor
    · intro heq
      exact .inl (List.cons.inj heq).2
    · rintro (heq | rfl)
      · exact congrArg (':' :: ·) heq
      · rw [String.toList_ofList] at hs
        exact absurd rfl hs

theorem add_text_null (substitution : Substitution) (s : String) {value : Value}
    (h : value.isNull = true) : substitution.add (.text s) value = .ok substitution := by
  unfold add
  rw [if_pos h]
  rfl

theorem add_text_literal (substitution : Substitution) (s : String) {value : Value}
    (h : value.isNull = false) :
    substitution.add (.text s) value =
      .ok (if withColon s = resultName then substitution
        else { substitution with
          named := substitution.named.put (withColon s) (Literal.ofBound value) }) := by
  unfold add
  rw [if_neg (ne_true_of_eq_false h)]
  rfl

theorem Holds.add_text {bound : Entries} {substitution : Substitution}
    (h : substitution.Holds bound) (s : String) (value : Value) :
    ∃ next, substitution.add (.text s) value = .ok next ∧
      next.Holds (bound ++ [(.text s, value)]) := by
  have hpositions : positionValues (bound ++ [(.text s, value)]) = positionValues bound := by
    rw [positionValues_concat]
    exact List.append_nil _
  cases hvalue : value.isNull with
  | true =>
    refine ⟨_, add_text_null substitution s hvalue, hpositions ▸ h.positional, fun name hname => ?_⟩
    rw [lastValue?_concat, hvalue, Bool.not_true, Bool.and_false]
    exact h.named name hname
  | false =>
    refine ⟨_, add_text_literal substitution s hvalue, ?_, fun name hname => ?_⟩
    · rw [hpositions, ← h.positional]
      split <;> rfl
    · have hspells := withColon_eq_iff s hname
      rw [lastValue?_concat, hvalue, Bool.not_false, Bool.and_true]
      by_cases hresult : withColon s = resultName
      -- the result of a function takes no literal
      · rw [if_pos hresult, h.named name hname]
        by_cases hname' : String.ofList (':' :: name) = resultName
        · rw [if_pos hname', if_pos hname']
        · rw [if_neg hname', if_neg hname', if_neg]
          intro hsame
          exact hname' ((hspells.2 hsame).symm.trans hresult)
      · rw [if_neg hresult]
        by_cases hsame : String.ofList (':' :: name) = withColon s
        · rw [hsame, OrderedMap.get?_put_self, if_neg hresult, if_pos (hspells.1 hsame.symm)]
          rfl
        · rw [OrderedMap.get?_put_of_ne hsame, h.named name hname,
            if_neg fun hspelled => hsame (hspells.2 hspelled).symm]

theorem Holds.add {bound : Entries} {substitution : Substitution} (h : substitution.Holds bound)
    {key : Value} (hkey : key.IsPlaceholder) (value : Value) :
    ∃ next, substitution.add key value = .ok next ∧ next.Holds (bound ++ [(key, value)]) := by
  rcases hkey with hkey | ⟨s, rfl⟩
  · have hspells : ∀ name, key.spells name = false := by
      intro name
      cases key with
      | text s => cases hkey
      | _ => rfl
    have hadd : substitution.add key value =
        .ok { substitution with positional := substitution.positional ++ [literal? value] } := by
      cases key with
      | int i => rfl
      | bool b => rfl
      | _ => cases hkey
    refine ⟨_, hadd, ?_, fun name hname => ?_⟩
    · rw [positionValues_concat, if_pos hkey, List.map_append, h.positional]
      rfl
    · rw [lastValue?_concat, hspells]
      exact h.named name hname
  · exact h.add_text s value

theorem holds_nil : ({} : Substitution).Holds [] :=
  ⟨rfl, fun name _ => by split <;> rfl⟩

theorem exists_holds {bound : Entries} (keys : OrderedMap.KeysIn Value.IsPlaceholder bound) :
    ∃ substitution, ofBound bound = .ok substitution ∧ substitution.Holds bound := by
  have hall : ∀ (rest before : Entries) (substitution : Substitution),
      OrderedMap.KeysIn Value.IsPlaceholder rest → substitution.Holds before →
      ∃ next, rest.foldlM (fun substitution entry => substitution.add entry.1 entry.2)
        substitution = .ok next ∧ next.Holds (before ++ rest) := by
    intro rest
    induction rest with
    | nil =>
      intro before substitution _ h
      exact ⟨substitution, rfl, (List.append_nil before).symm ▸ h⟩
    | cons entry rest ih =>
      intro before substitution hkeys h
      obtain ⟨key, value⟩ := entry
      obtain ⟨hkey, hrest⟩ := OrderedMap.keysIn_cons.1 hkeys
      obtain ⟨next, hadd, hnext⟩ := h.add hkey value
      obtain ⟨last, hlast, hholds⟩ := ih (before ++ [(key, value)]) next hrest hnext
      refine ⟨last, ?_, ?_⟩
      · rw [List.foldlM_cons]
        dsimp only
        rw [hadd]
        exact hlast
      · rw [List.append_assoc] at hholds
        exact hholds
  exact hall bound [] {} keys holds_nil

/-! ### Interpolation is replacement -/

variable {bound : Entries} {substitution : Substitution}

theorem Holds.forQuestion_eq (h : substitution.Holds bound) (index : Nat) :
    substitution.forQuestion index = Token.question.replaced bound index := by
  unfold forQuestion Token.replaced
  rw [h.positional, List.getElem?_map]
  cases (positionValues bound)[index]? with
  | none => rfl
  | some v =>
    show _ = questionText v
    rw [← questionChars_literal?]
    dsimp only [Option.map_some]
    cases literal? v <;> rfl

theorem Holds.forName_eq (h : substitution.Holds bound) {name : List Char}
    (hname : name.head? ≠ some ':') : substitution.forName name = nameText bound name := by
  unfold forName nameText
  rw [h.named name hname]
  by_cases hresult : String.ofList (':' :: name) = resultName
  · rw [if_pos hresult, if_pos hresult]
  · rw [if_neg hresult, if_neg hresult]
    cases lastValue? bound name <;> rfl

theorem Holds.interpolateFrom_eq (h : substitution.Holds bound) (index : Nat) (cs : List Char) :
    substitution.interpolateFrom index cs = replacedFrom bound index (Token.ofText cs) := by
  fun_induction interpolateFrom substitution index cs with
  | case1 index => simp only [Token.ofText, replacedFrom]
  | case2 index cs ih =>
    rw [Token.ofText, h.forQuestion_eq, ih]
    rfl
  | case3 index hc =>
    have hnext : Token.next ':' [] = (.other ':', []) := rfl
    rw [Token.ofText, hnext, Token.ofText]
    rfl
  | case4 index d rest hname hcolon ih =>
    have hd : (d :: rest.takeWhile isNameChar).head? ≠ some ':' := by
      rintro ⟨⟩
      exact absurd hname (by decide)
    have hnext : Token.next ':' (d :: rest) =
        (.named (d :: rest.takeWhile isNameChar), rest.dropWhile isNameChar) := by
      simp [Token.next, hname]
    rw [Token.ofText, hnext, ih, h.forName_eq hd]
    rfl
  | case5 index d rest hname hpair hcolon ih =>
    have hnext : Token.next ':' (d :: rest) = (.pair d, rest) := by
      simp [Token.next, hname, hpair]
    rw [Token.ofText, hnext, ih]
    rfl
  | case6 index d rest hname hpair hcolon ih =>
    have hnext : Token.next ':' (d :: rest) = (.other ':', d :: rest) := by
      simp [Token.next, hname, hpair]
    rw [Token.ofText, hnext, ih]
    rfl
  | case7 index c cs hquestion hcolon ih =>
    have hnext : Token.next c cs = (.other c, cs) := by
      simp [Token.next, hquestion, hcolon]
    rw [Token.ofText, hnext, ih]
    rfl

end Substitution

/-! ### What tokens depend on -/

/-- Whether an entry can stand for one of the tokens: every position, and the names among them. -/
def isFor (tokens : List Token) (entry : Value × Value) : Bool :=
  entry.1.position?.isSome ||
    tokens.any fun token =>
      match token with
      | .named name => entry.1.spells name
      | _ => false

theorem isFor_of_position {entry : Value × Value} (h : entry.1.position?.isSome = true)
    (tokens : List Token) : isFor tokens entry = true := by
  rw [isFor, h, Bool.true_or]

theorem isFor_of_spells {entry : Value × Value} {name : List Char} {tokens : List Token}
    (h : entry.1.spells name = true) (hmem : .named name ∈ tokens) : isFor tokens entry = true := by
  rw [isFor, Bool.or_eq_true]
  exact .inr (List.any_eq_true.2 ⟨_, hmem, h⟩)

/-- Values that can stand for none of the tokens can be left out. -/
theorem replacedFrom_filter {bound : Entries} {p : Value × Value → Bool} (index : Nat)
    {tokens : List Token} (h : ∀ entry ∈ bound, isFor tokens entry = true → p entry = true) :
    replacedFrom (bound.filter p) index tokens = replacedFrom bound index tokens := by
  have hpositions : positionValues (bound.filter p) = positionValues bound := by
    unfold positionValues
    rw [List.filter_filter]
    refine congrArg _ (List.filter_congr fun entry hentry => ?_)
    cases hposition : entry.1.position?.isSome with
    | false => rfl
    | true => rw [h entry hentry (isFor_of_position hposition tokens)]; rfl
  induction tokens generalizing index with
  | nil => rfl
  | cons token tokens ih =>
    have hrest : ∀ entry ∈ bound, isFor tokens entry = true → p entry = true := by
      intro entry hentry hfor
      refine h entry hentry ?_
      rw [isFor, Bool.or_eq_true] at hfor ⊢
      refine hfor.imp_right fun hany => ?_
      rw [List.any_cons, hany, Bool.or_true]
    rw [replacedFrom, replacedFrom, ih _ hrest]
    congr 1
    cases token with
    | question => rw [Token.replaced, Token.replaced, hpositions]
    | named name =>
      have hlast : lastValue? (bound.filter p) name = lastValue? bound name := by
        unfold lastValue?
        rw [List.filter_filter]
        refine congrArg _ (congrArg _ (List.filter_congr fun entry hentry => ?_))
        cases hspells : entry.1.spells name with
        | false => rfl
        | true =>
          rw [h entry hentry (isFor_of_spells hspells List.mem_cons_self), Bool.and_true]
      rw [Token.replaced, Token.replaced, nameText, nameText, hlast]
    | _ => rfl

theorem replacedFrom_eq_text {bound : Entries} (index : Nat) {tokens : List Token}
    (hpositions : ∀ v ∈ positionValues bound, v.isNull = true)
    (hnames : ∀ name, .named name ∈ tokens →
      String.ofList (':' :: name) = resultName ∨ lastValue? bound name = none) :
    replacedFrom bound index tokens = tokens.flatMap Token.text := by
  induction tokens generalizing index with
  | nil => rfl
  | cons token tokens ih =>
    rw [replacedFrom, List.flatMap_cons,
      ih _ fun name hname => hnames name (List.mem_cons_of_mem _ hname)]
    congr 1
    cases token with
    | question =>
      unfold Token.replaced
      cases hget : (positionValues bound)[index]? with
      | none => rfl
      | some v => exact if_pos (hpositions v (List.mem_of_getElem? hget))
    | named name =>
      show nameText bound name = ':' :: name
      unfold nameText
      rcases hnames name List.mem_cons_self with hresult | hnone
      · exact if_pos hresult
      · rw [hnone]
        exact ite_self _
    | _ => rfl

namespace LogEntry

theorem interpolated_eq {entry : LogEntry}
    (keys : OrderedMap.KeysIn Value.IsPlaceholder entry.bound) :
    entry.interpolated = .ok (replaced entry.bound entry.statement) := by
  obtain ⟨substitution, hsubstitution, h⟩ := Substitution.exists_holds keys
  unfold interpolated
  rw [hsubstitution]
  exact congrArg (Except.ok ∘ String.ofList) (h.interpolateFrom_eq 0 entry.statement.toList)

def similarNames : LogEntry :=
  { statement := ":p10?:p1"
    bound := [(.text "p1", .text "?"), (.int 4, .text ":p1"), (.text ":p1", .null)] }

end LogEntry

end OracleCatalog
