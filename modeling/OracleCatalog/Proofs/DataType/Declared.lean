import Mathlib.Data.List.TakeWhile
import OracleCatalog.Proofs.DataType.Mapped
import OracleCatalog.Proofs.Definition.Column
import OracleCatalog.Proofs.Definition.Default
import OracleCatalog.Proofs.Definition.Typed
import OracleCatalog.Proofs.Text.Numeral
import OracleCatalog.Proofs.Text.Segments

/-!
# Declared types that are read back

A declaration is a name with numbers in brackets behind it. What is written in this way is taken
apart into the name and the numbers again, as long as the name has no bracket and the numbers can be
written at all.

The catalog reports a declared column by the name of its type and its numbers. So the type of a
column can be declared and read once more: it comes back as it was, apart from sizes that a
declaration fills in or leaves out. The one obstacle is a number with more digits than can be
written.
-/

namespace OracleCatalog.Declaration

open OracleCatalog.Text

/-! ### Declarations taken apart -/

/-- The numbers between commas. -/
def numbers? (cs : List Char) : Option (List Int) :=
  (cut ',' cs).mapM fun piece =>
    match readInteger (String.ofList piece) with
    | .integer i => some i
    | _ => none

/-- The name of a declaration and the numbers in brackets behind it. -/
def parts? (declaration : String) : Option (String × List Int) :=
  let name := String.ofList (declaration.toList.takeWhile (· != '('))
  match declaration.toList.dropWhile (· != '(') with
  | [] => some (name, [])
  | _ :: inside =>
    if inside.getLast? = some ')' then (numbers? inside.dropLast).map (name, ·) else none

/-- A name with numbers in brackets behind it, if there are any. -/
def written (name : String) (numbers : List Int) : String :=
  if numbers = [] then name else name ++ "(" ++ join "," (numbers.map intText) ++ ")"

theorem numbers?_join {numbers : List Int} (hne : numbers ≠ [])
    (writable : ∀ i ∈ numbers, Value.IsWritable i) :
    numbers? (join "," (numbers.map intText)).toList = some numbers := by
  have hcommas : ∀ t ∈ numbers.map intText, ',' ∉ t.toList := by
    intro t ht
    obtain ⟨i, -, rfl⟩ := List.mem_map.1 ht
    exact comma_not_mem_intText i
  have hnonempty : numbers.map intText ≠ [] := by simpa using hne
  have hseparator : ",".toList = [','] := rfl
  unfold numbers?
  rw [cut_join hseparator hnonempty hcommas]
  clear hseparator hcommas hnonempty hne
  induction numbers with
  | nil => rfl
  | cons i rest ih =>
    obtain ⟨hi, hrest⟩ := List.forall_mem_cons.1 writable
    have hread : readInteger (intText i) = .integer i := readInteger_intText hi
    simp only [List.map_cons, List.mapM_cons, String.ofList_toList, hread, ih hrest]
    rfl

theorem parts?_written {name : String} {numbers : List Int} (hname : '(' ∉ name.toList)
    (writable : ∀ i ∈ numbers, Value.IsWritable i) :
    parts? (written name numbers) = some (name, numbers) := by
  have hbefore : ∀ c ∈ name.toList, (c != '(') = true := by
    intro c hc
    refine bne_iff_ne.2 fun heq => hname ?_
    rw [← heq]
    exact hc
  unfold parts? written
  by_cases hnone : numbers = []
  · have htake : name.toList.takeWhile (· != '(') = name.toList :=
      List.takeWhile_eq_self_iff.2 hbefore
    have hdrop : name.toList.dropWhile (· != '(') = [] := List.dropWhile_eq_nil_iff.2 hbefore
    rw [if_pos hnone, htake, hdrop, hnone, String.ofList_toList]
  · have hopen : ("(" : String).toList = ['('] := by decide
    have hclose : (")" : String).toList = [')'] := by decide
    have hsplit : (name ++ "(" ++ join "," (numbers.map intText) ++ ")").toList =
        name.toList ++ '(' :: ((join "," (numbers.map intText)).toList ++ [')']) := by
      simp [hopen, hclose]
    have hstop : ∀ c ∈ ('(' :: ((join "," (numbers.map intText)).toList ++ [')'])).head?,
        (c != '(') = false := by simp
    obtain ⟨htake, hdrop⟩ := takeWhile_dropWhile_append hbefore hstop
    rw [if_neg hnone, hsplit, htake, hdrop]
    simp only [List.getLast?_append, List.getLast?_singleton, Option.some_or, ↓reduceIte,
      List.dropLast_concat, numbers?_join hnone writable, String.ofList_toList, Option.map_some]

end OracleCatalog.Declaration

namespace OracleCatalog

open OracleCatalog.Text

/-! ### Declarations of numbers -/

theorem Value.whole_int (i : Int) : (Value.int i).whole = .ok i := rfl

theorem Value.orElse_ofInt? {n : Option Int} (positive : ∀ i ∈ n, 1 ≤ i) (other : Int) :
    (ofInt? n).orElse (.int other) = .int (n.getD other) := by
  cases n with
  | none => rfl
  | some i =>
    have hi : 1 ≤ i := positive i rfl
    have hne : (i != 0) = true := bne_iff_ne.2 (by omega)
    exact if_pos hne

namespace AbstractType

theorem sized_eq_ok_iff {name text : String} {numbers : List Int} (hne : numbers ≠ []) :
    sized name numbers = .ok text ↔
      (∀ i ∈ numbers, Value.IsWritable i) ∧ Declaration.written name numbers = text := by
  have hwritten : Declaration.written name numbers =
      name ++ "(" ++ join "," (numbers.map intText) ++ ")" := if_neg hne
  have hsized (writable : ∀ i ∈ numbers, Value.IsWritable i) :
      sized name numbers = .ok (Declaration.written name numbers) := by
    have hmap : numbers.mapM Value.writeInteger = .ok (numbers.map intText) :=
      Error.mapM_eq_map fun i hi => (writable i hi).writeInteger
    unfold sized
    rw [hmap, hwritten]
    rfl
  constructor
  · intro h
    obtain ⟨texts, htexts, -⟩ := Error.ok_of_bind h
    have writable : ∀ i ∈ numbers, Value.IsWritable i := by
      intro i hi
      obtain ⟨text, -, htext⟩ := Error.exists_of_mapM htexts hi
      exact (Value.writeInteger_eq_ok_iff.1 htext).1
    exact ⟨writable, Except.ok.inj ((hsized writable).symm.trans h)⟩
  · rintro ⟨writable, rfl⟩
    exact hsized writable

theorem ok_eq_ok_iff_written {constant name text : String} {numbers : List Int}
    (writable : ∀ i ∈ numbers, Value.IsWritable i)
    (h : Declaration.written name numbers = constant) :
    (Except.ok constant : Except Error String) = .ok text ↔
      (∀ i ∈ numbers, Value.IsWritable i) ∧ Declaration.written name numbers = text := by
  rw [and_iff_right writable, h]
  simp only [Except.ok.injEq]

/-- A precision stands behind the name of a type when it has one. -/
theorem precision_eq_ok_iff (name : String) (precision : Option Int) {text : String} :
    (if (Value.ofInt? precision).isNull then pure name
      else (Value.ofInt? precision).whole >>= fun p => sized name [p]) = .ok text ↔
      (∀ i ∈ precision.toList, Value.IsWritable i) ∧
        Declaration.written name precision.toList = text := by
  cases precision with
  | none => exact ok_eq_ok_iff_written (List.forall_mem_nil _) rfl
  | some p =>
    show ((Value.int p).whole >>= fun p => sized name [p]) = .ok text ↔ _
    rw [Value.whole_int, Error.ok_bind]
    exact sized_eq_ok_iff (List.cons_ne_nil _ _)

end AbstractType

namespace CatalogType

/-! ### What a type is declared as -/

/-- The size that a declaration takes from attributes, none where an attribute is missing. -/
def sizeOfAttributes (attributes : List (String × Value)) : TypeSize where
  length := (attributes.lookup "length").getD .null
  precision := (attributes.lookup "precision").getD .null
  scale := (attributes.lookup "scale").getD .null
  fixed := (attributes.lookup "fixed").getD (.bool false)

theorem sizeOfAttributes_attributes (type : CatalogType) :
    sizeOfAttributes type.attributes = type.size := by
  cases type <;> rfl

/-- The name that a type is declared by and the numbers behind it. -/
def declared? : CatalogType → Option (String × List Int)
  | .integer precision => some ("NUMBER", precision.toList)
  | .decimal precision scale => some ("NUMBER", [precision.getD 38, scale])
  | .float precision => some ("FLOAT", precision.toList)
  | .boolean => some ("NUMBER", [1])
  | .string length fixed => some (if fixed then "CHAR" else "VARCHAR2", [length.getD 255])
  | .uuid => some ("VARCHAR2", [uuidLength])
  | .text _ => some ("CLOB", [])
  | .binary _ => some ("BLOB", [])
  | .datetime | .timestamp => some ("TIMESTAMP", [])
  | .cursor | .unknown _ => none

/-- No size of the type is one that a declaration takes for a missing one. -/
structure HasPositiveSizes (type : CatalogType) : Prop where
  length : ∀ n ∈ type.length, 1 ≤ n
  precision : ∀ n ∈ type.precision, 1 ≤ n
  scale : ∀ n ∈ type.scale, 1 ≤ n

theorem declaration_decimal {precision : Option Int} {scale : Int}
    (positive : (decimal precision scale).HasPositiveSizes) :
    AbstractType.declaration .decimal (decimal precision scale).size =
      AbstractType.sized "NUMBER" [precision.getD 38, scale] := by
  have hprecision : (Value.ofInt? precision).orElse (.int 38) = .int (precision.getD 38) :=
    Value.orElse_ofInt? positive.precision 38
  have hscale : (Value.int scale).orElse (.int 0) = .int scale :=
    Value.orElse_ofInt? positive.scale 0
  show (if ((Value.ofInt? precision).isNull && false) = true then pure "NUMBER" else
    ((Value.ofInt? precision).orElse (.int 38)).whole >>= fun precision =>
      ((Value.int scale).orElse (.int 0)).whole >>= fun scale =>
        AbstractType.sized "NUMBER" [precision, scale]) = _
  rw [Bool.and_false, if_neg Bool.false_ne_true, hprecision, hscale, Value.whole_int,
    Error.ok_bind, Value.whole_int, Error.ok_bind]

theorem declaration_string {length : Option Int} {fixed : Bool}
    (positive : (string length fixed).HasPositiveSizes) :
    AbstractType.declaration .string (string length fixed).size =
      AbstractType.sized (if fixed then "CHAR" else "VARCHAR2") [length.getD 255] := by
  have hlength : (Value.ofInt? length).orElse (.int 255) = .int (length.getD 255) :=
    Value.orElse_ofInt? positive.length 255
  show (((Value.ofInt? length).orElse (.int 255)).whole >>= fun length =>
    AbstractType.sized (if fixed then "CHAR" else "VARCHAR2") [length]) = _
  rw [hlength, Value.whole_int, Error.ok_bind]

open AbstractType in
theorem declaration_eq_ok_iff {type : CatalogType} (positive : type.HasPositiveSizes)
    {name : String} {numbers : List Int} (h : type.declared? = some (name, numbers))
    {text : String} : type.abstract.declaration type.size = .ok text ↔
      (∀ i ∈ numbers, Value.IsWritable i) ∧ Declaration.written name numbers = text := by
  have hnone : ∀ i ∈ ([] : List Int), Value.IsWritable i := List.forall_mem_nil _
  cases type with
  | integer precision =>
    cases h
    exact precision_eq_ok_iff "NUMBER" precision
  | float precision =>
    cases h
    exact precision_eq_ok_iff "FLOAT" precision
  | decimal precision scale =>
    cases h
    rw [abstract, declaration_decimal positive]
    exact sized_eq_ok_iff (List.cons_ne_nil _ _)
  | string length fixed =>
    cases h
    rw [abstract, declaration_string positive]
    exact sized_eq_ok_iff (List.cons_ne_nil _ _)
  | boolean =>
    cases h
    exact ok_eq_ok_iff_written (Value.isWritable_singleton (by decide)) (by decide)
  | uuid =>
    cases h
    exact ok_eq_ok_iff_written (Value.isWritable_singleton (by decide)) (by decide)
  | text | binary | datetime | timestamp =>
    cases h
    exact ok_eq_ok_iff_written hnone rfl
  | cursor | unknown => cases h

/-! ### Declarations read back -/

/-- The type that the catalog reports for a declaration with this name and these numbers: the
length of a text, or the precision and the scale of a number. -/
def ofParts (name : String) (numbers : List Int) : Except Error CatalogType :=
  let length := if ["CHAR", "VARCHAR2"].contains name then numbers[0]? else none
  let precision := if ["NUMBER", "FLOAT"].contains name then numbers[0]? else none
  let scale := if ["NUMBER", "FLOAT"].contains name then numbers[1]? else none
  ofFields (.text name) (Value.ofInt? length) (Value.ofInt? precision) (Value.ofInt? scale) false

/-- The type that a declaration is read as. -/
def ofDeclaration? (declaration : String) : Option CatalogType :=
  (Declaration.parts? declaration).bind fun (name, numbers) => (ofParts name numbers).toOption

/-- The type that is left when a declaration has filled in or left out sizes. -/
def redeclared : CatalogType → CatalogType
  | .datetime => .timestamp
  | .text _ => .text none
  | .binary _ => .binary none
  | .decimal precision scale => .decimal (some (precision.getD 38)) scale
  | .string length fixed => .string (some (length.getD 255)) fixed
  | type => type

/-- What a type is declared as is read as that type once more. -/
theorem Classified.ofParts_declared {native : String} {length precision scale : Option Int}
    {type : CatalogType} (h : Classified native length precision scale type) {name : String}
    {numbers : List Int} (hdeclared : type.declared? = some (name, numbers)) :
    '(' ∉ name.toList ∧ ofParts name numbers = .ok type.redeclared := by
  cases h with
  | datetime | timestamp | boolean | uuid | text | binary =>
    cases hdeclared
    exact ⟨by decide, rfl⟩
  | float =>
    cases hdeclared
    cases precision <;> exact ⟨by decide, rfl⟩
  | integer number many whole =>
    cases hdeclared
    refine ⟨by decide, ?_⟩
    cases precision with
    | none => rfl
    | some p =>
      have hname : ofName "NUMBER" none (some p) none false = .integer (some p) := if_neg many
      exact (ofFields_text "NUMBER" none (some p) none false).trans (congrArg Except.ok hname)
  | @decimal number many digits fraction positive =>
    cases hdeclared
    refine ⟨by decide, ?_⟩
    have hprecision : some (precision.getD 38) ≠ some 1 := by
      cases precision with
      | none => decide
      | some p => exact many
    have hname : ofName "NUMBER" none (some (precision.getD 38)) (some digits) false =
        .decimal (some (precision.getD 38)) digits :=
      (if_neg hprecision).trans (if_pos positive)
    exact (ofFields_text "NUMBER" none (some _) (some digits) false).trans
      (congrArg Except.ok hname)
  | string character other =>
    have hlength : some (length.getD 255) ≠ some uuidLength := by
      cases length with
      | none => decide
      | some l => exact other
    cases hfixed : fixedNames.contains native with
    | false =>
      rw [hfixed] at hdeclared
      cases hdeclared
      exact ⟨by decide, (ofFields_text "VARCHAR2" (some _) none none false).trans
        (congrArg Except.ok (if_neg hlength))⟩
    | true =>
      rw [hfixed] at hdeclared
      cases hdeclared
      exact ⟨by decide, (ofFields_text "CHAR" (some _) none none false).trans
        (congrArg Except.ok (if_neg hlength))⟩
  | unknown unmapped => cases hdeclared

theorem Classified.exists_declared {native : String} {length precision scale : Option Int}
    {type : CatalogType} (h : Classified native length precision scale type)
    (known : type.abstract ≠ .unknown) :
    ∃ name numbers, type.declared? = some (name, numbers) := by
  cases h with
  | unknown => exact absurd rfl known
  | _ => exact ⟨_, _, rfl⟩

theorem Classified.hasPositiveSizes {native : String} {length precision scale : Option Int}
    {type : CatalogType} (h : Classified native length precision scale type)
    (hlength : ∀ n ∈ length, 1 ≤ n) (hprecision : ∀ n ∈ precision, 1 ≤ n) :
    type.HasPositiveSizes := by
  cases h with
  | decimal number many fraction positive =>
    refine ⟨nofun, hprecision, fun n hn => ?_⟩
    cases hn
    exact positive
  | integer | float => exact ⟨nofun, hprecision, nofun⟩
  | string | text | binary => exact ⟨hlength, nofun, nofun⟩
  | _ => exact ⟨nofun, nofun, nofun⟩

/-- A type of the catalog can be declared exactly when its numbers can be written, and the
declaration is read back as the same type with the sizes that it filled in or left out. -/
theorem ofDeclaration?_of_declaration (name : String) (length precision scale : Option Int)
    (hlength : ∀ n ∈ length, 1 ≤ n) (hprecision : ∀ n ∈ precision, 1 ≤ n) :
    ∃ type, ofFields (.text name) (Value.ofInt? length) (Value.ofInt? precision)
        (Value.ofInt? scale) false = .ok type ∧
      (type.abstract ≠ .unknown → ∃ base numbers, type.declared? = some (base, numbers) ∧
        ((∃ text, type.abstract.declaration (sizeOfAttributes type.attributes) = .ok text) ↔
          ∀ i ∈ numbers, Value.IsWritable i) ∧
        ∀ text, type.abstract.declaration (sizeOfAttributes type.attributes) = .ok text →
          text = Declaration.written base numbers ∧
            ofDeclaration? text = some type.redeclared) := by
  have hclassified := classified_ofName (upper name) length precision scale
  have positive := hclassified.hasPositiveSizes hlength hprecision
  refine ⟨_, ofFields_text name length precision scale false, fun known => ?_⟩
  obtain ⟨base, numbers, hdeclared⟩ := hclassified.exists_declared known
  have hiff (text : String) := @declaration_eq_ok_iff _ positive _ _ hdeclared text
  rw [sizeOfAttributes_attributes]
  refine ⟨base, numbers, hdeclared, ⟨?_, ?_⟩, ?_⟩
  · rintro ⟨text, htext⟩
    exact ((hiff text).1 htext).1
  · exact fun writable => ⟨_, (hiff _).2 ⟨writable, rfl⟩⟩
  · intro text htext
    obtain ⟨writable, rfl⟩ := (hiff text).1 htext
    obtain ⟨hbracket, hparts⟩ := hclassified.ofParts_declared hdeclared
    refine ⟨rfl, ?_⟩
    unfold ofDeclaration?
    rw [Declaration.parts?_written hbracket writable]
    exact congrArg Except.toOption hparts

/-- A number without a precision takes the greatest one. -/
theorem scaled_number_read_back :
    (∀ n ∈ some (22 : Int), 1 ≤ n) ∧
      AbstractType.declaration .decimal (sizeOfAttributes (decimal none 2).attributes) =
        .ok "NUMBER(38,2)" ∧
      ofDeclaration? "NUMBER(38,2)" = some (.decimal (some 38) 2) := by
  have hlength : ∀ n ∈ some (22 : Int), 1 ≤ n := by
    intro n hn
    cases hn
    decide
  obtain ⟨type, htype, hknown⟩ := ofDeclaration?_of_declaration "number" (some 22) none (some 2)
    hlength nofun
  obtain rfl : decimal none 2 = type := Except.ok.inj htype
  obtain ⟨base, numbers, hdeclared, hdeclaration, hread⟩ := hknown nofun
  cases hdeclared
  have hwritable : ∀ i ∈ [(38 : Int), 2], Value.IsWritable i :=
    List.forall_mem_cons.2 ⟨Value.isWritable_of_small (by decide),
      Value.isWritable_singleton (by decide)⟩
  obtain ⟨text, htext⟩ := hdeclaration.2 hwritable
  obtain ⟨hwritten, hback⟩ := hread text htext
  have hshown : Declaration.written "NUMBER" [(none : Option Int).getD 38, 2] =
      "NUMBER(38,2)" := by decide
  rw [hwritten, hshown] at htext hback
  exact ⟨hlength, htext, hback⟩

/-- The least length that has too many digits to be written. -/
def longLength : Int := (Nat.pow 10 digitLimit : Nat)

theorem ofName_varchar {length : Option Int} (h : length ≠ some uuidLength) :
    ofName "VARCHAR2" length none none false = .string length false := if_neg h

theorem long_length_not_declared :
    1 ≤ longLength ∧
      ofFields (.text "VARCHAR2") (.int longLength) .null .null false =
        .ok (.string (some longLength) false) ∧
      AbstractType.declaration .string
          (sizeOfAttributes (string (some longLength) false).attributes) =
        .error (.refused .integerTooLong) := by
  have hpower : 256 ≤ Nat.pow 10 digitLimit := by
    have hthree : 10 ^ 3 ≤ 10 ^ digitLimit := Nat.pow_le_pow_right (by decide) (by decide)
    rw [Nat.pow_eq]
    omega
  have hlong : 256 ≤ longLength := Int.ofNat_le.2 hpower
  have positive : (string (some longLength) false).HasPositiveSizes := by
    refine ⟨fun n hn => ?_, nofun, nofun⟩
    cases hn
    omega
  have huuid : some longLength ≠ some uuidLength := by
    intro heq
    have hvalue : longLength = 36 := Option.some.inj heq
    omega
  have hdigits : longLength.natAbs = Nat.pow 10 digitLimit := Int.natAbs_natCast _
  have hwrite : Value.writeInteger longLength = .error (.refused .integerTooLong) := by
    unfold Value.writeInteger
    rw [hdigits, if_pos (Nat.le_refl _)]
  have hname : ofFields (.text "VARCHAR2") (.int longLength) .null .null false =
      .ok (ofName (upper "VARCHAR2") (some longLength) none none false) :=
    ofFields_text "VARCHAR2" (some longLength) none none false
  have hcapitals : upper "VARCHAR2" = "VARCHAR2" := by decide
  have hclass := ofName_varchar huuid
  refine ⟨by omega, ?_, ?_⟩
  · rw [hname, hcapitals, hclass]
  · rw [sizeOfAttributes_attributes, declaration_string positive]
    unfold AbstractType.sized
    rw [Option.getD_some, List.mapM_cons, hwrite]
    simp only [bind, Except.bind]

end CatalogType

end OracleCatalog
