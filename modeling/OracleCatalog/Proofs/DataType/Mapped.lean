import Mathlib.Data.List.TakeWhile
import OracleCatalog.DataType.Catalog
import OracleCatalog.Proofs.Success
import OracleCatalog.Proofs.Text.Segments

/-!
# Names of catalog types

A name of the catalog belongs to a family of types or to none, whatever its numbers are. Within a
family the numbers decide; a name of no family is an unknown type.

A timestamp is named by its word, which digits in brackets and a time zone may follow. Names are
read with digits of any script, and with a line end behind them. So what is read as a timestamp is
the name of one exactly when it has no such digit and no line end.
-/

namespace OracleCatalog

open OracleCatalog.Text

namespace CatalogType

/-- Whether the type of a column can have this name, in capitals. -/
def isMapped (name : String) : Bool :=
  name == "DATE" || isTimestampName name || numberNames.contains name ||
    floatNames.contains name || characterNames.contains name || largeTextNames.contains name ||
    binaryNames.contains name

/-- What the type of a column can be, and what its name and numbers are then. -/
inductive Classified (name : String) (length precision scale : Option Int) : CatalogType → Prop
  | datetime (date : name = "DATE") : Classified name length precision scale .datetime
  | timestamp (time : isTimestampName name = true) :
    Classified name length precision scale .timestamp
  | boolean (number : name ∈ numberNames) (one : precision = some 1) :
    Classified name length precision scale .boolean
  | decimal (number : name ∈ numberNames) (many : precision ≠ some 1) {digits : Int}
    (fraction : scale = some digits) (positive : 0 < digits) :
    Classified name length precision scale (.decimal precision digits)
  | integer (number : name ∈ numberNames) (many : precision ≠ some 1)
    (whole : ∀ digits, scale = some digits → digits ≤ 0) :
    Classified name length precision scale (.integer precision)
  | float (float : name ∈ floatNames) : Classified name length precision scale (.float precision)
  | uuid (character : name ∈ characterNames) (identifier : length = some uuidLength) :
    Classified name length precision scale .uuid
  | string (character : name ∈ characterNames) (other : length ≠ some uuidLength) :
    Classified name length precision scale (.string length (fixedNames.contains name))
  | text (large : name ∈ largeTextNames) : Classified name length precision scale (.text length)
  | binary (binary : name ∈ binaryNames) : Classified name length precision scale (.binary length)
  | unknown (unmapped : isMapped name = false) :
    Classified name length precision scale (.unknown name)

variable {name : String} {length precision scale : Option Int} {type : CatalogType}

theorem classified_ofName (name : String) (length precision scale : Option Int) :
    Classified name length precision scale (ofName name length precision scale false) := by
  unfold ofName
  by_cases date : name = "DATE"
  · rw [if_pos date]
    exact .datetime date
  rw [if_neg date]
  by_cases time : isTimestampName name = true
  · rw [if_pos time]
    exact .timestamp time
  rw [if_neg time]
  by_cases number : numberNames.contains name = true
  · have hnumber := List.contains_iff_mem.1 number
    rw [if_pos number]
    by_cases one : precision = some 1
    · rw [if_pos one]
      exact .boolean hnumber one
    rw [if_neg one]
    cases hscale : scale with
    | none => exact .integer hnumber one nofun
    | some digits =>
      dsimp only
      by_cases positive : 0 < digits
      · rw [if_pos positive]
        exact .decimal hnumber one rfl positive
      · rw [if_neg positive]
        exact .integer hnumber one fun _ heq => by cases heq; omega
  rw [if_neg number]
  by_cases float : floatNames.contains name = true
  · rw [if_pos float]
    exact .float (List.contains_iff_mem.1 float)
  rw [if_neg float]
  by_cases character : characterNames.contains name = true
  · have hcharacter := List.contains_iff_mem.1 character
    rw [if_pos character]
    by_cases identifier : length = some uuidLength
    · rw [if_pos identifier]
      exact .uuid hcharacter identifier
    · rw [if_neg identifier]
      exact .string hcharacter identifier
  rw [if_neg character]
  by_cases large : largeTextNames.contains name = true
  · rw [if_pos large]
    exact .text (List.contains_iff_mem.1 large)
  rw [if_neg large]
  by_cases binary : binaryNames.contains name = true
  · rw [if_pos binary]
    exact .binary (List.contains_iff_mem.1 binary)
  rw [if_neg binary]
  have unmapped : isMapped name = false := by
    rw [Bool.not_eq_true] at time number float character large binary
    simp only [isMapped, beq_eq_false_iff_ne.2 date, time, number, float, character, large, binary,
      Bool.or_self]
  exact .unknown unmapped

/-- A type is unknown exactly when its name is that of no family. -/
theorem Classified.abstract_eq_unknown_iff (h : Classified name length precision scale type) :
    type.abstract = .unknown ↔ isMapped name = false := by
  cases h with
  | unknown unmapped => exact iff_of_true rfl unmapped
  | datetime known | timestamp known | boolean known | decimal known | integer known
  | float known | uuid known | string known | text known | binary known =>
    refine iff_of_false nofun (ne_false_of_eq_true ?_)
    simp [isMapped, known]

theorem Classified.nativeName_eq (h : Classified name length precision scale type) :
    type.nativeName = if isMapped name then none else some name := by
  cases h with
  | unknown unmapped => simp [nativeName, unmapped]
  | datetime known | timestamp known | boolean known | decimal known | integer known
  | float known | uuid known | string known | text known | binary known =>
    simp [nativeName, isMapped, known]

/-! ### Fields -/

theorem ofFields_text (name : String) (length precision scale : Option Int) (cursors : Bool) :
    ofFields (.text name) (Value.ofInt? length) (Value.ofInt? precision) (Value.ofInt? scale)
      cursors = .ok (ofName (upper name) length precision scale cursors) := by
  have hnumber (n : Option Int) : (Value.ofInt? n).catalogInteger = .ok n := by cases n <;> rfl
  unfold ofFields
  rw [hnumber, hnumber, hnumber]
  rfl

/-! ### The grammar of timestamps -/

/-- The time zone in which the values of a timestamp are kept. -/
inductive TimeZone where
  | none
  | given
  | ofSession

def TimeZone.text : TimeZone → String
  | .none => ""
  | .given => " WITH TIME ZONE"
  | .ofSession => " WITH LOCAL TIME ZONE"

/-- No precision, or one digit or more in brackets. -/
inductive IsPrecision (digit : Char → Bool) : String → Prop
  | none : IsPrecision digit ""
  | digits (digits : String) (nonempty : digits ≠ "")
    (all : ∀ c ∈ digits.toList, digit c = true) : IsPrecision digit ("(" ++ digits ++ ")")

/-- The names of timestamps whose precision is written in digits of a kind. -/
def IsTimestamp (digit : Char → Bool) (name : String) : Prop :=
  ∃ precision zone, IsPrecision digit precision ∧
    name = "TIMESTAMP" ++ precision ++ TimeZone.text zone

section Timestamps

variable {digit other : Char → Bool} {precision name : String}

theorem IsPrecision.of_imp (h : IsPrecision digit precision)
    (hdigits : ∀ c ∈ precision.toList, digit c = true → other c = true) :
    IsPrecision other precision := by
  cases h with
  | none => exact .none
  | digits digits nonempty all =>
    refine .digits digits nonempty fun c hc => hdigits c ?_ (all c hc)
    rw [String.toList_append, String.toList_append]
    exact List.mem_append_left _ (List.mem_append_right _ hc)

theorem IsTimestamp.of_imp (h : IsTimestamp digit name)
    (hdigits : ∀ c ∈ name.toList, digit c = true → other c = true) : IsTimestamp other name := by
  obtain ⟨precision, zone, hprecision, rfl⟩ := h
  refine ⟨precision, zone, hprecision.of_imp fun c hc => hdigits c ?_, rfl⟩
  rw [String.toList_append, String.toList_append]
  exact List.mem_append_left _ (List.mem_append_right _ hc)

/-! ### What follows a precision -/

theorem afterPrecision_of_head? {cs : List Char} (h : cs.head? ≠ some '(') :
    afterPrecision cs = cs :=
  afterPrecision.eq_2 cs fun _ hcs => h (congrArg List.head? hcs)

theorem afterPrecision_open (cs : List Char) :
    afterPrecision ('(' :: cs) =
      match cs.takeWhile isPrecisionDigit, cs.dropWhile isPrecisionDigit with
      | _ :: _, ')' :: rest => rest
      | _, _ => '(' :: cs := rfl

theorem afterPrecision_digits {digits : List Char} (hne : digits ≠ [])
    (hdigits : ∀ d ∈ digits, isPrecisionDigit d = true) (after : List Char) :
    afterPrecision ('(' :: (digits ++ ')' :: after)) = after := by
  have hclose : isPrecisionDigit ')' = false := by decide
  have hstop : ∀ c ∈ (')' :: after).head?, isPrecisionDigit c = false := by simp [hclose]
  obtain ⟨htake, hdrop⟩ := takeWhile_dropWhile_append hdigits hstop
  obtain ⟨d, ds, rfl⟩ := List.exists_cons_of_ne_nil hne
  rw [afterPrecision_open, htake, hdrop]
  rfl

theorem toList_brackets (digits : String) (cs : List Char) :
    ("(" ++ digits ++ ")").toList ++ cs = '(' :: (digits.toList ++ ')' :: cs) := by
  have hopen : "(".toList = ['('] := rfl
  have hclose : ")".toList = [')'] := rfl
  rw [String.toList_append, String.toList_append, hopen, hclose]
  simp

/-- What a text leaves behind its precision, as long as that does not look like one. -/
theorem afterPrecision_eq_iff {cs after : List Char} (h : after.head? ≠ some '(') :
    afterPrecision cs = after ↔
      ∃ precision, IsPrecision isPrecisionDigit precision ∧ cs = precision.toList ++ after := by
  constructor
  · intro hafter
    by_cases hopen : cs.head? = some '('
    · obtain ⟨inside, rfl⟩ := List.head?_eq_some_iff.1 hopen
      rw [afterPrecision_open] at hafter
      split at hafter
      · rename_i d ds rest htake hdrop
        have hall : ∀ c ∈ (String.ofList (d :: ds)).toList, isPrecisionDigit c = true := by
          intro c hc
          rw [String.toList_ofList, ← htake] at hc
          exact List.mem_takeWhile_imp hc
        have hne : String.ofList (d :: ds) ≠ "" := by
          intro hempty
          have hnil := String.toList_eq_nil_iff.2 hempty
          rw [String.toList_ofList] at hnil
          cases hnil
        refine ⟨_, .digits _ hne hall, ?_⟩
        rw [toList_brackets, String.toList_ofList, ← hafter, ← hdrop, ← htake,
          List.takeWhile_append_dropWhile]
      · exact absurd hafter fun heq => h (heq ▸ hopen)
    · rw [afterPrecision_of_head? hopen] at hafter
      exact ⟨"", .none, hafter⟩
  · rintro ⟨precision, hprecision, rfl⟩
    cases hprecision with
    | none => exact afterPrecision_of_head? h
    | digits digits nonempty all =>
      have hne : digits.toList ≠ [] := mt String.toList_eq_nil_iff.1 nonempty
      rw [toList_brackets, afterPrecision_digits hne all]

/-! ### Names that are read as timestamps -/

theorem mem_timestampEndings_iff {ending : String} :
    ending ∈ timestampEndings ↔
      ∃ zone : TimeZone, ending = zone.text ∨ ending = zone.text ++ "\n" := by
  constructor
  · intro h
    simp only [timestampEndings, List.mem_cons, List.not_mem_nil, or_false] at h
    rcases h with rfl | rfl | rfl | rfl | rfl | rfl
    · exact ⟨.none, .inl rfl⟩
    · exact ⟨.given, .inl rfl⟩
    · exact ⟨.ofSession, .inl rfl⟩
    · exact ⟨.none, .inr rfl⟩
    · exact ⟨.given, .inr rfl⟩
    · exact ⟨.ofSession, .inr rfl⟩
  · rintro ⟨zone, rfl | rfl⟩
    · cases zone <;> decide
    · cases zone <;> decide

theorem head?_of_mem_timestampEndings {ending : String} (h : ending ∈ timestampEndings) :
    ending.toList.head? ≠ some '(' := by
  revert ending
  decide

/-- Reading cuts the word off, then the precision, and looks at what is left. -/
theorem isTimestampName_iff_ending :
    isTimestampName name = true ↔ ∃ precision ending, IsPrecision isPrecisionDigit precision ∧
      ending ∈ timestampEndings ∧ name = "TIMESTAMP" ++ precision ++ ending := by
  unfold isTimestampName
  dsimp only
  rw [Bool.and_eq_true, List.isPrefixOf_iff_prefix, List.contains_iff_mem]
  constructor
  · rintro ⟨⟨rest, hrest⟩, hending⟩
    rw [← hrest, List.drop_left] at hending
    obtain ⟨precision, hprecision, hcs⟩ :=
      (afterPrecision_eq_iff (head?_of_mem_timestampEndings hending)).1 (String.toList_ofList).symm
    refine ⟨precision, _, hprecision, hending, String.toList_injective ?_⟩
    rw [String.toList_append, String.toList_append, List.append_assoc, ← hcs, hrest]
  · rintro ⟨precision, ending, hprecision, hending, rfl⟩
    have hhead := head?_of_mem_timestampEndings hending
    rw [String.toList_append, String.toList_append, List.append_assoc, List.drop_left,
      (afterPrecision_eq_iff hhead).2 ⟨precision, hprecision, rfl⟩, String.ofList_toList]
    exact ⟨List.prefix_append _ _, hending⟩

/-- A name is read as a timestamp exactly when it is the name of one, with digits of any script in
its precision and perhaps a line end behind it. -/
theorem isTimestampName_iff :
    isTimestampName name = true ↔
      ∃ body, IsTimestamp isPrecisionDigit body ∧ (name = body ∨ name = body ++ "\n") := by
  rw [isTimestampName_iff_ending]
  constructor
  · rintro ⟨precision, ending, hprecision, hending, rfl⟩
    obtain ⟨zone, rfl | rfl⟩ := mem_timestampEndings_iff.1 hending
    · exact ⟨_, ⟨precision, zone, hprecision, rfl⟩, .inl rfl⟩
    · exact ⟨_, ⟨precision, zone, hprecision, rfl⟩, .inr (String.append_assoc ..).symm⟩
  · rintro ⟨body, ⟨precision, zone, hprecision, rfl⟩, rfl | rfl⟩
    · exact ⟨precision, _, hprecision, mem_timestampEndings_iff.2 ⟨zone, .inl rfl⟩, rfl⟩
    · exact ⟨precision, _, hprecision, mem_timestampEndings_iff.2 ⟨zone, .inr rfl⟩,
        String.append_assoc ..⟩

/-! ### Names without foreign digits and line ends -/

/-- The text has no line end, and no decimal digit but those from zero to nine. -/
def IsPlain (name : String) : Prop :=
  ∀ c ∈ name.toList, c ≠ '\n' ∧ (isPrecisionDigit c = true → c.isDigit = true)

instance : DecidablePred IsPlain := fun name => List.decidableBAll _ name.toList

theorem isPrecisionDigit_of_isDigit {c : Char} (h : c.isDigit = true) :
    isPrecisionDigit c = true := by
  have hrange : 0x30 ≤ c.toNat ∧ c.toNat < 0x30 + 10 := by
    simp only [Char.isDigit, Bool.and_eq_true, decide_eq_true_eq, UInt32.le_iff_toNat_le] at h
    exact ⟨h.1, Nat.lt_succ_of_le h.2⟩
  have hfind : decimalZeros.find? (fun z => z ≤ c.toNat && c.toNat < z + 10) = some 0x30 :=
    List.find?_cons_of_pos (by simp only [hrange.1, hrange.2, decide_true, Bool.and_self])
  unfold isPrecisionDigit decimalDigit?
  rw [hfind]
  rfl

theorem isPlain_append {front back : String} :
    IsPlain (front ++ back) ↔ IsPlain front ∧ IsPlain back := by
  unfold IsPlain
  rw [String.toList_append, List.forall_mem_append]

theorem IsPrecision.isPlain (h : IsPrecision Char.isDigit precision) : IsPlain precision := by
  cases h with
  | none => exact List.forall_mem_nil _
  | digits digits nonempty all =>
    have hbrackets : IsPlain "(" ∧ IsPlain ")" := by decide
    refine isPlain_append.2 ⟨isPlain_append.2 ⟨hbrackets.1, fun c hc => ⟨?_, fun _ => all c hc⟩⟩,
      hbrackets.2⟩
    rintro rfl
    exact absurd (all _ hc) (by decide)

theorem IsTimestamp.isPlain (h : IsTimestamp Char.isDigit name) : IsPlain name := by
  obtain ⟨precision, zone, hprecision, rfl⟩ := h
  have hword : IsPlain "TIMESTAMP" := by decide
  have hzone : IsPlain zone.text := by cases zone <;> decide
  exact isPlain_append.2 ⟨isPlain_append.2 ⟨hword, hprecision.isPlain⟩, hzone⟩

theorem isTimestampName_of_isTimestamp (h : IsTimestamp Char.isDigit name) :
    isTimestampName name = true :=
  isTimestampName_iff.2 ⟨name, h.of_imp fun _ _ => isPrecisionDigit_of_isDigit, .inl rfl⟩

/-- Of the names that are read as timestamps, the plain ones are the names of timestamps. -/
theorem isTimestamp_iff_isPlain (h : isTimestampName name = true) :
    IsTimestamp Char.isDigit name ↔ IsPlain name := by
  refine ⟨IsTimestamp.isPlain, fun plain => ?_⟩
  obtain ⟨body, hbody, rfl | rfl⟩ := isTimestampName_iff.1 h
  · exact hbody.of_imp fun c hc => (plain c hc).2
  · have hend := (isPlain_append.1 plain).2 '\n' (List.mem_singleton_self _)
    exact absurd rfl hend.1

end Timestamps

/-! ### Names of the catalog -/

/-- The names of all other types that are known. -/
def familyNames : List String :=
  ["DATE"] ++ numberNames ++ floatNames ++ characterNames ++ largeTextNames ++ binaryNames

theorem isMapped_eq_false_iff :
    isMapped name = false ↔ isTimestampName name = false ∧ name ∉ familyNames := by
  unfold isMapped familyNames
  simp only [Bool.or_eq_false_iff, List.mem_append, List.mem_singleton, not_or,
    beq_eq_false_iff_ne, List.contains_eq_mem, decide_eq_false_iff_not, and_assoc]
  exact and_left_comm

variable {cursors : Bool}

/-- Cursors are looked at behind all the families. -/
theorem ofName_cursors (name : String) (length precision scale : Option Int) (cursors : Bool) :
    ofName name length precision scale cursors =
      if cursors = true ∧ name = "REF CURSOR" then .cursor
      else ofName name length precision scale false := by
  by_cases hname : name = "REF CURSOR"
  · subst hname
    cases cursors <;> rfl
  · rw [if_neg fun h => hname h.2]
    unfold ofName
    simp only [hname, decide_false, Bool.and_false]

theorem ofName_of_isTimestampName (h : isTimestampName name = true) :
    ofName name length precision scale cursors = .timestamp := by
  have hdate : name ≠ "DATE" := by
    rintro rfl
    exact absurd h (by decide)
  unfold ofName
  rw [if_neg hdate, if_pos h]

theorem ofName_eq_timestamp_iff :
    ofName name length precision scale cursors = .timestamp ↔ isTimestampName name = true := by
  refine ⟨fun h => ?_, ofName_of_isTimestampName⟩
  rw [ofName_cursors] at h
  split at h
  · cases h
  · have classified := classified_ofName name length precision scale
    rw [h] at classified
    cases classified with
    | timestamp time => exact time

theorem ofName_of_not_mapped (h : isMapped name = false)
    (notCursor : ¬(cursors = true ∧ name = "REF CURSOR")) :
    ofName name length precision scale cursors = .unknown name := by
  have classified := classified_ofName name length precision scale
  have hunknown := classified.abstract_eq_unknown_iff.2 h
  rw [ofName_cursors, if_neg notCursor]
  generalize ofName name length precision scale false = type at classified hunknown ⊢
  cases classified with
  | unknown unmapped => rfl
  | _ => cases hunknown

/-- Whatever its numbers are, a name gives a timestamp exactly when it is in the grammar in
capitals, and an unknown type where it is neither in the grammar nor known otherwise. -/
structure FollowsGrammar (name : String) : Prop where
  timestamp : ∀ (length precision scale : Option Int) (cursors : Bool),
    ofFields (.text name) (Value.ofInt? length) (Value.ofInt? precision) (Value.ofInt? scale)
      cursors = .ok .timestamp ↔ IsTimestamp Char.isDigit (upper name)
  unknown : ∀ (length precision scale : Option Int) (cursors : Bool),
    ¬IsTimestamp Char.isDigit (upper name) → upper name ∉ familyNames →
      ¬(cursors = true ∧ upper name = "REF CURSOR") →
        ofFields (.text name) (Value.ofInt? length) (Value.ofInt? precision) (Value.ofInt? scale)
          cursors = .ok (.unknown (upper name))

theorem followsGrammar_iff {name : String} :
    FollowsGrammar name ↔
      (isTimestampName (upper name) = true → IsTimestamp Char.isDigit (upper name)) := by
  constructor
  · intro follows time
    refine (follows.timestamp none none none false).1 ?_
    rw [ofFields_text, ofName_of_isTimestampName time]
  · intro h
    have hsame : isTimestampName (upper name) = true ↔ IsTimestamp Char.isDigit (upper name) :=
      ⟨h, isTimestampName_of_isTimestamp⟩
    refine ⟨fun length precision scale cursors => ?_, ?_⟩
    · rw [ofFields_text, Except.ok.injEq, ofName_eq_timestamp_iff, hsame]
    · intro length precision scale cursors hother hfamily notCursor
      have time : isTimestampName (upper name) = false := by
        rw [← Bool.not_eq_true, hsame]
        exact hother
      rw [ofFields_text, ofName_of_not_mapped (isMapped_eq_false_iff.2 ⟨time, hfamily⟩) notCursor]

/-- A name that is read as one of a timestamp without being one. -/
theorem not_followsGrammar (name : String) (time : isTimestampName (upper name) = true)
    (notPlain : ¬IsPlain (upper name)) :
    ofFields (.text name) .null .null .null false = .ok .timestamp ∧ ¬FollowsGrammar name := by
  refine ⟨?_, fun follows => notPlain (followsGrammar_iff.1 follows time).isPlain⟩
  exact (ofFields_text name none none none false).trans
    (congrArg Except.ok (ofName_of_isTimestampName time))

/-- A name gives a timestamp exactly when it is in the grammar in capitals, with digits of any
script and perhaps a line end behind it. So names follow the grammar unless it is such a digit or
the line end that they are taken with. -/
theorem follows_grammar_iff_plain (name : String) :
    (∀ (length precision scale : Option Int) (cursors : Bool),
      ofFields (.text name) (Value.ofInt? length) (Value.ofInt? precision) (Value.ofInt? scale)
          cursors = .ok .timestamp ↔
        ∃ body, IsTimestamp isPrecisionDigit body ∧
          (upper name = body ∨ upper name = body ++ "\n")) ∧
      (FollowsGrammar name ↔ ∀ body, IsTimestamp isPrecisionDigit body →
        upper name = body ∨ upper name = body ++ "\n" → IsPlain (upper name)) := by
  refine ⟨fun length precision scale cursors => ?_, ?_⟩
  · rw [ofFields_text, Except.ok.injEq, ofName_eq_timestamp_iff, isTimestampName_iff]
  · rw [followsGrammar_iff]
    constructor
    · intro h body hbody hname
      exact (h (isTimestampName_iff.2 ⟨body, hbody, hname⟩)).isPlain
    · intro h time
      obtain ⟨body, hbody, hname⟩ := isTimestampName_iff.1 time
      exact (isTimestamp_iff_isPlain time).2 (h body hbody hname)

theorem timestamp_of_session_follows_grammar :
    FollowsGrammar "timestamp(6) with local time zone" := by
  have plain : IsPlain (upper "timestamp(6) with local time zone") := by decide +kernel
  exact (follows_grammar_iff_plain _).2.2 fun _ _ _ => plain

/-- A line end behind the name, and a six of another script. -/
theorem line_end_read_as_timestamp :
    ofFields (.text "timestamp\n") .null .null .null false = .ok .timestamp ∧
      ¬FollowsGrammar "timestamp\n" ∧
      ofFields (.text "TIMESTAMP(\u0666)") .null .null .null false = .ok .timestamp ∧
      ¬FollowsGrammar "TIMESTAMP(\u0666)" := by
  have hline := not_followsGrammar "timestamp\n" (by decide +kernel) (by decide +kernel)
  have hdigit := not_followsGrammar "TIMESTAMP(\u0666)" (by decide +kernel) (by decide +kernel)
  exact ⟨hline.1, hline.2, hdigit⟩

end CatalogType

end OracleCatalog
