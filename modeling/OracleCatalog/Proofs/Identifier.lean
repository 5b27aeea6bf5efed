import Mathlib.Algebra.GroupWithZero.Nat
import Mathlib.Algebra.Order.BigOperators.Group.List
import Mathlib.Algebra.Order.Group.Nat
import Mathlib.Data.List.Forall2
import OracleCatalog.Dialect
import OracleCatalog.Proofs.Text.Segments

/-!
# Segments of quoted identifiers

An identifier is put into quotes piece by piece, and its pieces stand between the dots, also between
those in a segment that is already quoted. Such a segment comes out as it was exactly when it has
no dot, or one right before its closing quote: any other one leaves a piece that is put into quotes
once more.

Quoting adds no dot to a piece, and a piece that starts with a quote stays as it is. So the pieces
are found again behind quoting, and quoting once more changes nothing.
-/

namespace OracleCatalog.Identifier

open OracleCatalog.Text

/-! ### Pieces in quotes -/

theorem quoteSegment_of_head {cs : List Char} (h : cs.head? = some '"') : quoteSegment cs = cs := by
  obtain ⟨rest, rfl⟩ := List.head?_eq_some_iff.1 h
  rfl

theorem quoteSegment_of_ne {cs : List Char} (h : cs.head? ≠ some '"') :
    quoteSegment cs = '"' :: cs ++ ['"'] := by
  refine quoteSegment.eq_2 cs fun rest hrest => h ?_
  rw [hrest]
  rfl

theorem count_quoteSegment_of_ne {cs : List Char} (h : cs.head? ≠ some '"') :
    (quoteSegment cs).count '"' = cs.count '"' + 2 := by
  rw [quoteSegment_of_ne h, List.cons_append, List.count_cons_self, List.count_append,
    List.count_singleton_self]

theorem count_le_quoteSegment (cs : List Char) : cs.count '"' ≤ (quoteSegment cs).count '"' := by
  by_cases h : cs.head? = some '"'
  · exact Nat.le_of_eq (congrArg (List.count '"') (quoteSegment_of_head h).symm)
  · rw [count_quoteSegment_of_ne h]
    exact Nat.le_add_right _ 2

/-! ### Identifiers in quotes -/

theorem quoteSegments_of_not_mem {cs : List Char} (h : '.' ∉ cs) :
    quoteSegments cs = quoteSegment cs := by
  unfold quoteSegments
  rw [cut_of_not_mem h]
  rfl

theorem quoteSegments_append_cons (front cs : List Char) :
    quoteSegments (front ++ '.' :: cs) = quoteSegments front ++ '.' :: quoteSegments cs := by
  have hne (cs : List Char) : (cut '.' cs).map quoteSegment ≠ [] :=
    fun h => cut_ne_nil '.' cs (List.map_eq_nil_iff.1 h)
  unfold quoteSegments
  rw [cut_append_cons, List.map_append, paste_append (hne front) (hne cs)]

theorem quoteSegments_paste {pieces : List (List Char)} (h : pieces ≠ []) :
    quoteSegments (paste '.' pieces) = paste '.' (pieces.map quoteSegments) := by
  induction pieces with
  | nil => exact absurd rfl h
  | cons piece rest ih =>
    by_cases hrest : rest = []
    · rw [hrest]
      rfl
    · have hmap : rest.map quoteSegments ≠ [] := fun hnil => hrest (List.map_eq_nil_iff.1 hnil)
      rw [paste_cons hrest, quoteSegments_append_cons, ih hrest, List.map_cons, paste_cons hmap]

theorem count_paste (pieces : List (List Char)) :
    (paste '.' pieces).count '"' = (pieces.map (List.count '"')).sum := by
  induction pieces with
  | nil => rfl
  | cons piece rest ih =>
    by_cases hrest : rest = []
    · rw [hrest]
      rfl
    · rw [paste_cons hrest, List.count_append, List.count_cons_of_ne (by decide), ih, List.map_cons,
        List.sum_cons]

/-- Quotes are added and none is taken away. -/
theorem count_le_quoteSegments (cs : List Char) :
    cs.count '"' ≤ (quoteSegments cs).count '"' := by
  conv => lhs; rw [← paste_cut '.' cs]
  unfold quoteSegments
  rw [count_paste, count_paste]
  induction cut '.' cs with
  | nil => exact Nat.le_refl 0
  | cons piece pieces ih =>
    rw [List.map_cons, List.map_cons, List.map_cons, List.sum_cons, List.sum_cons]
    exact Nat.add_le_add (count_le_quoteSegment piece) ih

theorem count_quoteSegments_append_cons (front cs : List Char) :
    (quoteSegments (front ++ '.' :: cs)).count '"' =
      (quoteSegments front).count '"' + (quoteSegments cs).count '"' := by
  rw [quoteSegments_append_cons, List.count_append, List.count_cons_of_ne (by decide)]

/-- A text that does not start with a quote gets one. -/
theorem count_lt_quoteSegments {cs : List Char} (h : cs.head? ≠ some '"') :
    cs.count '"' < (quoteSegments cs).count '"' := by
  by_cases hdot : '.' ∈ cs
  · obtain ⟨front, back, rfl, hfront⟩ := List.eq_append_cons_of_mem hdot
    have hhead : front.head? ≠ some '"' := by
      intro hquote
      obtain ⟨rest, rfl⟩ := List.head?_eq_some_iff.1 hquote
      exact h rfl
    have hback := count_le_quoteSegments back
    rw [count_quoteSegments_append_cons, quoteSegments_of_not_mem hfront,
      count_quoteSegment_of_ne hhead, List.count_append, List.count_cons_of_ne (by decide)]
    omega
  · rw [quoteSegments_of_not_mem hdot, count_quoteSegment_of_ne h]
    omega

/-! ### Segments -/

/-- A segment of an identifier, by the name in it. -/
inductive Segment where
  | bare (name : String)
  | quoted (name : String)

namespace Segment

def text : Segment → String
  | .bare name => name
  | .quoted name => "\"" ++ name ++ "\""

/-- The segment in quotes, once. -/
def inQuotes : Segment → String
  | .bare name => "\"" ++ name ++ "\""
  | .quoted name => "\"" ++ name ++ "\""

/-- What a name can be: one in quotes may have dots, a bare one is not empty. -/
def IsWellFormed : Segment → Prop
  | .bare name => name ≠ "" ∧ '.' ∉ name.toList ∧ '"' ∉ name.toList
  | .quoted name => '"' ∉ name.toList

/-- A segment that has no dot in it, unless it is already in quotes and the dot is its last
character. -/
def IsWhole : Segment → Prop
  | .bare _ => True
  | .quoted name => '.' ∉ name.toList.dropLast

theorem toList_inQuotes (name : String) :
    ("\"" ++ name ++ "\"").toList = '"' :: name.toList ++ ['"'] := by
  rw [String.toList_append, String.toList_append]
  rfl

theorem count_inQuotes {name : String} (h : '"' ∉ name.toList) :
    ("\"" ++ name ++ "\"").toList.count '"' = 2 := by
  rw [toList_inQuotes, List.cons_append, List.count_cons_self, List.count_append,
    List.count_eq_zero.2 h, List.count_singleton_self]

theorem count_segment {segment : Segment} (wellFormed : segment.IsWellFormed) :
    segment.inQuotes.toList.count '"' = 2 := by
  cases segment with
  | bare name => exact count_inQuotes wellFormed.2.2
  | quoted name => exact count_inQuotes wellFormed

theorem head?_of_plain {name : String} (h : '"' ∉ name.toList) : name.toList.head? ≠ some '"' :=
  fun hhead => h (List.mem_of_mem_head? hhead)

theorem quoteSegments_bare {name : String} (wellFormed : (bare name).IsWellFormed) :
    quoteSegments name.toList = (bare name).inQuotes.toList := by
  obtain ⟨-, hdot, hquote⟩ := wellFormed
  rw [quoteSegments_of_not_mem hdot, quoteSegment_of_ne (head?_of_plain hquote), inQuotes,
    toList_inQuotes]

/-- A dot right before the closing quote leaves a piece that is that quote alone. -/
theorem quoteSegments_quoted {name : String} (whole : (quoted name).IsWhole) :
    quoteSegments (quoted name).text.toList = (quoted name).inQuotes.toList := by
  rw [text, inQuotes, toList_inQuotes]
  by_cases hdot : '.' ∈ name.toList
  · have hne : name.toList ≠ [] := List.ne_nil_of_mem hdot
    have hsplit := List.dropLast_append_getLast hne
    have hlast : name.toList.getLast hne = '.' := by
      rw [← hsplit] at hdot
      exact (List.mem_singleton.1 ((List.mem_append.1 hdot).resolve_left whole)).symm
    have hfront : '.' ∉ '"' :: name.toList.dropLast :=
      List.not_mem_cons_of_ne_of_not_mem (by decide) whole
    have hshape : '"' :: name.toList ++ ['"'] = '"' :: name.toList.dropLast ++ '.' :: ['"'] := by
      conv => lhs; rw [← hsplit, hlast]
      simp
    rw [hshape, quoteSegments_append_cons, quoteSegments_of_not_mem hfront,
      quoteSegment_of_head rfl]
    rfl
  · have hplain : '.' ∉ '"' :: name.toList ++ ['"'] := by simp [hdot]
    rw [quoteSegments_of_not_mem hplain, quoteSegment_of_head rfl]

/-- A dot before anything else leaves a piece that is put into quotes. -/
theorem two_lt_count_quoteSegments {name : String} (wellFormed : (quoted name).IsWellFormed)
    (h : ¬(quoted name).IsWhole) :
    2 < (quoteSegments (quoted name).text.toList).count '"' := by
  have hdot : '.' ∈ name.toList.dropLast := not_not.1 h
  have hne : name.toList ≠ [] := fun hnil => by
    rw [hnil] at hdot
    cases hdot
  obtain ⟨front, middle, hshape, hfront⟩ := List.eq_append_cons_of_mem hdot
  have hname : name.toList = front ++ '.' :: (middle ++ [name.toList.getLast hne]) := by
    conv => lhs; rw [← List.dropLast_append_getLast hne, hshape]
    simp
  generalize name.toList.getLast hne = last at hname
  have hplain : '"' ∉ front ++ '.' :: (middle ++ [last]) := hname ▸ wellFormed
  have hquotes : '"' ∉ front ∧ '"' ∉ middle ++ [last] := by
    simp only [List.mem_append, List.mem_cons, not_or] at hplain ⊢
    exact ⟨hplain.1, hplain.2.2⟩
  have hback : (middle ++ [last] ++ ['"']).head? ≠ some '"' := by
    intro hhead
    rw [List.head?_append_of_ne_nil _ (by simp)] at hhead
    exact hquotes.2 (List.mem_of_mem_head? hhead)
  have htext : '"' :: name.toList ++ ['"'] =
      '"' :: front ++ '.' :: (middle ++ [last] ++ ['"']) := by
    rw [hname]
    simp
  have hcount := count_lt_quoteSegments hback
  have hdotless : '.' ∉ '"' :: front := List.not_mem_cons_of_ne_of_not_mem (by decide) hfront
  rw [List.count_append, List.count_eq_zero.2 hquotes.2, List.count_singleton_self] at hcount
  rw [text, toList_inQuotes, htext, count_quoteSegments_append_cons,
    quoteSegments_of_not_mem hdotless, quoteSegment_of_head rfl, List.count_cons_self]
  omega

variable {segment : Segment} {segments : List Segment}

theorem quoteSegments_of_whole (wellFormed : segment.IsWellFormed) (whole : segment.IsWhole) :
    quoteSegments segment.text.toList = segment.inQuotes.toList := by
  cases segment with
  | bare name => exact quoteSegments_bare wellFormed
  | quoted name => exact quoteSegments_quoted whole

theorem count_inQuotes_le (wellFormed : segment.IsWellFormed) :
    segment.inQuotes.toList.count '"' ≤ (quoteSegments segment.text.toList).count '"' := by
  cases segment with
  | bare name => rw [text, quoteSegments_bare wellFormed]
  | quoted name => exact count_le_quoteSegments _

theorem isWhole_of_count (wellFormed : segment.IsWellFormed)
    (h : (quoteSegments segment.text.toList).count '"' = segment.inQuotes.toList.count '"') :
    segment.IsWhole := by
  cases segment with
  | bare name => trivial
  | quoted name =>
    by_contra hnot
    have hlt := two_lt_count_quoteSegments wellFormed hnot
    rw [h, count_segment wellFormed] at hlt
    exact absurd hlt (Nat.lt_irrefl 2)

/-- Quotes that are added to one segment are not taken away from another. -/
theorem isWhole_of_sum (wellFormed : ∀ segment ∈ segments, segment.IsWellFormed)
    (h : (segments.map fun segment => (quoteSegments segment.text.toList).count '"').sum =
      (segments.map fun segment => segment.inQuotes.toList.count '"').sum) :
    ∀ segment ∈ segments, segment.IsWhole := by
  induction segments with
  | nil => exact List.forall_mem_nil _
  | cons first rest ih =>
    obtain ⟨hfirst, hrest⟩ := List.forall_mem_cons.1 wellFormed
    have hle := count_inQuotes_le hfirst
    have hsum := List.sum_le_sum fun segment hsegment => count_inQuotes_le (hrest segment hsegment)
    rw [List.map_cons, List.map_cons, List.sum_cons, List.sum_cons] at h
    exact List.forall_mem_cons.2 ⟨isWhole_of_count hfirst (by omega), ih hrest (by omega)⟩

end Segment

/-! ### Identifiers of segments -/

theorem toList_dot : ".".toList = ['.'] := rfl

theorem quoteSegments_join {segments : List Segment} (hne : segments ≠ []) :
    quoteSegments (join "." (segments.map Segment.text)).toList =
      paste '.' (segments.map fun segment => quoteSegments segment.text.toList) := by
  have hpieces : (segments.map Segment.text).map String.toList ≠ [] := by simpa using hne
  rw [toList_join toList_dot, quoteSegments_paste hpieces, List.map_map, List.map_map]
  rfl

theorem quoteSegments_join_iff {segments : List Segment} (hne : segments ≠ [])
    (wellFormed : ∀ segment ∈ segments, segment.IsWellFormed) :
    quoteSegments (join "." (segments.map Segment.text)).toList =
        (join "." (segments.map Segment.inQuotes)).toList ↔
      ∀ segment ∈ segments, segment.IsWhole := by
  rw [quoteSegments_join hne, toList_join toList_dot, List.map_map]
  constructor
  · intro h
    have hcount := congrArg (List.count '"') h
    rw [count_paste, count_paste, List.map_map, List.map_map] at hcount
    exact Segment.isWhole_of_sum wellFormed hcount
  · intro whole
    refine congrArg (paste '.') (List.map_congr_left fun segment hsegment => ?_)
    exact Segment.quoteSegments_of_whole (wellFormed segment hsegment) (whole segment hsegment)

/-! ### Pieces in quotes once more -/

theorem head?_quoteSegment (cs : List Char) : (quoteSegment cs).head? = some '"' := by
  by_cases h : cs.head? = some '"'
  · rwa [quoteSegment_of_head h]
  · rw [quoteSegment_of_ne h]
    rfl

theorem quoteSegment_quoteSegment (cs : List Char) :
    quoteSegment (quoteSegment cs) = quoteSegment cs :=
  quoteSegment_of_head (head?_quoteSegment cs)

theorem dot_not_mem_quoteSegment {cs : List Char} (h : '.' ∉ cs) : '.' ∉ quoteSegment cs := by
  by_cases hhead : cs.head? = some '"'
  · rwa [quoteSegment_of_head hhead]
  · rw [quoteSegment_of_ne hhead]
    simpa using h

/-- The pieces of an identifier in quotes are its pieces in quotes. -/
theorem cut_quoteSegments (cs : List Char) :
    cut '.' (quoteSegments cs) = (cut '.' cs).map quoteSegment := by
  have hne : (cut '.' cs).map quoteSegment ≠ [] :=
    fun h => cut_ne_nil '.' cs (List.map_eq_nil_iff.1 h)
  have hdotless : ∀ piece ∈ (cut '.' cs).map quoteSegment, '.' ∉ piece :=
    List.forall_mem_map.2 fun _ hpiece => dot_not_mem_quoteSegment (not_mem_of_mem_cut hpiece)
  unfold quoteSegments
  rw [cut_paste hne, flatMap_cut_of_not_mem hdotless]

theorem quoteSegments_quoteSegments (cs : List Char) :
    quoteSegments (quoteSegments cs) = quoteSegments cs := by
  have htwice : quoteSegment ∘ quoteSegment = quoteSegment := funext quoteSegment_quoteSegment
  calc quoteSegments (quoteSegments cs)
      = paste '.' ((cut '.' (quoteSegments cs)).map quoteSegment) := rfl
    _ = paste '.' ((cut '.' cs).map (quoteSegment ∘ quoteSegment)) := by
        rw [cut_quoteSegments, List.map_map]
    _ = quoteSegments cs := by rw [htwice, quoteSegments]

/-- An identifier in quotes is never the star. -/
theorem quoteSegments_ne_star (cs : List Char) : quoteSegments cs ≠ ['*'] := by
  intro hstar
  have hpiece : ['*'] ∈ (cut '.' cs).map quoteSegment := by
    rw [← cut_quoteSegments, hstar]
    exact List.mem_singleton_self _
  obtain ⟨piece, -, hpiece⟩ := List.mem_map.1 hpiece
  have hhead := head?_quoteSegment piece
  rw [hpiece] at hhead
  exact absurd hhead (by decide)

/-! ### Segments and what is written for them -/

/-- A text without its first and its last character. -/
def withoutQuotes (written : String) : String := String.ofList written.toList.tail.dropLast

/-- What is written for a segment: it starts with a quote. A segment that does so stays, and any
other one comes back when the quotes around it are taken away. -/
structure WrittenFor (segment written : String) : Prop where
  starts : written.toList.head? = some '"'
  kept : segment.toList.head? = some '"' → written = segment
  wrapped : segment.toList.head? ≠ some '"' →
    written = "\"" ++ segment ++ "\"" ∧ withoutQuotes written = segment

theorem writtenFor_quoteSegment (cs : List Char) :
    WrittenFor (String.ofList cs) (String.ofList (quoteSegment cs)) where
  starts := by
    rw [String.toList_ofList]
    exact head?_quoteSegment cs
  kept := by
    rw [String.toList_ofList]
    exact fun h => congrArg String.ofList (quoteSegment_of_head h)
  wrapped := by
    rw [String.toList_ofList]
    intro h
    rw [quoteSegment_of_ne h]
    refine ⟨String.toList_injective ?_, String.toList_injective ?_⟩
    · rw [Segment.toList_inQuotes, String.toList_ofList, String.toList_ofList]
    · unfold withoutQuotes
      simp only [String.toList_ofList, List.cons_append, List.tail_cons, List.dropLast_concat]

theorem writtenFor_segments (name : String) :
    List.Forall₂ WrittenFor (segments '.' name)
      (segments '.' (String.ofList (quoteSegments name.toList))) := by
  unfold segments
  rw [String.toList_ofList, cut_quoteSegments, List.map_map, List.forall₂_map_left_iff,
    List.forall₂_map_right_iff, List.forall₂_same]
  exact fun piece _ => writtenFor_quoteSegment piece

end OracleCatalog.Identifier

namespace OracleCatalog.Dialect

open OracleCatalog.Text OracleCatalog.Identifier

theorem quote_of_ne_star {dialect : Dialect} (quoting : dialect.settings.quotes = true)
    {name : String} (h : name ≠ "*") :
    dialect.quote (.text name) = .ok (.text (String.ofList (quoteSegments name.toList))) := by
  have hnot : ¬(!true || decide (name = "*")) = true := by simp [h]
  unfold Dialect.quote Identifier.quoteValue Identifier.quote
  rw [quoting]
  show Except.ok (Value.text (if (!true || decide (name = "*")) then name else _)) = _
  rw [if_neg hnot]

/-- With quoting on, an identifier is written with each of its segments in quotes once, exactly when
no dot in a segment that is already quoted leaves a piece of its own. -/
theorem quote_segments_iff (dialect : Dialect) (quoting : dialect.settings.quotes = true)
    {segments : List Segment} (hne : segments ≠ [])
    (wellFormed : ∀ segment ∈ segments, segment.IsWellFormed)
    (notStar : join "." (segments.map Segment.text) ≠ "*") :
    ∃ written, dialect.quote (.text (join "." (segments.map Segment.text))) = .ok (.text written) ∧
      (written = join "." (segments.map Segment.inQuotes) ↔
        ∀ segment ∈ segments, segment.IsWhole) := by
  refine ⟨_, quote_of_ne_star quoting notStar, ?_⟩
  rw [← quoteSegments_join_iff hne wellFormed, ← String.toList_inj, String.toList_ofList]

/-- The settings that put every identifier into quotes. -/
def quotingDialect : Dialect := { settings := { quoteIdentifiers := .bool true } }

/-- A schema, a table that is quoted with a dot at its end, and a column. -/
def mixedSegments : List Segment := [.bare "HR", .quoted "Emp.", .bare "ID"]

theorem quote_mixed_segments :
    quotingDialect.quote (.text "HR.\"Emp.\".ID") = .ok (.text "\"HR\".\"Emp.\".\"ID\"") := by
  have wellFormed : ∀ segment ∈ mixedSegments, segment.IsWellFormed := by
    unfold mixedSegments
    simp [Segment.IsWellFormed]
  have whole : ∀ segment ∈ mixedSegments, segment.IsWhole := by
    unfold mixedSegments
    simp [Segment.IsWhole]
  obtain ⟨written, hwritten, hiff⟩ := quote_segments_iff quotingDialect rfl
    (List.cons_ne_nil _ _) wellFormed (by decide)
  obtain rfl := hiff.2 whole
  exact hwritten

/-- What follows the dot in a quoted segment is put into quotes once more. -/
theorem quote_dotted_segment :
    quotingDialect.quote (.text "\"HR.EMP\".ID") = .ok (.text "\"HR.\"EMP\"\".\"ID\"") ∧
      "\"HR.\"EMP\"\".\"ID\"" ≠
        join "." ([.quoted "HR.EMP", .bare "ID"].map Segment.inQuotes) :=
  ⟨rfl, by decide⟩

/-- With quoting on, an identifier that is quoted stays as it is when it is quoted once more. But
for the star it has as many segments as before, and each of them is written for the segment it
was. -/
theorem quote_idempotent (dialect : Dialect) (quoting : dialect.settings.quotes = true)
    (name : String) :
    ∃ written, dialect.quote (.text name) = .ok (.text written) ∧
      dialect.quote (.text written) = .ok (.text written) ∧
      (name ≠ "*" → (segments '.' written).length = (segments '.' name).length ∧
        List.Forall₂ WrittenFor (segments '.' name) (segments '.' written)) := by
  by_cases hstar : name = "*"
  · have hkept : dialect.quote (.text name) = .ok (.text name) := by
      unfold Dialect.quote Identifier.quoteValue Identifier.quote
      rw [hstar, quoting]
      rfl
    exact ⟨name, hkept, hkept, fun h => absurd hstar h⟩
  · have hne : String.ofList (quoteSegments name.toList) ≠ "*" := by
      intro h
      refine quoteSegments_ne_star name.toList ?_
      rw [← String.toList_ofList (l := quoteSegments name.toList), h]
      rfl
    have hsegments := writtenFor_segments name
    refine ⟨_, quote_of_ne_star quoting hstar, ?_, fun _ => ⟨hsegments.length_eq.symm, hsegments⟩⟩
    rw [quote_of_ne_star quoting hne, String.toList_ofList, quoteSegments_quoteSegments]

/-- A star that is a segment, a quote that is one, and no segment at all behind the last dot. -/
theorem quote_odd_segments_twice :
    quotingDialect.quote (.text "*.\".EMP.") = .ok (.text "\"*\".\".\"EMP\".\"\"") ∧
      quotingDialect.quote (.text "\"*\".\".\"EMP\".\"\"") =
        .ok (.text "\"*\".\".\"EMP\".\"\"") := by
  have honce : quotingDialect.quote (.text "*.\".EMP.") =
      .ok (.text "\"*\".\".\"EMP\".\"\"") := rfl
  obtain ⟨written, hwritten, htwice, -⟩ := quote_idempotent quotingDialect rfl "*.\".EMP."
  obtain rfl := Value.text.inj (Except.ok.inj (honce.symm.trans hwritten))
  exact ⟨honce, htwice⟩

end OracleCatalog.Dialect
