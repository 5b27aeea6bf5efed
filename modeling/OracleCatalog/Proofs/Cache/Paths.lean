import Mathlib.Data.List.Basic
import OracleCatalog.Cache.Basic
import OracleCatalog.Proofs.Text.Segments

/-!
# Where the files of a directory are

A path leads from name to name, where a dot stays and two dots go back. The shortest spelling of a
path leads over the same names as the path. The file of a key is one name further than its
directory, whatever the key is.
-/

namespace OracleCatalog

open OracleCatalog.Text

/-! ### Names on the way -/

def isAbsolute (path : String) : Bool := path.toList.head? = some '/'

/-- The names on the way to a directory or a file, in their order. -/
def pathNames (path : String) : List String :=
  ((segments '/' path).foldl (pathStep (isAbsolute path)) []).reverse

theorem shortestPath_eq (path : String) :
    shortestPath path =
      if isAbsolute path then "/" ++ join "/" (pathNames path)
      else if (pathNames path).isEmpty then "."
      else join "/" (pathNames path) := rfl

/-- A name that leads on. -/
structure IsForward (name : String) : Prop where
  ne_empty : name ≠ ""
  ne_dot : name ≠ "."
  ne_back : name ≠ ".."
  slashless : '/' ∉ name.toList

/-- Names that are on a way, the last one first: going back leads nowhere but out of the start, and
never out of the root. -/
inductive IsWay (absolute : Bool) : List String → Prop
  | start : IsWay absolute []
  | on (name : String) (names : List String) (forward : IsForward name)
    (way : IsWay absolute names) : IsWay absolute (name :: names)
  | back (names : List String) (relative : absolute = false) (out : ∀ name ∈ names, name = "..")
    (way : IsWay absolute names) : IsWay absolute (".." :: names)

variable {absolute : Bool} {name path : String} {names : List String}

theorem IsWay.ne_empty (way : IsWay absolute names) : ∀ name ∈ names, name ≠ "" := by
  induction way with
  | start => exact List.forall_mem_nil _
  | on name names forward way ih => exact List.forall_mem_cons.2 ⟨forward.ne_empty, ih⟩
  | back names relative out way ih => exact List.forall_mem_cons.2 ⟨by decide, ih⟩

theorem IsWay.slashless (way : IsWay absolute names) : ∀ name ∈ names, '/' ∉ name.toList := by
  induction way with
  | start => exact List.forall_mem_nil _
  | on name names forward way ih => exact List.forall_mem_cons.2 ⟨forward.slashless, ih⟩
  | back names relative out way ih => exact List.forall_mem_cons.2 ⟨by decide, ih⟩

/-! ### One step -/

theorem pathStep_of_stays (h : name = "" ∨ name = ".") : pathStep absolute names name = names := by
  unfold pathStep
  rw [if_pos (by simpa using h)]

theorem pathStep_of_isForward (h : IsForward name) :
    pathStep absolute names name = name :: names := by
  have hon : ¬(decide (name = "") || decide (name = ".")) = true := by
    simp [h.ne_empty, h.ne_dot]
  unfold pathStep
  rw [if_neg hon, if_neg h.ne_back]

theorem isWay_pathStep (way : IsWay absolute names) (h : '/' ∉ name.toList) :
    IsWay absolute (pathStep absolute names name) := by
  by_cases hstays : name = "" ∨ name = "."
  · rwa [pathStep_of_stays hstays]
  obtain ⟨hempty, hdot⟩ := not_or.1 hstays
  by_cases hback : name = ".."
  · rw [hback]
    cases way with
    | start =>
      cases absolute with
      | true => exact .start
      | false => exact .back [] rfl (List.forall_mem_nil _) .start
    | on name names forward way =>
      show IsWay absolute (if name = ".." then ".." :: name :: names else names)
      rwa [if_neg forward.ne_back]
    | back names relative out way =>
      exact .back _ relative (List.forall_mem_cons.2 ⟨rfl, out⟩) (.back names relative out way)
  · have forward : IsForward name := ⟨hempty, hdot, hback, h⟩
    rw [pathStep_of_isForward forward]
    exact .on name names forward way

/-- Following the names of a way from the start leads over them. -/
theorem IsWay.foldl_reverse (way : IsWay absolute names) :
    names.reverse.foldl (pathStep absolute) [] = names := by
  induction way with
  | start => rfl
  | on name names forward way ih =>
    rw [List.reverse_cons, List.foldl_append, ih]
    exact pathStep_of_isForward forward
  | back names relative out way ih =>
    rw [List.reverse_cons, List.foldl_append, ih, relative]
    cases names with
    | nil => rfl
    | cons last before =>
      obtain rfl := out last List.mem_cons_self
      rfl

/-! ### Paths -/

theorem isWay_foldl {texts : List String} (way : IsWay absolute names)
    (h : ∀ text ∈ texts, '/' ∉ text.toList) :
    IsWay absolute (texts.foldl (pathStep absolute) names) := by
  induction texts generalizing names with
  | nil => exact way
  | cons text rest ih =>
    obtain ⟨htext, hrest⟩ := List.forall_mem_cons.1 h
    exact ih (isWay_pathStep way htext) hrest

theorem isWay_pathNames (path : String) : IsWay (isAbsolute path) (pathNames path).reverse := by
  have hslashless : ∀ text ∈ segments '/' path, '/' ∉ text.toList := by
    intro text htext
    obtain ⟨piece, hpiece, rfl⟩ := List.mem_map.1 htext
    rw [String.toList_ofList]
    exact not_mem_of_mem_cut hpiece
  unfold pathNames
  rw [List.reverse_reverse]
  exact isWay_foldl .start hslashless

theorem toList_slash : "/".toList = ['/'] := rfl

/-- The names between slashes lead over themselves. -/
theorem foldl_segments_join (way : IsWay absolute names.reverse) :
    (segments '/' (join "/" names)).foldl (pathStep absolute) [] = names.reverse := by
  by_cases hnames : names = []
  · rw [hnames]
    rfl
  · have hslashless : ∀ name ∈ names, '/' ∉ name.toList :=
      fun name hname => way.slashless name (List.mem_reverse.2 hname)
    have hfollow := way.foldl_reverse
    rw [List.reverse_reverse] at hfollow
    rw [segments_join toList_slash hnames hslashless, hfollow]

theorem segments_slash_append (rest : String) :
    segments '/' ("/" ++ rest) = "" :: segments '/' rest := by
  unfold segments
  rw [String.toList_append, toList_slash]
  rfl

theorem isAbsolute_slash_append (rest : String) : isAbsolute ("/" ++ rest) = true := by
  unfold isAbsolute
  rw [String.toList_append, toList_slash]
  rfl

/-- Names that are not empty and have no slash are not the way from the root. -/
theorem isAbsolute_join (hempty : ∀ name ∈ names, name ≠ "")
    (hslash : ∀ name ∈ names, '/' ∉ name.toList) : isAbsolute (join "/" names) = false := by
  unfold isAbsolute
  refine decide_eq_false fun hhead => ?_
  cases names with
  | nil => cases hhead
  | cons first rest =>
    have hne : first.toList ≠ [] :=
      mt String.toList_eq_nil_iff.1 (hempty first List.mem_cons_self)
    have hfirst : first.toList.head? = some '/' := by
      cases rest with
      | nil => rwa [toList_join_singleton] at hhead
      | cons next rest => rwa [toList_join_cons, List.head?_append_of_ne_nil _ hne] at hhead
    exact hslash first List.mem_cons_self (List.mem_of_mem_head? hfirst)

theorem isAbsolute_shortestPath (path : String) :
    isAbsolute (shortestPath path) = isAbsolute path := by
  have way := isWay_pathNames path
  rw [shortestPath_eq]
  cases habsolute : isAbsolute path with
  | true => exact isAbsolute_slash_append _
  | false =>
    rw [if_neg Bool.false_ne_true]
    split
    · rfl
    · exact isAbsolute_join (fun name hname => way.ne_empty name (List.mem_reverse.2 hname))
        fun name hname => way.slashless name (List.mem_reverse.2 hname)

/-- The shortest spelling of a path leads over the names of the path. -/
theorem pathNames_shortestPath (path : String) :
    pathNames (shortestPath path) = pathNames path := by
  have way := isWay_pathNames path
  have hfollow := foldl_segments_join way
  rw [pathNames, isAbsolute_shortestPath, shortestPath_eq]
  cases habsolute : isAbsolute path with
  | true =>
    rw [habsolute] at hfollow
    rw [if_pos rfl, segments_slash_append, List.foldl_cons, pathStep_of_stays (.inl rfl), hfollow,
      List.reverse_reverse]
  | false =>
    rw [habsolute] at hfollow
    rw [if_neg Bool.false_ne_true]
    split
    · rename_i hnone
      rw [List.isEmpty_iff.1 hnone]
      rfl
    · rw [hfollow, List.reverse_reverse]

theorem shortestPath_ne_empty (path : String) : shortestPath path ≠ "" := by
  intro hempty
  have habsolute := isAbsolute_shortestPath path
  have hnames := pathNames_shortestPath path
  rw [hempty] at habsolute hnames
  -- a path without names that is not absolute is the dot
  rw [shortestPath_eq, ← habsolute, ← hnames] at hempty
  exact absurd hempty (by decide)

/-! ### Files -/

theorem segments_of_isForward (forward : IsForward name) : segments '/' name = [name] := by
  unfold segments
  rw [cut_of_not_mem forward.slashless, List.map_singleton, String.ofList_toList]

/-- One name more leads over the names of the path to that name. -/
theorem pathNames_append (hpath : path ≠ "") (forward : IsForward name) :
    isAbsolute (path ++ "/" ++ name) = isAbsolute path ∧
      pathNames (path ++ "/" ++ name) = pathNames path ++ [name] := by
  have hchars : (path ++ "/" ++ name).toList = path.toList ++ '/' :: name.toList := by
    rw [String.toList_append, String.toList_append, toList_slash, List.append_assoc]
    rfl
  have hne : path.toList ≠ [] := mt String.toList_eq_nil_iff.1 hpath
  have habsolute : isAbsolute (path ++ "/" ++ name) = isAbsolute path := by
    unfold isAbsolute
    rw [hchars, List.head?_append_of_ne_nil _ hne]
  have hsegments : segments '/' (path ++ "/" ++ name) = segments '/' path ++ [name] := by
    rw [← segments_of_isForward forward]
    unfold segments
    rw [hchars, cut_append_cons, List.map_append]
  refine ⟨habsolute, ?_⟩
  rw [pathNames, habsolute, hsegments, List.foldl_append, List.foldl_cons, List.foldl_nil,
    pathStep_of_isForward forward, List.reverse_cons]
  rfl

theorem pathNames_of_isForward (forward : IsForward name) :
    isAbsolute name = false ∧ pathNames name = [name] := by
  have habsolute : isAbsolute name = false :=
    decide_eq_false fun hhead => forward.slashless (List.mem_of_mem_head? hhead)
  refine ⟨habsolute, ?_⟩
  rw [pathNames, segments_of_isForward forward, List.foldl_cons, List.foldl_nil,
    pathStep_of_isForward forward]
  rfl

theorem pathNames_root (forward : IsForward name) :
    isAbsolute ("/" ++ name) = true ∧ pathNames ("/" ++ name) = [name] := by
  refine ⟨isAbsolute_slash_append name, ?_⟩
  rw [pathNames, segments_slash_append, segments_of_isForward forward, List.foldl_cons,
    List.foldl_cons, List.foldl_nil, pathStep_of_stays (.inl rfl), pathStep_of_isForward forward]
  rfl

theorem isForward_fileName (key : String) : IsForward (fileName key) := by
  have hlength : 5 ≤ (fileName key).toList.length := by
    unfold fileName
    rw [String.toList_append, List.length_append]
    exact Nat.le_add_left 5 _
  have hne : ∀ short : String, short.toList.length < 5 → fileName key ≠ short := by
    rintro short hshort rfl
    omega
  refine ⟨hne _ (by decide), hne _ (by decide), hne _ (by decide), fun hslash => ?_⟩
  exact absurd (List.all_eq_true.1 (isFileChar_fileName key) '/' hslash) (by decide)

/-- The file of a key is right in its directory. -/
theorem pathNames_filePath (hpath : path ≠ "") (key : String) :
    isAbsolute (filePath path key) = isAbsolute path ∧
      pathNames (filePath path key) = pathNames path ++ [fileName key] := by
  have forward := isForward_fileName key
  unfold filePath
  by_cases hdot : path = "."
  · rw [if_pos hdot, hdot]
    exact pathNames_of_isForward forward
  · rw [if_neg hdot]
    by_cases hroot : path = "/"
    · rw [if_pos hroot, hroot]
      exact pathNames_root forward
    · rw [if_neg hroot]
      exact pathNames_append hpath forward

end OracleCatalog
