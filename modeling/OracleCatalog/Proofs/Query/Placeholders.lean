import OracleCatalog.Proofs.Statement.Names
import OracleCatalog.Query.Listing
import OracleCatalog.Query.Table

/-!
# The placeholders of catalog queries

The names that stand in the text of a catalog query, read off its lines. Whatever a query binds has
a placeholder in its text, and nothing else has.
-/

namespace OracleCatalog

open OracleCatalog.RoutineName (Qualification)
open OracleCatalog.Text (not_mem_append not_mem_chars)

/-! ### Pieces of texts -/

theorem no_colon_viewName {view : String} (h : ':' ∉ view.toList) (owned : Bool) :
    ':' ∉ (viewName owned view).toList := by
  cases owned with
  | false => exact not_mem_append (not_mem_chars rfl (by decide)) h
  | true => exact not_mem_append (not_mem_chars rfl (by decide)) h

theorem no_colon_foldedField {field : String} (h : ':' ∉ field.toList) (folding : CaseFolding) :
    ':' ∉ (foldedField folding field).toList := by
  cases folding with
  | asIs => exact h
  | lower =>
    exact not_mem_append (not_mem_append (not_mem_chars rfl (by decide)) h)
      (not_mem_chars rfl (by decide))

theorem placeholderNames_view {before view after : String} (hbefore : ':' ∉ before.toList)
    (hview : ':' ∉ view.toList) (hafter : ':' ∉ after.toList) (owned : Bool) :
    placeholderNames (before ++ viewName owned view ++ after) = [] :=
  placeholderNames_of_no_colon
    (not_mem_append (not_mem_append hbefore (no_colon_viewName hview owned)) hafter)

theorem placeholderNames_indented (width : Nat) (line : String) :
    placeholderNames (indented width line) = placeholderNames line := by
  refine placeholderNames_append ?_ line
  rw [String.toList_ofList, List.mem_replicate]
  rintro ⟨-, hcolon⟩
  cases hcolon

theorem placeholderNames_whenOwned (owned : Bool) (text : String) :
    placeholderNames (whenOwned owned text) = if owned then placeholderNames text else [] := by
  cases owned with
  | true => rfl
  | false => exact placeholderNames_of_no_colon List.not_mem_nil

theorem placeholderNames_fieldLines (width : Nat) (fields : List String) :
    placeholderNames (fieldLines width fields) = fields.flatMap placeholderNames := by
  have hsep : (",\n" : String).toList = [',', '\n'] := by decide
  have hbreak : Token.IsBreak ',' := ⟨by decide, by decide, by decide⟩
  have hnewline : ':' ∉ ['\n'] := by decide
  unfold fieldLines
  rw [placeholderNames_join hsep hbreak hnewline, List.flatMap_map]
  exact congrArg (List.flatMap · fields) (funext (placeholderNames_indented width))

namespace Query

/-! ### Queries for one table -/

def tableNames (owned : Bool) : List String :=
  "tableParam" :: if owned then ["ownerParam"] else []

theorem placeholderNames_columnsText (owned : Bool) :
    placeholderNames (columnsText owned) = tableNames owned := by
  have htable : placeholderNames "WHERE UPPER(utc.table_name) = :tableParam" = ["tableParam"] := by
    rw [placeholderNames_chars rfl]
    simp [isNameChar]
  have howner : placeholderNames "AND utc.OWNER = :ownerParam" = ["ownerParam"] := by
    rw [placeholderNames_chars rfl]
    simp [isNameChar]
  unfold columnsText tableNames
  rw [placeholderNames_lines]
  simp (disch := (refine not_mem_chars rfl ?_; decide)) only [List.flatMap_cons, List.flatMap_nil,
    List.nil_append, List.append_nil, List.cons_append, placeholderNames_indented,
    placeholderNames_whenOwned, placeholderNames_fieldLines, placeholderNames_view, htable, howner,
    placeholderNames_of_no_colon, ite_self]

theorem placeholderNames_indexLookup (owned : Bool) (width : Nat) {field : String}
    (h : ':' ∉ field.toList) : (indexLookup owned width field).flatMap placeholderNames = [] := by
  have hselect : placeholderNames ("SELECT i." ++ field) = [] :=
    placeholderNames_of_no_colon (not_mem_append (not_mem_chars rfl (by decide)) h)
  unfold indexLookup
  simp (disch := (refine not_mem_chars rfl ?_; decide)) only [List.flatMap_cons, List.flatMap_nil,
    List.append_nil, placeholderNames_indented, placeholderNames_whenOwned, placeholderNames_view,
    hselect, placeholderNames_append, placeholderNames_of_no_colon, ite_self]

theorem placeholderNames_indexesText (owned : Bool) :
    placeholderNames (indexesText owned) = tableNames owned := by
  have hfield : ':' ∉ ("index_type" : String).toList := not_mem_chars rfl (by decide)
  have hfield' : ':' ∉ ("uniqueness" : String).toList := not_mem_chars rfl (by decide)
  have htable : placeholderNames "WHERE upper(ic.table_name) = :tableParam" = ["tableParam"] := by
    rw [placeholderNames_chars rfl]
    simp [isNameChar]
  have howner : placeholderNames " AND ic.table_owner = :ownerParam" = ["ownerParam"] := by
    rw [placeholderNames_chars rfl]
    simp [isNameChar]
  have hcondition : placeholderNames ("WHERE upper(ic.table_name) = :tableParam" ++
      whenOwned owned " AND ic.table_owner = :ownerParam") = tableNames owned := by
    cases owned with
    | false =>
      show placeholderNames ("WHERE upper(ic.table_name) = :tableParam" ++ "") = ["tableParam"]
      rw [String.append_empty, htable]
    | true =>
      show placeholderNames ("WHERE upper(ic.table_name) = :tableParam" ++
        " AND ic.table_owner = :ownerParam") = ["tableParam", "ownerParam"]
      rw [placeholderNames_append_break rfl Token.isBreak_blank, htable, howner]
      rfl
  unfold indexesText
  rw [placeholderNames_lines]
  simp (disch := (refine not_mem_chars rfl ?_; decide)) only [List.flatMap_append,
    List.flatMap_cons, List.flatMap_nil, List.nil_append, List.append_nil,
    placeholderNames_indented, placeholderNames_whenOwned, placeholderNames_view,
    placeholderNames_indexLookup owned _ hfield, placeholderNames_indexLookup owned _ hfield',
    hcondition, placeholderNames_append, placeholderNames_of_no_colon, ite_self]

theorem placeholderNames_foreignKeyFields : foreignKeyFields.flatMap placeholderNames = [] := by
  unfold foreignKeyFields
  simp (disch := (refine not_mem_chars rfl ?_; decide)) only [List.flatMap_cons, List.flatMap_nil,
    List.append_nil, placeholderNames_of_no_colon]

/-- The text for a schema names the schema before the table. -/
theorem placeholderNames_foreignKeysText (owned : Bool) :
    placeholderNames (foreignKeysText owned) = (tableNames owned).reverse := by
  have htable : placeholderNames "AND upper(cc.table_name) = :tableParam" = ["tableParam"] := by
    rw [placeholderNames_chars rfl]
    simp [isNameChar]
  have howner : placeholderNames "AND cc.owner = :ownerParam" = ["ownerParam"] := by
    rw [placeholderNames_chars rfl]
    simp [isNameChar]
  cases owned with
  | false =>
    show placeholderNames userForeignKeysText = ["tableParam"]
    unfold userForeignKeysText
    rw [placeholderNames_lines]
    simp (disch := (refine not_mem_chars rfl ?_; decide)) only [List.flatMap_cons,
      List.flatMap_nil, List.nil_append, List.append_nil, placeholderNames_indented,
      placeholderNames_fieldLines, placeholderNames_foreignKeyFields, htable,
      placeholderNames_of_no_colon]
  | true =>
    show placeholderNames allForeignKeysText = ["ownerParam", "tableParam"]
    unfold allForeignKeysText
    rw [placeholderNames_lines]
    simp (disch := (refine not_mem_chars rfl ?_; decide)) only [List.flatMap_cons,
      List.flatMap_nil, List.nil_append, List.append_nil, List.cons_append,
      placeholderNames_indented, placeholderNames_fieldLines, placeholderNames_foreignKeyFields,
      htable, howner, placeholderNames_of_no_colon]

/-! ### Queries for routines -/

def qualifierNames : Qualification → List String
  | .none => []
  | .package => ["packageParam", "packageParam"]
  | .schema => ["ownerParam"]
  | .schemaAndPackage => ["ownerParam", "packageParam"]

theorem placeholderNames_argumentOwner (qualification : Qualification) :
    placeholderNames (whenOwned (OwnerCondition.argument qualification).usesOwner
      (OwnerCondition.argument qualification).owner) = qualifierNames qualification := by
  rw [placeholderNames_whenOwned]
  cases qualification with
  | none => rfl
  | package =>
    show placeholderNames
      "AND (args.OWNER = :packageParam OR args.PACKAGE_NAME = :packageParam) " = _
    rw [placeholderNames_chars rfl]
    simp [qualifierNames, isNameChar]
  | schema =>
    show placeholderNames "AND args.OWNER = :ownerParam AND args.PACKAGE_NAME IS NULL " = _
    rw [placeholderNames_chars rfl]
    simp [qualifierNames, isNameChar]
  | schemaAndPackage =>
    show placeholderNames "AND args.OWNER = :ownerParam AND args.PACKAGE_NAME = :packageParam " = _
    rw [placeholderNames_chars rfl]
    simp [qualifierNames, isNameChar]

theorem no_colon_argumentView (qualification : Qualification) :
    ':' ∉ (OwnerCondition.argument qualification).view.toList := by
  cases qualification with
  | none => exact not_mem_chars rfl (by decide)
  | _ => exact not_mem_chars rfl (by decide)

theorem placeholderNames_parametersText (qualification : Qualification) :
    placeholderNames (parametersText qualification) =
      "objectParam" :: qualifierNames qualification := by
  have hobject : placeholderNames "WHERE UPPER(args.object_name) = :objectParam" =
      ["objectParam"] := by
    rw [placeholderNames_chars rfl]
    simp [isNameChar]
  have hview := no_colon_argumentView qualification
  have hfrom : placeholderNames
      ("FROM " ++ (OwnerCondition.argument qualification).view ++ " args") = [] :=
    placeholderNames_of_no_colon (not_mem_append
      (not_mem_append (not_mem_chars rfl (by decide)) hview) (not_mem_chars rfl (by decide)))
  unfold parametersText
  dsimp only
  rw [placeholderNames_lines]
  simp (disch := (refine not_mem_chars rfl ?_; decide)) only [List.flatMap_cons, List.flatMap_nil,
    List.nil_append, List.append_nil, List.cons_append, placeholderNames_indented,
    placeholderNames_fieldLines, placeholderNames_argumentOwner, hobject, hfrom,
    placeholderNames_of_no_colon]

/-- Only the conditions of a listing can have placeholders. -/
theorem placeholderNames_routinesText (folding : CaseFolding) {view : String}
    (hview : ':' ∉ view.toList) (conditions : String) :
    placeholderNames (routinesText folding view conditions) = placeholderNames conditions := by
  have hobject : ':' ∉ (foldedField folding "OBJECT_NAME").toList :=
    no_colon_foldedField (not_mem_chars rfl (by decide)) folding
  have hprocedure : ':' ∉ (foldedField folding "PROCEDURE_NAME").toList :=
    no_colon_foldedField (not_mem_chars rfl (by decide)) folding
  have horder : placeholderNames " ORDER BY object, name" = [] :=
    placeholderNames_of_no_colon (not_mem_chars rfl (by decide))
  unfold routinesText
  rw [placeholderNames_append_break rfl Token.isBreak_blank, horder, List.append_nil]
  simp (disch := first | assumption | (refine not_mem_chars rfl ?_; decide)) only
    [String.append_assoc, placeholderNames_append]

theorem placeholderNames_ownedRoutines :
    placeholderNames " AND OWNER = :ownerParam " = ["ownerParam"] := by
  rw [placeholderNames_chars rfl]
  simp [isNameChar]

section Listing

variable {objectField procedureField : String}

theorem no_colon_listingView (qualification : Qualification) :
    ':' ∉ (OwnerCondition.listing objectField procedureField qualification).view.toList := by
  cases qualification with
  | none => exact not_mem_chars rfl (by decide)
  | _ => exact not_mem_chars rfl (by decide)

theorem placeholderNames_listingObject (hobject : ':' ∉ objectField.toList)
    (hprocedure : ':' ∉ procedureField.toList) (qualification : Qualification) :
    placeholderNames (OwnerCondition.listing objectField procedureField qualification).object =
      ["objectParam"] := by
  have hcondition : ∀ field : String, ':' ∉ field.toList →
      placeholderNames (" AND " ++ field ++ " = :objectParam ") = ["objectParam"] := by
    intro field hfield
    rw [String.append_assoc, placeholderNames_append (not_mem_chars rfl (by decide)),
      placeholderNames_append hfield, placeholderNames_chars rfl]
    simp [isNameChar]
  cases qualification with
  | none | schema => exact hcondition objectField hobject
  | package | schemaAndPackage => exact hcondition procedureField hprocedure

theorem placeholderNames_listingOwner (hobject : ':' ∉ objectField.toList)
    (qualification : Qualification) (after : String) :
    placeholderNames
        ((OwnerCondition.listing objectField procedureField qualification).owner ++ after) =
      qualifierNames qualification ++ placeholderNames after := by
  cases qualification with
  | none => exact congrArg placeholderNames String.empty_append
  | package =>
    have hfirst : placeholderNames " AND (OWNER = :packageParam OR " = ["packageParam"] := by
      rw [placeholderNames_chars rfl]
      simp [isNameChar]
    have hsecond : placeholderNames " = :packageParam) " = ["packageParam"] := by
      rw [placeholderNames_chars rfl]
      simp [isNameChar]
    show placeholderNames
      (" AND (OWNER = :packageParam OR " ++ objectField ++ " = :packageParam) " ++ after) = _
    rw [String.append_assoc, String.append_assoc, placeholderNames_append_blank rfl rfl, hfirst,
      placeholderNames_append hobject, placeholderNames_append_blank rfl rfl, hsecond]
    rfl
  | schema =>
    show placeholderNames (" AND OWNER = :ownerParam " ++ after) = _
    rw [placeholderNames_append_blank rfl rfl, placeholderNames_ownedRoutines]
    rfl
  | schemaAndPackage =>
    have howner : placeholderNames " AND OWNER = :ownerParam AND " = ["ownerParam"] := by
      rw [placeholderNames_chars rfl]
      simp [isNameChar]
    have hpackage : placeholderNames " = :packageParam " = ["packageParam"] := by
      rw [placeholderNames_chars rfl]
      simp [isNameChar]
    show placeholderNames
      (" AND OWNER = :ownerParam AND " ++ objectField ++ " = :packageParam " ++ after) = _
    rw [String.append_assoc, String.append_assoc, placeholderNames_append_blank rfl rfl, howner,
      placeholderNames_append hobject, placeholderNames_append_blank rfl rfl, hpackage]
    rfl

end Listing

theorem placeholderNames_routineText (folding : CaseFolding) (qualification : Qualification) :
    placeholderNames (routineText folding qualification) =
      qualifierNames qualification ++ ["objectParam"] := by
  have hobject : ':' ∉ (foldedField folding "OBJECT_NAME").toList :=
    no_colon_foldedField (not_mem_chars rfl (by decide)) folding
  have hprocedure : ':' ∉ (foldedField folding "PROCEDURE_NAME").toList :=
    no_colon_foldedField (not_mem_chars rfl (by decide)) folding
  unfold routineText
  rw [placeholderNames_routinesText folding (no_colon_listingView qualification),
    placeholderNames_listingOwner hobject, placeholderNames_listingObject hobject hprocedure]

/-! ### The query for tables -/

theorem placeholderNames_tablesText (folding : CaseFolding) (owned : Bool) :
    placeholderNames (tablesText folding owned) = if owned then ["ownerParam"] else [] := by
  have hfield : ':' ∉ (foldedField folding "TABLE_NAME").toList :=
    no_colon_foldedField (not_mem_chars rfl (by decide)) folding
  have hview : ':' ∉ (viewName owned "tables").toList :=
    no_colon_viewName (not_mem_chars rfl (by decide)) owned
  have hcondition : placeholderNames "WHERE owner = :ownerParam" = ["ownerParam"] := by
    rw [placeholderNames_chars rfl]
    simp [isNameChar]
  have horder : placeholderNames " ORDER BY name" = [] :=
    placeholderNames_of_no_colon (not_mem_chars rfl (by decide))
  unfold tablesText
  rw [placeholderNames_append_break rfl Token.isBreak_blank, horder, List.append_nil]
  simp (disch := first | assumption | (refine not_mem_chars rfl ?_; decide)) only
    [String.append_assoc, placeholderNames_append, placeholderNames_whenOwned, hcondition]

end Query

end OracleCatalog
