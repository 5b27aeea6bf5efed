import Mathlib.Data.List.Forall2
import Mathlib.Data.List.Nodup
import OracleCatalog.Proofs.Cache.Keys
import OracleCatalog.Proofs.Name
import OracleCatalog.Proofs.Routine.Document

/-!
# Descriptions and caches

Writing and reading descriptions are inverse to each other. A routine that may be declared is what
its description is read as, and a description that has every field is written again, in the order in
which the fields are written. So a cache that keeps the description of a routine keeps the routine.
-/

namespace OracleCatalog

/-- Where every member has an answer that is related to it, there are answers for all of them, one
related to each. -/
theorem Error.exists_mapM_related {α β : Type} {f : α → Except Error β} {R : α → β → Prop}
    {xs : List α} (h : ∀ x ∈ xs, ∃ y, f x = .ok y ∧ R x y) :
    ∃ ys, xs.mapM f = .ok ys ∧ List.Forall₂ R xs ys := by
  induction xs with
  | nil => exact ⟨[], rfl, .nil⟩
  | cons x rest ih =>
    obtain ⟨y, hy, hrelated⟩ := h x List.mem_cons_self
    obtain ⟨ys, hys, hrest⟩ := ih fun x' hx' => h x' (List.mem_cons_of_mem _ hx')
    exact ⟨y :: ys, mapM_cons_ok hy hys, .cons hrelated hrest⟩

/-! ### Named fields -/

section Fields

variable {names : List String} {fields : Entries}

/-- The fields of a map are the named ones, in whatever order. -/
def HasFields (names : List String) (fields : Entries) : Prop :=
  (OrderedMap.keys fields).Perm (names.map .text)

/-- The fields of a map in the order of the names. -/
def fieldsInOrder (names : List String) (fields : Entries) : Entries :=
  names.map fun name => (.text name, Value.fieldOrNull name fields)

theorem get?_fieldsInOrder {name : String} (h : name ∈ names) :
    OrderedMap.get? (.text name) (fieldsInOrder names fields) =
      some (Value.fieldOrNull name fields) := by
  induction names with
  | nil => cases h
  | cons first rest ih =>
    show (if Value.text name == .text first then some (Value.fieldOrNull first fields)
      else OrderedMap.get? (.text name) (fieldsInOrder rest fields)) = _
    rw [Value.text_beq]
    by_cases heq : name = first
    · rw [if_pos (beq_iff_eq.2 heq), heq]
    · rw [if_neg fun hbeq => heq (eq_of_beq hbeq)]
      exact ih ((List.mem_cons.1 h).resolve_left heq)

theorem HasFields.keysIn (h : HasFields names fields) :
    OrderedMap.KeysIn Value.IsText fields := by
  intro key hkey
  obtain ⟨name, -, rfl⟩ := List.mem_map.1 (h.mem_iff.1 hkey)
  exact Value.isText_text name

theorem HasFields.nodup_keys (h : HasFields names fields) (distinct : names.Nodup) :
    (OrderedMap.keys fields).Nodup :=
  h.nodup_iff.2 (List.Nodup.map (fun _ _ heq => Value.text.inj heq) distinct)

theorem HasFields.perm (h : HasFields names fields) (distinct : names.Nodup) :
    (fieldsInOrder names fields).Perm fields := by
  -- the keys are pairwise different, so that every entry is the one found under its key
  let read (key : Value) := (key, (OrderedMap.get? key fields).getD .null)
  have hread : ∀ entry ∈ fields, read entry.1 = entry := by
    intro entry hentry
    show (entry.1, (OrderedMap.get? entry.1 fields).getD .null) = entry
    rw [OrderedMap.get?_of_mem Value.lawfulOn_isText h.keysIn (h.nodup_keys distinct) hentry]
    rfl
  calc fieldsInOrder names fields
    _ = (names.map Value.text).map read := by rw [List.map_map]; rfl
    List.Perm _ ((OrderedMap.keys fields).map read) := (h.map read).symm
    _ = fields.map fun entry => read entry.1 := List.map_map ..
    _ = fields := (List.map_congr_left hread).trans (List.map_id fields)

theorem HasFields.get? (h : HasFields names fields) (distinct : names.Nodup) {name : String}
    (hname : name ∈ names) :
    OrderedMap.get? (.text name) fields = some (Value.fieldOrNull name fields) :=
  OrderedMap.get?_of_mem Value.lawfulOn_isText h.keysIn (h.nodup_keys distinct)
    ((h.perm distinct).mem_iff.1 (List.mem_map.2 ⟨name, hname, rfl⟩))

end Fields

/-- Two maps with the same fields in whatever order. -/
def SameFields (v w : Value) : Prop :=
  ∃ fields others : Entries, v = .map fields ∧ w = .map others ∧ fields.Perm others

/-! ### Parameters -/

namespace Parameter

/-- The fields of a description of a parameter. -/
def documentNames : List String := [
  "name", "type", "in", "out", "position", "length", "precision", "scale", "native_type"]

/-- Nothing but the fields of a description counts when it is read. -/
theorem ofDocument_congr {fields others : Entries}
    (h : ∀ name ∈ documentNames,
      OrderedMap.get? (.text name) fields = OrderedMap.get? (.text name) others) :
    ofDocument (.map fields) = ofDocument (.map others) := by
  simp only [documentNames, List.forall_mem_cons, List.not_mem_nil, false_imp_iff,
    implies_true, and_true] at h
  obtain ⟨name, type, isIn, isOut, position, length, precision, scale, nativeType⟩ := h
  simp only [ofDocument, descriptionFields, Error.ok_bind, Value.field, Value.fieldOrNull, fieldOr,
    name, type, isIn, isOut, position, length, precision, scale, nativeType]

/-- A description with every field, of a parameter that may be declared. -/
structure IsComplete (fields : Entries) : Prop where
  names : HasFields documentNames fields
  type : ∃ type : AbstractType, Value.fieldOrNull "type" fields = .text type.name
  result : (Value.fieldOrNull "name" fields).isText resultName = true →
    (Value.fieldOrNull "in" fields).truthy = false ∧
      (Value.fieldOrNull "out" fields).truthy = true

theorem isSound_iff (parameter : Parameter) :
    parameter.isSound = true ↔
      (parameter.isResult = true →
        parameter.isIn.truthy = false ∧ parameter.isOut.truthy = true) := by
  unfold isSound
  cases parameter.isResult <;> simp

theorem isSound_of_ofDocument {v : Value} {parameter : Parameter}
    (h : ofDocument v = .ok parameter) : parameter.isSound = true := by
  obtain ⟨fields, -, h⟩ := Error.ok_of_bind h
  obtain ⟨name, -, h⟩ := Error.ok_of_bind h
  obtain ⟨word, -, h⟩ := Error.ok_of_bind h
  obtain ⟨type, -, hcheck⟩ := Error.ok_of_bind h
  obtain ⟨rfl, hsound⟩ := of_check hcheck
  exact hsound

/-- The parameter of a description with every field. -/
def ofFieldsInOrder (type : AbstractType) (fields : Entries) : Parameter where
  name := Value.fieldOrNull "name" fields
  type := type
  isIn := Value.fieldOrNull "in" fields
  isOut := Value.fieldOrNull "out" fields
  position := Value.fieldOrNull "position" fields
  length := Value.fieldOrNull "length" fields
  precision := Value.fieldOrNull "precision" fields
  scale := Value.fieldOrNull "scale" fields
  nativeType := Value.fieldOrNull "native_type" fields

theorem exists_ofDocument {fields : Entries} (complete : IsComplete fields) :
    ∃ parameter : Parameter, ofDocument (.map fields) = .ok parameter ∧
      SameFields parameter.toDocument (.map fields) := by
  obtain ⟨hnames, ⟨type, htype⟩, hresult⟩ := complete
  have distinct : documentNames.Nodup := by decide
  let parameter := ofFieldsInOrder type fields
  have hsound : parameter.isSound = true := (isSound_iff parameter).2 hresult
  have hwritten : parameter.toDocument = .map (fieldsInOrder documentNames fields) := by
    show document [_, ("type", .text type.name), _, _, _, _, _, _, _] = _
    rw [← htype]
    rfl
  refine ⟨parameter, ?_, _, _, hwritten, rfl, hnames.perm distinct⟩
  -- it has the fields of what is written of the parameter, which is read as the parameter
  rw [← ofDocument_toDocument hsound, hwritten]
  exact ofDocument_congr fun name hname =>
    (hnames.get? distinct hname).trans (get?_fieldsInOrder hname).symm

end Parameter

/-! ### Routines -/

namespace Routine

/-- The fields of a description of an object. -/
def documentNames : List String := ["name", "parameters"]

theorem ofDocument_congr {fields others : Entries}
    (h : ∀ name ∈ documentNames,
      OrderedMap.get? (.text name) fields = OrderedMap.get? (.text name) others) :
    ofDocument (.map fields) = ofDocument (.map others) := by
  have hname := h "name" (by decide)
  have hparameters := h "parameters" (by decide)
  simp only [ofDocument, descriptionFields, Error.ok_bind, Value.field, fieldOr, hname,
    hparameters]

/-- A description with every field, in which every parameter has every field, of an object that may
be declared. -/
def IsComplete (v : Value) : Prop :=
  ∃ (fields : Entries) (parameters : List Entries), v = .map fields ∧
    HasFields documentNames fields ∧
    Value.fieldOrNull "parameters" fields = .list (parameters.map .map) ∧
    ∀ parameter ∈ parameters, Parameter.IsComplete parameter

/-- Two descriptions with the same fields in whatever order, in themselves and in every one of their
parameters. The parameters are in one order. -/
def SameDescription (v w : Value) : Prop :=
  ∃ name parameters others,
    SameFields v (document [("name", name), ("parameters", .list parameters)]) ∧
    SameFields w (document [("name", name), ("parameters", .list others)]) ∧
    List.Forall₂ SameFields parameters others

/-- Whatever is written has every field. -/
theorem isComplete_toDocument {routine : Routine} (sound : routine.IsSound) :
    IsComplete routine.toDocument := by
  let fields (parameter : Parameter) : Entries :=
    [(.text "name", parameter.name), (.text "type", .text parameter.type.name),
      (.text "in", parameter.isIn), (.text "out", parameter.isOut),
      (.text "position", parameter.position), (.text "length", parameter.length),
      (.text "precision", parameter.precision), (.text "scale", parameter.scale),
      (.text "native_type", parameter.nativeType)]
  have hdocuments : routine.parameters.map Parameter.toDocument =
      (routine.parameters.map fields).map .map := by
    rw [List.map_map]
    rfl
  refine ⟨_, routine.parameters.map fields, rfl, List.Perm.refl _, congrArg Value.list hdocuments,
    fun document hdocument => ?_⟩
  obtain ⟨parameter, hparameter, rfl⟩ := List.mem_map.1 hdocument
  exact ⟨List.Perm.refl _, ⟨parameter.type, rfl⟩,
    (Parameter.isSound_iff parameter).1 (sound parameter hparameter)⟩

/-- Whatever is read as an object may be declared: reading makes the same check as declaring. -/
theorem isSound_of_ofDocument {v : Value} {routine : Routine} (h : ofDocument v = .ok routine) :
    routine.IsSound := by
  obtain ⟨fields, -, h⟩ := Error.ok_of_bind h
  obtain ⟨name, -, h⟩ := Error.ok_of_bind h
  obtain ⟨documents, -, h⟩ := Error.ok_of_bind h
  obtain ⟨parameters, hread, h⟩ := Error.ok_of_bind h
  cases h
  intro parameter hparameter
  obtain ⟨document, -, hdocument⟩ := Error.mem_of_mapM hread hparameter
  exact Parameter.isSound_of_ofDocument hdocument

theorem exists_ofDocument {v : Value} (complete : IsComplete v) :
    ∃ routine : Routine, ofDocument v = .ok routine ∧ SameDescription routine.toDocument v := by
  obtain ⟨fields, documents, rfl, hnames, hdocuments, hcomplete⟩ := complete
  have distinct : documentNames.Nodup := by decide
  let name := Value.fieldOrNull "name" fields
  have hinOrder : Value.map (fieldsInOrder documentNames fields) =
      document [("name", name), ("parameters", .list (documents.map .map))] := by
    rw [← hdocuments]
    rfl
  obtain ⟨parameters, hread, hsame⟩ : ∃ parameters,
      (documents.map .map).mapM Parameter.ofDocument = .ok parameters ∧
        List.Forall₂ (fun d p => SameFields (Parameter.toDocument p) d) (documents.map .map)
          parameters := by
    refine Error.exists_mapM_related fun d hd => ?_
    obtain ⟨fields, hfields, rfl⟩ := List.mem_map.1 hd
    exact Parameter.exists_ofDocument (hcomplete fields hfields)
  refine ⟨{ name, parameters }, ?_, name, parameters.map Parameter.toDocument, documents.map .map,
    ⟨_, _, rfl, rfl, List.Perm.refl _⟩, ⟨_, _, rfl, rfl, ?_⟩, ?_⟩
  · have hcongr : ofDocument (.map fields) =
        ofDocument (.map (fieldsInOrder documentNames fields)) :=
      ofDocument_congr fun field hfield =>
        (hnames.get? distinct hfield).trans (get?_fieldsInOrder hfield).symm
    rw [hcongr, hinOrder]
    show ((documents.map .map).mapM Parameter.ofDocument >>= fun parameters =>
      Except.ok ({ name, parameters } : Routine)) = _
    rw [hread]
    rfl
  · have hperm := (hnames.perm distinct).symm
    rw [Value.map.inj hinOrder] at hperm
    exact hperm
  · exact List.forall₂_map_left_iff.2 hsame.flip

end Routine

/-! ### Descriptions in a cache -/

/-- A collection finds the routine whose description has been kept in its cache. -/
theorem Routines.cached?_set {routine : Routine} (sound : routine.IsSound) {cache : Cache}
    {key : String} {env : Environment} (keeps : cache.CanKeep key routine.toDocument env)
    (name : Value) (connection : Connection) :
    let stored := (cache.set key routine.toDocument).perform connection env
    stored.result = .ok () ∧
      ((cached? cache key name).perform stored.state stored.environment).result =
        .ok (some routine) := by
  intro stored
  obtain ⟨hok, hstate, hget⟩ := Cache.get_set keeps connection
  refine ⟨hok, ?_⟩
  show ((cached? cache key name).perform ((cache.set key routine.toDocument).perform connection
    env).state stored.environment).result = _
  rw [hstate]
  unfold cached?
  rw [Action.perform_bind, hget, Outcome.andThen_ok, if_pos (Routine.truthy_toDocument routine),
    Action.perform_bind, Action.perform_note, Outcome.andThen_ok,
    Routine.ofDocument_toDocument sound]
  rfl

namespace Routine

/-- A routine that may be declared is what its description is read as, a description with every
field is what is written of what it is read as, and a routine is found again in every cache that
keeps its description as it is. -/
theorem descriptions_faithful :
    (∀ routine : Routine, routine.IsSound → ofDocument routine.toDocument = .ok routine) ∧
    (∀ v, IsComplete v →
      ∃ routine : Routine, ofDocument v = .ok routine ∧ routine.IsSound ∧
        SameDescription routine.toDocument v) ∧
    ∀ (routine : Routine) (cache : Cache) (key : String) (env : Environment), routine.IsSound →
      cache.CanKeep key routine.toDocument env → ∀ (name : Value) (connection : Connection),
        let stored := (cache.set key routine.toDocument).perform connection env
        stored.result = .ok () ∧
          ((Routines.cached? cache key name).perform stored.state stored.environment).result =
            .ok (some routine) := by
  refine ⟨fun _ sound => ofDocument_toDocument sound, fun v complete => ?_,
    fun _ _ _ _ sound keeps => Routines.cached?_set sound keeps⟩
  obtain ⟨routine, hread, hsame⟩ := exists_ofDocument complete
  exact ⟨routine, hread, isSound_of_ofDocument hread, hsame⟩

/-- A function with one argument. -/
def soleFunction : Routine where
  name := .text "HR.PKG.CALC"
  parameters := [
    { name := .text ":result", type := .integer, isIn := .bool false, isOut := .bool true },
    { name := .text "P_NAME", type := .string, length := .int 30, position := .int 1 }]

theorem function_survives :
    soleFunction.IsSound ∧ ofDocument soleFunction.toDocument = .ok soleFunction ∧
      IsComplete soleFunction.toDocument ∧
      (∃ routine : Routine, ofDocument soleFunction.toDocument = .ok routine ∧
        routine.IsSound ∧ SameDescription routine.toDocument soleFunction.toDocument) ∧
      (let env : Environment := { memories := [[]] }
       let cache := Cache.memory 0
       let stored :=
         (cache.set "k" soleFunction.toDocument).perform Routines.soleConnection env
       cache.CanKeep "k" soleFunction.toDocument env ∧
         ((Routines.cached? cache "k" .null).perform stored.state stored.environment).result =
           .ok (some soleFunction)) ∧
      let routine : Routine := { name := .text "P" }
      let cache := Cache.files "meta"
      let stored := (cache.set "k" routine.toDocument).perform Routines.soleConnection {}
      cache.CanKeep "k" routine.toDocument {} ∧
        ((Routines.cached? cache "k" .null).perform stored.state stored.environment).result =
          .ok (some routine) := by
  have hall : soleFunction.parameters.all (·.isSound) = true := by decide +kernel
  have sound : soleFunction.IsSound := List.all_eq_true.1 hall
  have hcomplete := isComplete_toDocument sound
  obtain ⟨hread, hwritten, hfound⟩ := descriptions_faithful
  refine ⟨sound, hread _ sound, hcomplete, hwritten _ hcomplete, ?_, ?_⟩
  · have keeps : (Cache.memory 0).CanKeep "k" soleFunction.toDocument { memories := [[]] } :=
      ⟨[], rfl⟩
    exact ⟨keeps, (hfound _ _ _ _ sound keeps .null Routines.soleConnection).2⟩
  · have hsound : IsSound { name := .text "P" } := fun _ hparameter => nomatch hparameter
    have fits : Cache.Fits "meta" "k" := by decide +kernel
    have keeps : (Cache.files "meta").CanKeep "k" (toDocument { name := .text "P" }) {} :=
      ⟨fits, Routines.kept_soleDocument⟩
    exact ⟨keeps, (hfound _ _ _ _ hsound keeps .null Routines.soleConnection).2⟩

end Routine

end OracleCatalog
