import OracleCatalog.Proofs.Catalog.Entries
import OracleCatalog.Proofs.Text.Capitals

/-!
# Keys of descriptions

The key of a description is the owner and the name in small letters, with an underscore between
them, which both of them may have as well. Keys for two owners are apart exactly when neither of
them is the other one and more behind an underscore, and so are the names of their files for what is
left of the owners in them. Where files are apart, describing routines of one owner never touches
what is stored for the other.
-/

namespace OracleCatalog

open OracleCatalog.Action (Spares anyAnswer)

/-! ### Names of files -/

/-- What is left of a key in the name of its file. -/
def fileStem (key : String) : String :=
  String.ofList (key.toList.map fun c => if isFileChar c then c else '_')

theorem fileName_eq_iff (key other : String) :
    fileName key = fileName other ↔ fileStem key = fileStem other :=
  ⟨fun h => String.toList_injective (List.append_cancel_right
    ((String.toList_append).symm.trans ((congrArg String.toList h).trans String.toList_append))),
   fun h => congrArg (· ++ fileEnding) h⟩

theorem toList_fileStem (key : String) :
    (fileStem key).toList = key.toList.map fun c => if isFileChar c then c else '_' :=
  String.toList_ofList

theorem fileStem_underscore (s t : String) :
    fileStem (s ++ "_" ++ t) = fileStem s ++ "_" ++ fileStem t := by
  refine String.toList_injective ?_
  rw [Text.toList_underscore, toList_fileStem, toList_fileStem, toList_fileStem,
    Text.toList_underscore, List.map_append, List.map_cons]
  rfl

namespace Routines

/-! ### Keys -/

/-- Whose routines are described: those of the schema or else of the user. -/
def owner (settings : Settings) : Value :=
  settings.schema.orElse (settings.user.orElse (.text "default"))

def foldedOwner (settings : Settings) : String := Text.lower (owner settings).toText

theorem cacheKey_text (settings : Settings) (name : String) :
    cacheKey settings (.text name) = foldedOwner settings ++ "_" ++ Text.lower name :=
  Text.lower_underscore _ _

/-- Where one owner is another one and more behind an underscore, each of its routines has the key
of a routine of the other. -/
theorem cacheKey_of_continues {settings settings' : Settings} {rest : String}
    (h : foldedOwner settings' = foldedOwner settings ++ "_" ++ rest) (name : String) :
    cacheKey settings (.text (rest ++ "_" ++ name)) = cacheKey settings' (.text name) := by
  have hsmall : Text.lower rest = rest := by
    refine Text.lower_of_small fun c hc => ?_
    have howner : c ∈ (foldedOwner settings').toList := by
      rw [h, Text.toList_underscore]
      exact List.mem_append_right _ (List.mem_cons_of_mem _ hc)
    exact Text.lowerChar_of_mem_lower howner
  rw [cacheKey_text, cacheKey_text, Text.lower_underscore, hsmall, h]
  simp only [String.append_assoc]

theorem keys_apart_iff (settings settings' : Settings) :
    (∀ name name' : String, cacheKey settings (.text name) = cacheKey settings' (.text name') →
        foldedOwner settings = foldedOwner settings' ∧ Text.lower name = Text.lower name') ↔
      ¬Text.Continues (foldedOwner settings') (foldedOwner settings) ∧
        ¬Text.Continues (foldedOwner settings) (foldedOwner settings') := by
  constructor
  · intro apart
    refine ⟨?_, ?_⟩
    · rintro ⟨rest, hrest⟩
      obtain ⟨howner, -⟩ := apart _ "" (cacheKey_of_continues hrest "")
      exact Text.not_continues_self _ ⟨rest, howner.trans hrest⟩
    · rintro ⟨rest, hrest⟩
      obtain ⟨howner, -⟩ := apart "" _ (cacheKey_of_continues hrest "").symm
      exact Text.not_continues_self _ ⟨rest, howner.symm.trans hrest⟩
  · rintro ⟨hlonger, hshorter⟩ name name' hkey
    rw [cacheKey_text, cacheKey_text] at hkey
    rcases Text.underscore_cases hkey with hsame | ⟨rest, howner, -⟩ | ⟨rest, howner, -⟩
    · exact hsame
    · exact absurd ⟨rest, howner⟩ hlonger
    · exact absurd ⟨rest, howner⟩ hshorter

/-! ### Files -/

def ownerStem (settings : Settings) : String := fileStem (foldedOwner settings)

theorem fileStem_cacheKey (settings : Settings) (name : String) :
    fileStem (cacheKey settings (.text name)) =
      ownerStem settings ++ "_" ++ fileStem (Text.lower name) := by
  rw [cacheKey_text, fileStem_underscore, ownerStem]

/-- The same for what is left of the owners: there is a word that leads to the files of the other
owner. -/
theorem fileName_of_continues {settings settings' : Settings}
    (h : Text.Continues (ownerStem settings') (ownerStem settings)) :
    ∃ word : String, ∀ name, fileName (cacheKey settings (.text (word ++ "_" ++ name))) =
      fileName (cacheKey settings' (.text name)) := by
  obtain ⟨rest, hrest⟩ := h
  have hchars := congrArg String.toList hrest
  rw [ownerStem, toList_fileStem, Text.toList_underscore] at hchars
  obtain ⟨front, back, howner, -, hback⟩ := List.map_eq_append_iff.1 hchars
  obtain ⟨c, word, rfl, -, hword⟩ := List.map_eq_cons_iff.1 hback
  have hsmall : Text.lower (String.ofList word) = String.ofList word := by
    refine Text.lower_of_small fun d hd => ?_
    rw [String.toList_ofList] at hd
    have hmem : d ∈ (foldedOwner settings').toList := by
      rw [howner]
      exact List.mem_append_right _ (List.mem_cons_of_mem _ hd)
    exact Text.lowerChar_of_mem_lower hmem
  have hstem : fileStem (String.ofList word) = rest := by
    refine String.toList_injective ?_
    rw [toList_fileStem, String.toList_ofList, hword]
  refine ⟨String.ofList word, fun name => (fileName_eq_iff _ _).2 ?_⟩
  rw [fileStem_cacheKey, fileStem_cacheKey, Text.lower_underscore, hsmall,
    fileStem_underscore, hstem, hrest]
  simp only [String.append_assoc]

theorem files_apart_iff (settings settings' : Settings) :
    (∀ name name' : String, fileName (cacheKey settings (.text name)) ≠
        fileName (cacheKey settings' (.text name'))) ↔
      ownerStem settings ≠ ownerStem settings' ∧
        ¬Text.Continues (ownerStem settings') (ownerStem settings) ∧
        ¬Text.Continues (ownerStem settings) (ownerStem settings') := by
  constructor
  · intro apart
    refine ⟨fun hsame => apart "" "" ?_, fun h => ?_, fun h => ?_⟩
    · rw [fileName_eq_iff, fileStem_cacheKey, fileStem_cacheKey, hsame]
    · obtain ⟨word, hword⟩ := fileName_of_continues h
      exact apart _ "" (hword "")
    · obtain ⟨word, hword⟩ := fileName_of_continues h
      exact apart "" _ (hword "").symm
  · rintro ⟨hdifferent, hlonger, hshorter⟩ name name' hfile
    rw [fileName_eq_iff, fileStem_cacheKey, fileStem_cacheKey] at hfile
    rcases Text.underscore_cases hfile with ⟨hsame, -⟩ | ⟨rest, howner, -⟩ | ⟨rest, howner, -⟩
    · exact hdifferent hsame
    · exact hlonger ⟨rest, howner⟩
    · exact hshorter ⟨rest, howner⟩

/-! ### What describing stores -/

/-- Wherever it starts, the action leaves a file as it is, or missing. -/
def LeavesFile {α : Type} (path file : String) (action : Action Connection α) : Prop :=
  ∀ connection env,
    (action.perform connection env).environment.file? path file = env.file? path file

theorem leavesFile_of_spares {α : Type} {P : α → Prop} {action : Action Connection α}
    (h : Spares Connection.dialect P action) (path file : String) :
    LeavesFile path file action := by
  intro connection env
  exact Environment.file?_of_stores (h connection env).2.1 path file

theorem leavesFile_bind {α β : Type} {path file : String} {action : Action Connection α}
    {next : α → Action Connection β} (h : LeavesFile path file action)
    (hnext : ∀ a, LeavesFile path file (next a)) : LeavesFile path file (action >>= next) := by
  intro connection env
  rw [Action.perform_bind, Outcome.andThen]
  cases (action.perform connection env).result with
  | error e => exact h connection env
  | ok a => exact (hnext a _ _).trans (h connection env)

theorem spares_cached? (cache : Cache) (key : String) (name : Value) :
    Spares Connection.dialect anyAnswer (cached? cache key name) := by
  refine Action.spares_bind (Cache.spares_get key cache) fun found _ => ?_
  split
  · exact Action.spares_bind (Action.spares_note _ _ _) fun _ _ =>
      Action.spares_bind (P := anyAnswer) (Action.spares_ofExcept fun _ _ => trivial) fun _ _ =>
        Action.spares_pure trivial
  · exact Action.spares_pure trivial

/-- Describing a routine changes no file but that of its key. -/
theorem file?_describe {routines : Routines} {path : String}
    (hcache : routines.cache = some (.files path)) (name : Value) (fresh : Bool)
    (connection : Connection) (env : Environment) {file : String}
    (hfile : file ≠ fileName (cacheKey connection.settings name)) :
    ((routines.describe name fresh).perform connection env).environment.file? path file =
      env.file? path file := by
  rw [describe_perform hcache, ← Action.perform_bind]
  have hrecalled : Spares Connection.dialect anyAnswer (if fresh then pure none
      else cached? (.files path) (cacheKey connection.settings name) name) := by
    cases fresh with
    | true => exact Action.spares_pure trivial
    | false => exact spares_cached? _ _ _
  refine leavesFile_bind (leavesFile_of_spares hrecalled path file) ?_ connection env
  rintro (_ | routine)
  · refine leavesFile_bind (leavesFile_of_spares (routines.spares_describeFresh name) path file) ?_
    intro routine
    exact leavesFile_bind (fun connection env => Cache.file?_set hfile _ connection env)
      fun _ _ _ => rfl
  · exact fun _ _ => rfl

/-- Where two names have one file, the description of the one that was made from the catalog is what
the other is answered with, and nothing is asked for it. -/
theorem describe_shared {routines routines' : Routines} {path : String} {name name' : Value}
    {connection connection' : Connection} {env : Environment} {routine : Routine}
    (hcache : routines.cache = some (.files path)) (hcache' : routines'.cache = some (.files path))
    (hsame : fileName (cacheKey connection.settings name) =
      fileName (cacheKey connection'.settings name'))
    (fits : Cache.Fits path (cacheKey connection.settings name))
    (fits' : Cache.Fits path (cacheKey connection'.settings name'))
    (hplain : ((routines'.describeFresh name').perform connection' env).result = .ok routine)
    (kept : Cache.Kept routine.toDocument) :
    let before := ((routines'.describe name' true).perform connection' env).environment.nextStep
    let o := (routines.describe name false).perform connection before
    o.result = .ok routine ∧ before.StaysIn o.environment := by
  obtain ⟨w, hw, hread⟩ := kept
  obtain ⟨-, -, hsound⟩ := routines'.spares_describeFresh name' connection' env
  have hwritten : Entry.ofText (Yaml.print w) = .written routine :=
    Entry.ofText_of_ofDocument hread (Routine.ofDocument_toDocument (hsound routine hplain))
  have hfresh : (routines'.describe name' true).perform connection' env =
      (routines'.describeAndKeep (.files path) (cacheKey connection'.settings name') name').perform
        connection' env := describe_perform hcache' name' true connection' env
  obtain ⟨-, hfile⟩ := (renews_describeAndKeep fits').overwritten routine w hplain hw
  rw [← hfresh, ← hsame] at hfile
  have hfile' : ((routines'.describe name' true).perform connection'
      env).environment.nextStep.file? path _ = some (Yaml.print w) := hfile
  have htext := describe_text hcache fits hfile'
  rw [hwritten] at htext
  exact htext

/-! ### Collections for two owners -/

/-- Keys for two owners are apart exactly when neither owner is the other one and more behind an
underscore, and their files are apart exactly when the same holds for what is left of the owners and
this is different. Then nothing that is described for one owner changes what is stored for the
other. -/
theorem descriptions_apart_iff (settings settings' : Settings) :
    ((∀ name name' : String, cacheKey settings (.text name) = cacheKey settings' (.text name') →
        foldedOwner settings = foldedOwner settings' ∧ Text.lower name = Text.lower name') ↔
      ¬Text.Continues (foldedOwner settings') (foldedOwner settings) ∧
        ¬Text.Continues (foldedOwner settings) (foldedOwner settings')) ∧
    ((∀ name name' : String, fileName (cacheKey settings (.text name)) ≠
        fileName (cacheKey settings' (.text name'))) ↔
      ownerStem settings ≠ ownerStem settings' ∧
        ¬Text.Continues (ownerStem settings') (ownerStem settings) ∧
        ¬Text.Continues (ownerStem settings) (ownerStem settings')) ∧
    ∀ (routines : Routines) (path name name' : String) (fresh : Bool) (connection : Connection)
      (env : Environment), routines.cache = some (.files path) → connection.settings = settings' →
      fileName (cacheKey settings (.text name)) ≠ fileName (cacheKey settings' (.text name')) →
        ((routines.describe (.text name') fresh).perform connection env).environment.file? path
            (fileName (cacheKey settings (.text name))) =
          env.file? path (fileName (cacheKey settings (.text name))) := by
  refine ⟨keys_apart_iff settings settings', files_apart_iff settings settings', ?_⟩
  rintro routines path name name' fresh connection env hcache rfl hfile
  exact file?_describe hcache _ fresh connection env hfile

theorem descriptions_apart_hr_scott :
    ∀ name name' : String, fileName (cacheKey { schema := .text "HR" } (.text name)) ≠
      fileName (cacheKey { schema := .text "SCOTT" } (.text name')) :=
  (descriptions_apart_iff { schema := .text "HR" } { schema := .text "SCOTT" }).2.1.2
    ⟨by decide +kernel, by decide +kernel, by decide +kernel⟩

/-- A description without parameters is read. -/
theorem read_soleDocument : Yaml.read "name: P\nparameters: []\n" =
    .ok (Routine.toDocument { name := .text "P" }) := by
  let tokens : List Yaml.Token := [
    .mapStart, .key, .scalar true "name", .value, .scalar true "P",
    .key, .scalar true "parameters", .value, .listOpen, .listClose, .blockEnd]
  let entries : Yaml.NodeEntries :=
    [(.scalar .text "name", .scalar .text "P"), (.scalar .text "parameters", .list .list [])]
  have htokens : Yaml.Token.ofChars (Yaml.lineEnds "name: P\nparameters: []\n".toList) = tokens :=
    rfl
  have hallowed : (Yaml.lineEnds "name: P\nparameters: []\n".toList).all Yaml.isAllowed = true := by
    decide +kernel
  have hnode : Yaml.firstNode tokens = .ok (.map .map entries, []) := rfl
  -- merge keys are looked for by a recursion that does not compute by itself
  have hentries : Yaml.Node.entriesOf (.map .map entries) = .ok entries := by
    simp [Yaml.Node.entriesOf, entries, Yaml.Node.flattened, Yaml.Node.partedEntries,
      Yaml.Node.kind, Yaml.Node.asText, Yaml.orUnreadable]
  have hinside : Yaml.Node.lookInside [] (.map .map entries) = .ok [.list .list []] := by
    show (Yaml.Node.entriesOf (.map .map entries) >>= fun entries =>
      entries.foldlM (fun later entry => do
        Yaml.Node.look (← Yaml.Node.lookKey later entry.1) entry.2) []) = _
    rw [hentries]
    rfl
  have hthrough : Yaml.Node.lookThrough 2 [.map .map entries] = .ok () := by
    rw [Yaml.Node.lookThrough]
    simp only [List.isEmpty_cons, Bool.false_eq_true, ↓reduceIte, List.foldlM_cons, hinside]
    rfl
  have hbuild : Yaml.Node.build 2 (.map .map entries) =
      .ok (Routine.toDocument { name := .text "P" }) := by
    show (Value.map <$> (Yaml.Node.entriesOf (.map .map entries) >>= fun entries =>
      entries.foldlM (fun map entry => do
        return OrderedMap.put (← Yaml.Node.build 1 entry.1) (← Yaml.Node.build 1 entry.2) map)
          [])) = _
    rw [hentries]
    rfl
  have hvalue : Yaml.Node.value (.map .map entries) =
      .ok (Routine.toDocument { name := .text "P" }) := by
    show (Yaml.Node.lookThrough 2 [.map .map entries] >>= fun _ =>
      Yaml.Node.build 2 (.map .map entries)) = _
    rw [hthrough, hbuild]
    rfl
  unfold Yaml.read
  dsimp only
  rw [hallowed, htokens, hnode]
  exact hvalue

theorem kept_soleDocument : Cache.Kept (Routine.toDocument { name := .text "P" }) :=
  ⟨_, storable_soleDocument, print_soleDocument ▸ read_soleDocument⟩

/-- A routine of one owner that is described after one of another owner, over one directory. -/
theorem descriptions_shared :
    foldedOwner { schema := .text "HR" } ≠ foldedOwner { schema := .text "HR_APP" } ∧
      Text.lower "APP_P" ≠ Text.lower "P" ∧
      cacheKey { schema := .text "HR" } (.text "APP_P") =
        cacheKey { schema := .text "HR_APP" } (.text "P") ∧
      let before := ((describe { cache := some (.files "meta") } (.text "P") true).perform
        { driver := { dialect := { settings := { schema := .text "HR_APP" } } }, link := some 0 }
        { answering := .inTurn [{ rows := [[.text "P"]] }] }).environment.nextStep
      ((describe { cache := some (.files "meta") } (.text "APP_P") false).perform
        { driver := { dialect := { settings := { schema := .text "HR" } } }, link := some 1 }
        before).result = .ok { name := .text "P" } := by
  refine ⟨by decide +kernel, by decide +kernel, by decide +kernel, ?_⟩
  refine (describe_shared rfl rfl ?_ ?_ ?_ ?_ kept_soleDocument).1
  · decide +kernel
  · decide +kernel
  · decide +kernel
  · rfl

end Routines

end OracleCatalog
