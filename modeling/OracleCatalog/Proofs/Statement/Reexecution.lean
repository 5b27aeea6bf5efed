import OracleCatalog.Proofs.Name
import OracleCatalog.Proofs.Session.Runs
import OracleCatalog.Proofs.Statement.Positions
import OracleCatalog.Proofs.Statement.Sending

/-!
# Executing again

An execution with parameters of its own starts afresh: whatever a statement has been asked before,
it sends these parameters and nothing else, and positions are counted from them. Lists that are
bound behind it are sent by the next execution without parameters, in their order.
-/

namespace OracleCatalog

open OracleCatalog.Action (Keeps)

/-! ### What is sent -/

/-- What is handed to the cursor: values in a list or, where there are none, under their names. -/
def handedOver (named : Entries) : List Value → Value
  | [] => .map named
  | values => .list values

theorem sent_enumerated (named : Entries) (values : List Value) :
    Bindings.sent { named, positional := enumerated 0 values } = handedOver named values := by
  cases values with
  | nil => rfl
  | cons v vs =>
    show Value.list (OrderedMap.values ((enumerated 0 (v :: vs)).mergeSort Bindings.inOrder)) = _
    rw [sorted_enumerated, values_enumerated]
    rfl

/-! ### Names on the cursor -/

/-- A name without leading colons, as the cursor takes it. -/
def bareKey : Value → Value
  | .text s => .text (bareName s)
  | v => v

/-- On the cursor, names go to the values under names, without their colons. -/
theorem Bindings.bindAll_names {entries : Entries} (h : OrderedMap.KeysIn Value.IsText entries)
    (bindings : Bindings) :
    bindings.bindAll entries =
      .ok { bindings with named := bindings.named.update (entries.rename bareKey id) } := by
  induction entries generalizing bindings with
  | nil => rfl
  | cons entry rest ih =>
    obtain ⟨placeholder, value⟩ := entry
    obtain ⟨⟨s, rfl⟩, hrest⟩ := OrderedMap.keysIn_cons.1 h
    rw [bindAll_cons (bindings.bind_text s value), ih hrest]
    rfl

theorem keysIn_rename_bareKey {entries : Entries} (h : OrderedMap.KeysIn Value.IsText entries) :
    OrderedMap.KeysIn Value.IsText (entries.rename bareKey id) := by
  intro k hk
  rw [OrderedMap.keys_rename] at hk
  obtain ⟨key, hkey, rfl⟩ := List.mem_map.1 hk
  obtain ⟨s, rfl⟩ := h key hkey
  exact ⟨_, rfl⟩

namespace PreparedStatement

variable {origin : PlainStatement} {parameters types : Value} {named entries : Entries}
  {bound values : List Value} {bindings : Bindings} {offset : Nat} {s : PreparedStatement}

/-! ### Calls -/

/-- A list is bound behind the values that are bound already. -/
theorem Holds.exists_bind_list
    (h : s.Holds { named, positional := enumerated 0 bound } bound.length)
    (hlists : parameters.Lists values)
    (hread : ∀ value ∈ listed 0 values, readUnder types value.entry = .ok value.taken)
    (env : Environment) :
    ∃ reached, (bind parameters types).perform s env =
        { result := .ok (), state := reached, environment := env } ∧
      reached.Holds { named, positional := enumerated 0 (bound ++ values) }
        (bound ++ values).length := by
  by_cases hnil : values = []
  · have hfalsy : parameters.truthy = false :=
      Bool.eq_false_iff.2 fun htruthy => hlists.truthy_iff.1 htruthy hnil
    refine ⟨s, bind_perform_of_not_truthy hfalsy types s env, ?_⟩
    rw [hnil, List.append_nil]
    exact h
  · have hplacements : parameters.placements = .ok ((listed 0 values).map Placed.entry) := by
      rw [map_entry_listed, hlists.placements_eq]
    have hlisted : listed 0 values ≠ [] := by
      intro heq
      have hlength := length_listed 0 values
      rw [heq] at hlength
      exact hnil (List.length_eq_zero_iff.1 hlength.symm)
    obtain ⟨reached, hperform, -, hholds⟩ := h.exists_bind_perform (hlists.truthy_iff.2 hnil)
      hplacements hlisted hread env
    rw [map_behind_listed, Nat.zero_add, update_enumerated, length_listed,
      ← List.length_append] at hholds
    exact ⟨reached, hperform, hholds⟩

theorem placed_of_name (h : s.placeholders = []) (name : String) (value : Value) :
    s.placed false .null (.text name, value) = .ok (.text name, value) := by
  have hrenamed : s.renamed (.text name) = .ok (.text name) := by
    unfold renamed
    rw [h]
    rfl
  show s.placedUnder (.text name) value .null = _
  unfold placedUnder
  rw [hrenamed]
  rfl

theorem mapM_placed_of_names (h : s.placeholders = [])
    (htexts : OrderedMap.KeysIn Value.IsText entries) :
    entries.mapM (s.placed false .null) = .ok entries := by
  induction entries with
  | nil => rfl
  | cons entry rest ih =>
    obtain ⟨placeholder, value⟩ := entry
    obtain ⟨⟨name, rfl⟩, hrest⟩ := OrderedMap.keysIn_cons.1 htexts
    exact Error.mapM_cons_ok (placed_of_name h name value) (ih hrest)

/-- Names that stay apart without their colons are all bound where nothing is bound. -/
theorem Holds.exists_bind_names (h : s.Holds {} 0) (nonempty : entries ≠ [])
    (htexts : OrderedMap.KeysIn Value.IsText entries)
    (distinct : ((OrderedMap.keys entries).map bareKey).Nodup) (env : Environment) :
    ∃ reached, (bind (.map entries) .null).perform s env =
        { result := .ok (), state := reached, environment := env } ∧
      reached.Holds { named := entries.rename bareKey id, positional := enumerated 0 [] } 0 := by
  have hnamed : OrderedMap.update [] (entries.rename bareKey id) = entries.rename bareKey id := by
    rw [← OrderedMap.keys_rename (g := id)] at distinct
    exact (OrderedMap.ofEntries_eq_self_iff Value.lawfulOn_isText
      (keysIn_rename_bareKey htexts)).2 distinct
  have hbound := Bindings.bindAll_names htexts s.inner.base.bindings
  have hvalues := mapM_placed_of_names h.placeholders_eq htexts
  obtain ⟨⟨placeholder, value⟩, rest, rfl⟩ := List.exists_cons_of_ne_nil nonempty
  obtain ⟨⟨name, rfl⟩, -⟩ := OrderedMap.keysIn_cons.1 htexts
  refine ⟨_, bind_perform_names rfl rfl rfl hvalues hbound env, h.placeholders_eq, h.offset_eq,
    ?_⟩
  rw [bindings_holding, h.bindings_eq]
  exact congrArg (fun named => ({ named } : Bindings)) hnamed

/-! ### Executions -/

theorem Holds.send (h : s.Holds bindings offset) (env : Environment) :
    (PreparedStatement.send.perform s env).state.Holds bindings offset :=
  ⟨h.placeholders_eq, h.offset_eq, InnerStatement.keeps_execute s.inner env h.bindings_eq⟩

theorem clearBindings_holds (h : s.placeholders = []) (env : Environment) :
    ∃ cleared, clearBindings.perform s env =
        { result := .ok (), state := cleared, environment := env } ∧ cleared.Holds {} 0 := by
  refine ⟨_, rfl, h, rfl, ?_⟩
  show (s.inner.withBase { s.inner.base with bindings := {} }).base.bindings = {}
  rw [InnerStatement.base_withBase]

theorem placeholders_prepareBuffer (s : PreparedStatement) (env : Environment) :
    (prepareBuffer.perform s env).state.placeholders = s.placeholders :=
  (keeps_prepareBuffer (R := fun _ _ => True) s env ⟨rfl, trivial⟩).placeholders_eq

/-- An execution with parameters sends what they bind where nothing is bound. -/
theorem execute_rebinds (hwhole : Whole origin s) (hplaceholders : s.placeholders = [])
    (htruthy : parameters.truthy = true)
    (hbind : ∀ t env, t.Holds {} 0 → ∃ reached, (bind parameters .null).perform t env =
        { result := .ok (), state := reached, environment := env } ∧ reached.Holds bindings offset)
    (env : Environment) :
    ((execute parameters).perform s env).environment.events =
        env.events ++ [.execute origin.cursor.number origin.sql bindings.sent] ∧
      ((execute parameters).perform s env).state.Holds bindings offset := by
  obtain ⟨held, hs⟩ := hwhole
  obtain ⟨hprepared, hfresh⟩ := fresh_of_prepareBuffer hs env
  obtain ⟨hquiet, -⟩ := quiet_prepareBuffer s env
  have hkept := (placeholders_prepareBuffer s env).trans hplaceholders
  rw [execute_perform parameters hprepared]
  generalize prepareBuffer.perform s env = o at *
  obtain ⟨cleared, hcleared, hempty⟩ := clearBindings_holds hkept o.environment
  obtain ⟨reached, hreached, hholds⟩ := hbind cleared o.environment hempty
  have hrebind : (rebind parameters).perform o.state o.environment =
      { result := .ok (), state := reached, environment := o.environment } := by
    unfold rebind
    rw [htruthy, if_pos rfl, Action.perform_bind, hcleared, Outcome.andThen_ok, hreached]
  have hlater := ignoresBindings_fresh.binding.rebind parameters o.state o.environment hfresh
  rw [hrebind] at hlater
  rw [hrebind, Outcome.andThen_ok]
  refine ⟨?_, hholds.send o.environment⟩
  rw [send_sends, hholds.bindings_eq, hlater.wrapped.later.number_eq, hlater.wrapped.later.sql_eq,
    ← hquiet]

/-! ### Runs -/

/-- A statement on its cursor that renames nothing. -/
structure Ready (origin : PlainStatement) (s : PreparedStatement) : Prop where
  whole : Whole origin s
  placeholders_eq : s.placeholders = []

theorem steady_placeholders (placeholders : Entries) : Steady (·.placeholders = placeholders) where
  ignores := ⟨fun h _ _ => h, fun h _ => h⟩
  fetch := fun _ _ _ h => h
  fetchAll := fun _ _ _ h => h
  close := fun _ _ h => h

theorem keeps_placeholders_answer (placeholders : Entries) (request : Request) :
    Keeps (·.placeholders = placeholders) (answer request) := by
  have steady := steady_placeholders placeholders
  have hprepare : Keeps (·.placeholders = placeholders) prepareBuffer :=
    fun s env hs => (placeholders_prepareBuffer s env).trans hs
  cases request with
  | execute parameters =>
    exact Action.keeps_returning
      (steady.ignores.binding.execute hprepare (fun _ _ h => h) parameters) _
  | buffer wanted => exact Action.keeps_returning (Action.keeps_change fun _ h => h) .null
  | _ => exact steady.keeps_answer (by simp) (by simp)

theorem keeps_ready (requests : List Request) :
    ∀ action ∈ requests.map answer, Keeps (Ready origin) action := by
  intro action haction s env hs
  obtain ⟨request, -, rfl⟩ := List.mem_map.1 haction
  exact ⟨keeps_whole_answer request s env hs.whole,
    keeps_placeholders_answer [] request s env hs.placeholders_eq⟩

/-- What a statement executes again with: a list of values, or values under names. -/
inductive Renews : Value → Entries → List Value → Prop where
  | list {parameters : Value} {values : List Value} (lists : parameters.Lists values)
      (nonempty : values ≠ []) : Renews parameters [] values
  | names {entries : Entries} (nonempty : entries ≠ [])
      (texts : OrderedMap.KeysIn Value.IsText entries)
      (distinct : ((OrderedMap.keys entries).map bareKey).Nodup) :
      Renews (.map entries) (entries.rename bareKey id) []

/-- An execution with parameters sends these alone, and leaves these alone bound. -/
theorem Ready.execute_renews (h : Ready origin s) (hrenews : Renews parameters named values)
    (env : Environment) :
    ((answer (.execute parameters)).perform s env).environment.events = env.events ++
        [.execute origin.cursor.number origin.sql (handedOver named values)] ∧
      ((answer (.execute parameters)).perform s env).state.Holds
        { named, positional := enumerated 0 values } values.length := by
  obtain ⟨hstate, henvironment⟩ :=
    Action.returning_keeps (.bool true) (execute parameters) s env
  show ((((execute parameters).returning (.bool true)).perform s env).environment.events = _) ∧
    (((execute parameters).returning (.bool true)).perform s env).state.Holds _ _
  rw [hstate, henvironment, ← sent_enumerated]
  cases hrenews with
  | list lists nonempty =>
    refine execute_rebinds h.whole h.placeholders_eq (lists.truthy_iff.2 nonempty)
      (fun t env ht => ?_) env
    have hempty : t.Holds { named := [], positional := enumerated 0 [] } ([] : List Value).length :=
      ht
    exact hempty.exists_bind_list lists (fun _ => readUnder_null_of_mem_listed) env
  | @names entries nonempty texts distinct =>
    have htruthy : (Value.map entries).truthy = true := by
      obtain ⟨entry, rest, rfl⟩ := List.exists_cons_of_ne_nil nonempty
      rfl
    exact execute_rebinds h.whole h.placeholders_eq htruthy
      (fun t env ht => ht.exists_bind_names nonempty texts distinct env) env

/-- An execution without parameters sends what is bound. -/
theorem Ready.execute_sends (h : Ready origin s) (hholds : s.Holds bindings offset)
    (env : Environment) :
    ((answer (.execute .null)).perform s env).environment.events = env.events ++
      [.execute origin.cursor.number origin.sql bindings.sent] := by
  obtain ⟨held, hwrapped⟩ := h.whole
  obtain ⟨-, henvironment⟩ := Action.returning_keeps (.bool true) (execute .null) s env
  obtain ⟨hevents, -⟩ := execute_null_sends s env
  show (((execute .null).returning (.bool true)).perform s env).environment.events = _
  rw [henvironment, hevents, hholds.bindings_eq, hwrapped.later.number_eq, hwrapped.later.sql_eq]

/-- Calls with lists, of which their types leave all values as they are; these are the values. -/
inductive AppendsLists : List Request → List Value → Prop where
  | nil : AppendsLists [] []
  | cons {parameters types : Value} {values others : List Value} {requests : List Request}
      (lists : parameters.Lists values)
      (read : ∀ value ∈ listed 0 values, readUnder types value.entry = .ok value.taken)
      (rest : AppendsLists requests others) :
      AppendsLists (.bind parameters types :: requests) (values ++ others)

/-- Lists are bound one behind the other. -/
theorem Holds.appends {requests : List Request} {more : List Value}
    (happends : AppendsLists requests more)
    (h : s.Holds { named, positional := enumerated 0 bound } bound.length) (env : Environment) :
    (Action.ending (requests.map answer) s env).1.Holds
      { named, positional := enumerated 0 (bound ++ more) } (bound ++ more).length := by
  induction happends generalizing s bound env with
  | nil =>
    rw [List.append_nil]
    exact h
  | @cons parameters types values others requests lists read rest ih =>
    obtain ⟨reached, hperform, hholds⟩ := h.exists_bind_list lists read env.nextStep
    obtain ⟨hstate, -⟩ := Action.returning_keeps .null (bind parameters types) s env.nextStep
    rw [hperform] at hstate
    have hstep : ((answer (.bind parameters types)).perform s env.nextStep).state = reached :=
      hstate
    rw [← List.append_assoc, List.map_cons, Action.ending, hstep]
    exact ih hholds _

/-- Histories that leave these names and these values bound: none at all, and those that end with an
execution that sends them. -/
inductive Leaves : List Request → Entries → List Value → Prop where
  | fresh : Leaves [] [] []
  | executed {earlier : List Request} {parameters : Value} {named : Entries} {values : List Value}
      (renews : Renews parameters named values) :
      Leaves (earlier ++ [.execute parameters]) named values

section Runs

variable {cursor : Cursor} {sql : String} {buffering : Value} {ownText : Option String}

theorem ready_ending (requests : List Request) (env : Environment) :
    Ready { cursor, sql } (Action.ending (requests.map answer)
      { inner := .plain { cursor, sql }, buffering, placeholders := [], ownText } env).1 :=
  Action.keeps_ending (keeps_ready requests) ⟨whole_start, rfl⟩ env

theorem Leaves.holds {earlier : List Request} (h : Leaves earlier named values)
    (env : Environment) :
    (Action.ending (earlier.map answer)
      { inner := .plain { cursor, sql }, buffering, placeholders := [], ownText } env).1.Holds
        { named, positional := enumerated 0 values } values.length := by
  cases h with
  | fresh => exact ⟨rfl, rfl, rfl⟩
  | @executed earlier parameters _ _ renews =>
    rw [List.map_append, Action.ending_append]
    obtain ⟨-, hholds⟩ := (ready_ending earlier env).execute_renews renews _
    exact hholds

theorem Leaves.appended {earlier requests : List Request} {more : List Value}
    (hleaves : Leaves earlier named values) (happends : AppendsLists requests more)
    (env : Environment) :
    (Action.ending ((earlier ++ requests).map answer)
      { inner := .plain { cursor, sql }, buffering, placeholders := [], ownText } env).1.Holds
        { named, positional := enumerated 0 (values ++ more) } (values ++ more).length := by
  rw [List.map_append, Action.ending_append]
  exact (hleaves.holds env).appends happends _

/-- Behind any history an execution with parameters sends these alone. -/
theorem exists_last_renewing (earlier : List Request) (hrenews : Renews parameters named values)
    (env : Environment) :
    ∃ o, (run { cursor, sql } buffering [] ownText env
        (earlier ++ [.execute parameters])).getLast? = some o ∧
      o.environment.events = [.execute cursor.number sql (handedOver named values)] ∧
      o.state.offset = values.length := by
  unfold run
  rw [List.map_append, List.map_singleton, Action.getLast?_outcomes_concat]
  obtain ⟨hevents, hholds⟩ := (ready_ending earlier env).execute_renews hrenews _
  exact ⟨_, rfl, hevents, hholds.offset_eq⟩

/-- Behind what such an execution leaves, lists that are bound are sent with it. -/
theorem exists_last_appending {earlier requests : List Request} {more : List Value}
    (hleaves : Leaves earlier named values) (happends : AppendsLists requests more)
    (env : Environment) :
    ∃ o, (run { cursor, sql } buffering [] ownText env
        (earlier ++ requests ++ [.execute .null])).getLast? = some o ∧
      o.environment.events =
        [.execute cursor.number sql (handedOver named (values ++ more))] := by
  unfold run
  rw [List.map_append, List.map_singleton, Action.getLast?_outcomes_concat]
  rw [← sent_enumerated]
  exact ⟨_, rfl, (ready_ending (earlier ++ requests) env).execute_sends
    (hleaves.appended happends env) _⟩

end Runs

/-- Behind every history an execution with a list sends its values, and positions are counted from
them; one with a map of names sends its values under the names without colons. Behind such an
execution, or none, lists that are bound are sent behind its values; where there are neither values
nor lists, its names are sent again. -/
theorem execution_starts_afresh (cursor : Cursor) (sql : String) (buffering : Value)
    (ownText : Option String) (env : Environment) (earlier : List Request) :
    (∀ parameters values, parameters.Lists values → values ≠ [] →
      ∃ o, (run { cursor, sql } buffering [] ownText env
          (earlier ++ [.execute parameters])).getLast? = some o ∧
        o.environment.events = [.execute cursor.number sql (.list values)] ∧
        o.state.offset = values.length) ∧
    (∀ entries : Entries, entries ≠ [] → OrderedMap.KeysIn Value.IsText entries →
      ((OrderedMap.keys entries).map bareKey).Nodup →
      ∃ o, (run { cursor, sql } buffering [] ownText env
          (earlier ++ [.execute (.map entries)])).getLast? = some o ∧
        o.environment.events =
          [.execute cursor.number sql (.map (entries.rename bareKey id))]) ∧
    ∀ named values requests more, Leaves earlier named values → AppendsLists requests more →
      ∃ o, (run { cursor, sql } buffering [] ownText env
          (earlier ++ requests ++ [.execute .null])).getLast? = some o ∧
        o.environment.events =
          [.execute cursor.number sql (handedOver named (values ++ more))] := by
  refine ⟨fun parameters values lists nonempty => ?_, fun entries nonempty texts distinct => ?_,
    fun named values requests more hleaves happends => exists_last_appending hleaves happends env⟩
  · obtain ⟨v, vs, rfl⟩ := List.exists_cons_of_ne_nil nonempty
    exact exists_last_renewing earlier (.list lists nonempty) env
  · obtain ⟨o, ho, hevents, -⟩ :=
      exists_last_renewing earlier (.names nonempty texts distinct) env
    exact ⟨o, ho, hevents⟩

/-- A name and a position are bound before two values are executed with, and one is added. -/
theorem executes_two_values_then_three :
    (∃ o, (run { cursor := { number := 0 }, sql := "BEGIN P(?, ?); END;" } (.bool true) [] none {}
        ([.bindValue (.text "x") (.text "y") .null, .bind (.list [.text "a"]) .null] ++
          [.execute (.tuple [.int 1, .int 2])])).getLast? = some o ∧
      o.environment.events =
        [.execute 0 "BEGIN P(?, ?); END;" (.list [.int 1, .int 2])] ∧
      o.state.offset = 2) ∧
    (∃ o, (run { cursor := { number := 0 }, sql := "BEGIN P(?, ?); END;" } (.bool true) [] none {}
        ([.bind (.list [.text "a"]) .null] ++ [.execute (.map [(.text ":x", .int 1)])])).getLast? =
          some o ∧
      o.environment.events =
        [.execute 0 "BEGIN P(?, ?); END;" (.map [(.text "x", .int 1)])]) ∧
    ∃ o, (run { cursor := { number := 0 }, sql := "BEGIN P(?, ?); END;" } (.bool true) [] none {}
        ([.bind (.list [.text "a"]) .null] ++ [.execute (.tuple [.int 1, .int 2])] ++
          [.bind (.list [.int 3]) .null] ++ [.execute .null])).getLast? = some o ∧
      o.environment.events =
        [.execute 0 "BEGIN P(?, ?); END;" (.list [.int 1, .int 2, .int 3])] := by
  have hsends := execution_starts_afresh { number := 0 } "BEGIN P(?, ?); END;" (.bool true) none {}
  refine ⟨(hsends _).1 _ _ (.tuple _) nofun, (hsends _).2.1 [(.text ":x", .int 1)] nofun ?_ ?_,
    (hsends _).2.2 [] [.int 1, .int 2] _ [.int 3] (.executed (.list (.tuple _) nofun)) ?_⟩
  · exact OrderedMap.keysIn_cons.2 ⟨⟨_, rfl⟩, OrderedMap.keysIn_nil⟩
  · exact List.nodup_singleton _
  · exact .cons (.list [.int 3]) (fun _ => readUnder_null_of_mem_listed) .nil

end PreparedStatement

end OracleCatalog
