import StatusListPlugin.Layout

/-!
# The store invariant

`Consistent` is what every run keeps true of the store, whatever the arguments of its
requests: record ids are unique in each table; every status list carries a uuid the run drew;
every entry belongs to a stored list; askar took the tags of every definition; each list is laid out as `create_status_list_entry` made
it, with its cursor at a whole number of entry sizes; and the lists of a definition have
distinct `sequence` tags, at or below its `list_cursor`. This module states the invariant and
proves that the record-level changes the handlers make keep it.
-/

namespace StatusListPlugin

/-- How many entries a status list handed out: its `entry_cursor` counted in entry sizes. -/
def handedOut (statusList : StatusList) : Nat :=
  (statusList.entry_cursor / statusList.entry_size).toNat

/-- A status list as `create_status_list_entry` keeps it: a nonzero entry size, the cursor at
a whole number of entry sizes, and one entry per slot of `range(0, list_size, entry_size)`,
tagged with the slot's position in some shuffled order of the slots. -/
structure ListShape (entries : List StatusListEntry) (statusList : StatusList) : Prop where
  entry_size_ne_zero : statusList.entry_size ≠ 0
  cursor_eq : statusList.entry_cursor = handedOut statusList * statusList.entry_size
  layout : ∃ order, order.Perm (rangeValues 0 statusList.list_size statusList.entry_size) ∧
    (slotTags entries statusList.id).Perm (slotLayout statusList.id order)

/-- The `sequence` tag is `str(k)` for a `k` from `0` up to the definition's `list_cursor`. -/
def SequenceBelow (listCursor : Option Int) (sequence : String) : Prop :=
  ∃ cursor, listCursor = some cursor ∧ ∃ k : Nat, (k : Int) ≤ cursor ∧ sequence = toString (k : Int)

/-- The invariant of the plugin's store over runs with any request arguments. -/
structure Consistent (sys : System) : Prop where
  definitions_nodup : (sys.store.definitions.map (·.id)).Nodup
  lists_nodup : (sys.store.lists.map (·.id)).Nodup
  entries_nodup : (sys.store.entries.map (·.id)).Nodup
  list_issued : ∀ statusList ∈ sys.store.lists,
    statusList.id ∈ sys.issued ∧ isUuid statusList.id = true
  entry_owner : ∀ entry ∈ sys.store.entries,
    ∃ statusList ∈ sys.store.lists, statusList.id = entry.status_list_id
  list_shape : ∀ statusList ∈ sys.store.lists, ListShape sys.store.entries statusList
  cursor_nonneg : ∀ definition ∈ sys.store.definitions, ∀ cursor,
    definition.list_cursor = some cursor → 0 ≤ cursor
  list_definition : ∀ statusList ∈ sys.store.lists, ∃ definition ∈ sys.store.definitions,
    definition.id = statusList.definition_id ∧
      SequenceBelow definition.list_cursor statusList.sequence
  sequences_nodup :
    (sys.store.lists.map fun statusList => (statusList.definition_id, statusList.sequence)).Nodup
  definitions_accepted : ∀ definition ∈ sys.store.definitions, definition.tagsAccepted = true

/-! ## Shapes and sequence tags -/

theorem ListShape.of_slotTags {entries entries' : List StatusListEntry} {statusList : StatusList}
    (shape : ListShape entries statusList)
    (same : slotTags entries' statusList.id = slotTags entries statusList.id) :
    ListShape entries' statusList :=
  ⟨shape.entry_size_ne_zero, shape.cursor_eq, by rw [same]; exact shape.layout⟩

/-- Advancing the cursor hands out one more entry. -/
theorem handedOut_advanceCursor {entries : List StatusListEntry} {statusList : StatusList}
    (shape : ListShape entries statusList) :
    handedOut (advanceCursor statusList) = handedOut statusList + 1 := by
  have advanced : (advanceCursor statusList).entry_cursor =
      ((handedOut statusList + 1 : Nat) : Int) * statusList.entry_size := by
    rw [advanceCursor_entry_cursor, shape.cursor_eq]
    push_cast
    rw [Int.add_mul, Int.one_mul]
  rw [handedOut, advanced, advanceCursor_entry_size,
    Int.mul_ediv_cancel _ shape.entry_size_ne_zero, Int.toNat_natCast]

theorem ListShape.advance {entries : List StatusListEntry} {statusList : StatusList}
    (shape : ListShape entries statusList) : ListShape entries (advanceCursor statusList) :=
  ⟨shape.entry_size_ne_zero,
    by rw [handedOut_advanceCursor shape, advanceCursor_entry_cursor, advanceCursor_entry_size,
      shape.cursor_eq]; push_cast; rw [Int.add_mul, Int.one_mul],
    shape.layout⟩

theorem nextListCursor_nonneg {listCursor : Option Int}
    (nonneg : ∀ cursor, listCursor = some cursor → 0 ≤ cursor) :
    0 ≤ nextListCursor listCursor := by
  cases listCursor with
  | none => exact le_refl 0
  | some cursor =>
      have := nonneg cursor rfl
      simp only [nextListCursor]
      omega

theorem SequenceBelow.next {listCursor : Option Int} {sequence : String}
    (below : SequenceBelow listCursor sequence) :
    SequenceBelow (some (nextListCursor listCursor)) sequence := by
  obtain ⟨cursor, rfl, k, atMost, rfl⟩ := below
  exact ⟨cursor + 1, rfl, k, by omega, rfl⟩

/-- The tag of the list `newStatusList` makes is above every tag of the definition. -/
theorem SequenceBelow.ne_next {listCursor : Option Int} {sequence : String}
    (below : SequenceBelow listCursor sequence) :
    sequence ≠ toString (nextListCursor listCursor) := by
  obtain ⟨cursor, rfl, k, atMost, rfl⟩ := below
  intro equal
  have := toString_int_injective equal
  simp only [nextListCursor] at this
  omega

theorem sequenceBelow_self {cursor : Int} (nonneg : 0 ≤ cursor) :
    SequenceBelow (some cursor) (toString cursor) :=
  ⟨cursor, rfl, cursor.toNat, by omega, by rw [Int.toNat_of_nonneg nonneg]⟩

/-- Deleting the entries the query for a list found is, in a table with unique ids, deleting
the entries of that list. -/
theorem filter_not_any_query {txn : Store} (nodup : (txn.entries.map (·.id)).Nodup)
    (id : String) :
    txn.entries.filter (fun old =>
      !(BaseRecord.query txn [("status_list_id", id)] : List StatusListEntry).any
        fun entry => old.id == entry.id) =
      txn.entries.filter (·.status_list_id != id) := by
  refine List.filter_congr fun old oldMember => ?_
  have found : (∃ entry ∈ (BaseRecord.query txn [("status_list_id", id)] :
      List StatusListEntry), old.id = entry.id) ↔ old.status_list_id = id := by
    simp only [BaseRecord.mem_query, table_entries, matchesFilter_status_list_id]
    constructor
    · rintro ⟨entry, ⟨entryMember, owned⟩, sameId⟩
      rwa [eq_of_id_eq nodup oldMember entryMember sameId]
    · exact fun owned => ⟨old, ⟨oldMember, owned⟩, rfl⟩
  rw [Bool.eq_iff_iff]
  simpa [List.any_eq_true] using found.not

theorem Consistent.initial : Consistent System.initial := by
  constructor <;> simp [System.initial, Store.empty]

namespace Consistent

variable {sys : System}

/-- Drawing more uuids keeps the invariant. -/
theorem issued_mono (consistent : Consistent sys) {issued : List String}
    (more : ∀ uid ∈ sys.issued, uid ∈ issued) : Consistent ⟨sys.store, issued⟩ :=
  { consistent with
    list_issued := fun statusList member =>
      ⟨more _ (consistent.list_issued statusList member).1,
        (consistent.list_issued statusList member).2⟩ }

theorem issued_cons (consistent : Consistent sys) (uid : String) :
    Consistent ⟨sys.store, uid :: sys.issued⟩ :=
  consistent.issued_mono fun _ => List.mem_cons_of_mem uid

/-! ## One lemma per kind of write -/

/-- Changing entries in fields other than their id, list and `sequence` tag keeps the
invariant. -/
theorem of_slotKeys (consistent : Consistent sys) {entries : List StatusListEntry}
    (keys : entries.map slotKey = sys.store.entries.map slotKey) :
    Consistent ⟨{ sys.store with entries }, sys.issued⟩ :=
  have ids : entries.map (·.id) = sys.store.entries.map (·.id) := by
    simpa [List.map_map, Function.comp_def, slotKey] using congrArg (List.map Prod.fst) keys
  { consistent with
    entries_nodup := by simpa only [ids] using consistent.entries_nodup
    entry_owner := fun entry member => by
      have listed : slotKey entry ∈ sys.store.entries.map slotKey :=
        keys ▸ List.mem_map_of_mem slotKey member
      obtain ⟨old, oldMember, sameKey⟩ := List.mem_map.mp listed
      obtain ⟨statusList, stored, owns⟩ := consistent.entry_owner old oldMember
      exact ⟨statusList, stored, owns.trans (congrArg (·.2.1) sameKey)⟩
    list_shape := fun statusList member =>
      (consistent.list_shape statusList member).of_slotTags (slotTags_congr keys _) }

/-- Advancing the cursor of a stored list keeps the invariant. -/
theorem advance (consistent : Consistent sys) {working : StatusList}
    (member : working ∈ sys.store.lists) :
    Consistent ⟨{ sys.store with lists := sys.store.lists.map fun old =>
      if old.id == working.id then advanceCursor working else old }, sys.issued⟩ where
  definitions_nodup := consistent.definitions_nodup
  lists_nodup := by
    simpa only [map_replace_keys (fun statusList : StatusList => statusList.id)
      (advanceCursor working) consistent.lists_nodup member rfl] using consistent.lists_nodup
  entries_nodup := consistent.entries_nodup
  list_issued statusList listed := by
    rcases (mem_map_replace member).mp listed with rfl | ⟨old, -⟩
    · exact consistent.list_issued working member
    · exact consistent.list_issued statusList old
  entry_owner entry owned := by
    obtain ⟨statusList, stored, owns⟩ := consistent.entry_owner entry owned
    by_cases same : statusList.id = working.id
    · exact ⟨advanceCursor working, (mem_map_replace member).mpr (.inl rfl), same ▸ owns⟩
    · exact ⟨statusList, (mem_map_replace member).mpr (.inr ⟨stored, same⟩), owns⟩
  list_shape statusList listed := by
    rcases (mem_map_replace member).mp listed with rfl | ⟨old, -⟩
    · exact (consistent.list_shape working member).advance
    · exact consistent.list_shape statusList old
  cursor_nonneg := consistent.cursor_nonneg
  list_definition statusList listed := by
    rcases (mem_map_replace member).mp listed with rfl | ⟨old, -⟩
    · exact consistent.list_definition working member
    · exact consistent.list_definition statusList old
  sequences_nodup := by
    simpa only [map_replace_keys
      (fun statusList : StatusList => (statusList.definition_id, statusList.sequence))
      (advanceCursor working) consistent.lists_nodup member rfl] using consistent.sequences_nodup
  definitions_accepted := consistent.definitions_accepted

/-- A new definition, with its `list_cursor` unset and tags askar takes, keeps the
invariant. -/
theorem add_definition (consistent : Consistent sys) {definition : StatusListDefinition}
    (fresh : ∀ old ∈ sys.store.definitions, old.id ≠ definition.id)
    (unset : definition.list_cursor = none) (accepted : definition.tagsAccepted = true) :
    Consistent ⟨{ sys.store with definitions := sys.store.definitions ++ [definition] },
      sys.issued⟩ :=
  { consistent with
    definitions_nodup := nodup_map_append_singleton consistent.definitions_nodup fresh
    cursor_nonneg := fun stored member cursor set => by
      rcases List.mem_append.mp member with old | added
      · exact consistent.cursor_nonneg stored old cursor set
      · rw [List.mem_singleton.mp added, unset] at set
        cases set
    list_definition := fun statusList member => by
      obtain ⟨stored, storedMember, rest⟩ := consistent.list_definition statusList member
      exact ⟨stored, List.mem_append_left _ storedMember, rest⟩
    definitions_accepted := fun stored member => by
      rcases List.mem_append.mp member with old | added
      · exact consistent.definitions_accepted stored old
      · rwa [List.mem_singleton.mp added] }

/-- Deleting a definition no status list names keeps the invariant. -/
theorem delete_definition (consistent : Consistent sys) {id : String}
    (unused : ∀ statusList ∈ sys.store.lists, statusList.definition_id ≠ id) :
    Consistent ⟨{ sys.store with definitions := sys.store.definitions.filter (·.id != id) },
      sys.issued⟩ :=
  { consistent with
    definitions_nodup := nodup_map_filter consistent.definitions_nodup _
    cursor_nonneg := fun stored member =>
      consistent.cursor_nonneg stored (List.mem_filter.mp member).1
    list_definition := fun statusList member => by
      obtain ⟨stored, storedMember, named, below⟩ := consistent.list_definition statusList member
      refine ⟨stored, List.mem_filter.mpr ⟨storedMember, ?_⟩, named, below⟩
      simpa [named] using unused statusList member
    definitions_accepted := fun stored member =>
      consistent.definitions_accepted stored (List.mem_filter.mp member).1 }

/-- Deleting a status list with its entries keeps the invariant. -/
theorem delete_list (consistent : Consistent sys) (id : String) :
    Consistent ⟨{ sys.store with
      entries := sys.store.entries.filter (·.status_list_id != id),
      lists := sys.store.lists.filter (·.id != id) }, sys.issued⟩ where
  definitions_nodup := consistent.definitions_nodup
  lists_nodup := nodup_map_filter consistent.lists_nodup _
  entries_nodup := nodup_map_filter consistent.entries_nodup _
  list_issued statusList member := consistent.list_issued statusList (List.mem_filter.mp member).1
  entry_owner entry member := by
    obtain ⟨kept, other⟩ := List.mem_filter.mp member
    obtain ⟨statusList, stored, owns⟩ := consistent.entry_owner entry kept
    exact ⟨statusList, List.mem_filter.mpr ⟨stored, by simpa [owns] using other⟩, owns⟩
  list_shape statusList member := by
    obtain ⟨kept, other⟩ := List.mem_filter.mp member
    exact (consistent.list_shape statusList kept).of_slotTags
      (slotTags_filter_of_ne (by simpa using other))
  cursor_nonneg := consistent.cursor_nonneg
  list_definition statusList member :=
    consistent.list_definition statusList (List.mem_filter.mp member).1
  sequences_nodup := nodup_map_filter consistent.sequences_nodup _
  definitions_accepted := consistent.definitions_accepted

/-- Creating a status list for a stored definition keeps the invariant. -/
theorem create_list (consistent : Consistent sys) {definition : StatusListDefinition}
    {uid : String} {shuffle : Rearrangement Int} {txn : Store} {statusList : StatusList}
    (uuid : isUuid uid = true) (retrieved : definition ∈ sys.store.definitions)
    (created : CreatedStatusList sys.store definition uid shuffle txn statusList) :
    Consistent ⟨txn, uid :: sys.issued⟩ := by
  obtain ⟨-, -, nonzero, rfl, definitionId, sequence, cursor, -, freshList, definitions, lists,
    entries, entriesNodup⟩ := created
  obtain ⟨definitions', lists', entries'⟩ := txn
  simp only at definitions lists entries entriesNodup
  subst definitions lists entries
  have advancedMember : advanceListCursor definition ∈ sys.store.definitions.map fun old =>
      if old.id == definition.id then advanceListCursor definition else old :=
    (mem_map_replace retrieved).mpr (.inl rfl)
  have nonneg := nextListCursor_nonneg (consistent.cursor_nonneg definition retrieved)
  have oldEntries : ∀ entry ∈ sys.store.entries, entry.status_list_id ≠ statusList.id := by
    intro entry member equal
    obtain ⟨owner, stored, owns⟩ := consistent.entry_owner entry member
    exact freshList owner stored (owns.trans equal)
  exact {
    definitions_nodup := by
      simpa only [map_replace_keys (fun old : StatusListDefinition => old.id)
        (advanceListCursor definition) consistent.definitions_nodup retrieved rfl] using
        consistent.definitions_nodup
    lists_nodup := nodup_map_append_singleton consistent.lists_nodup freshList
    entries_nodup := entriesNodup consistent.entries_nodup
    list_issued := fun listed member => by
      rcases List.mem_append.mp member with old | added
      · exact ⟨List.mem_cons_of_mem _ (consistent.list_issued listed old).1,
          (consistent.list_issued listed old).2⟩
      · rw [List.mem_singleton.mp added]
        exact ⟨List.mem_cons_self _ _, uuid⟩
    entry_owner := fun entry member => by
      rcases List.mem_append.mp member with old | added
      · obtain ⟨owner, stored, owns⟩ := consistent.entry_owner entry old
        exact ⟨owner, List.mem_append_left _ stored, owns⟩
      · exact ⟨statusList, List.mem_append_right _ (List.mem_singleton_self _),
          (status_list_id_of_mem_slotEntries added).symm⟩
    list_shape := fun listed member => by
      rcases List.mem_append.mp member with old | added
      · refine (consistent.list_shape listed old).of_slotTags ?_
        rw [slotTags_append, slotTags_slotEntries_of_ne (freshList listed old).symm,
          List.append_nil]
      · rw [List.mem_singleton.mp added]
        refine ⟨nonzero, by simp [handedOut, cursor], _, shuffle.perm _, ?_⟩
        rw [slotTags_append, slotTags_eq_nil oldEntries, slotTags_slotEntries, List.nil_append]
    cursor_nonneg := fun stored member listCursor set => by
      rcases (mem_map_replace retrieved).mp member with rfl | ⟨old, -⟩
      · simp only [advanceListCursor, Option.some.injEq] at set
        exact set ▸ nonneg
      · exact consistent.cursor_nonneg stored old listCursor set
    list_definition := fun listed member => by
      rcases List.mem_append.mp member with old | added
      · obtain ⟨stored, storedMember, named, below⟩ := consistent.list_definition listed old
        by_cases same : stored.id = definition.id
        · rw [eq_of_id_eq consistent.definitions_nodup storedMember retrieved same] at below named
          exact ⟨_, advancedMember, named, below.next⟩
        · exact ⟨stored, (mem_map_replace retrieved).mpr (.inr ⟨storedMember, same⟩), named,
            below⟩
      · rw [List.mem_singleton.mp added]
        exact ⟨_, advancedMember, definitionId.symm, by rw [sequence]; exact sequenceBelow_self nonneg⟩
    sequences_nodup := nodup_map_append_singleton consistent.sequences_nodup
      fun listed member equal => by
        obtain ⟨stored, storedMember, named, below⟩ := consistent.list_definition listed member
        simp only [Prod.mk.injEq] at equal
        rw [eq_of_id_eq consistent.definitions_nodup storedMember retrieved
          (named.trans (equal.1.trans definitionId))] at below
        exact below.ne_next (equal.2.trans sequence)
    definitions_accepted := fun stored member => by
      rcases (mem_map_replace retrieved).mp member with rfl | ⟨old, -⟩
      · exact consistent.definitions_accepted definition retrieved
      · exact consistent.definitions_accepted stored old }

/-- Handing out the entry at a stored list's cursor and advancing the cursor keeps the
invariant. -/
theorem assign_advance (consistent : Consistent sys) {working : StatusList}
    {found : StatusListEntry} (member : working ∈ sys.store.lists)
    (query : (BaseRecord.query sys.store (cursorFilter working) : List StatusListEntry) =
      [found]) :
    Consistent ⟨{ sys.store with
      entries := sys.store.entries.map fun old =>
        if old.id == found.id then { found with is_assigned := true } else old,
      lists := sys.store.lists.map fun old =>
        if old.id == working.id then advanceCursor working else old }, sys.issued⟩ :=
  (consistent.of_slotKeys (map_replace_keys slotKey { found with is_assigned := true }
    consistent.entries_nodup (BaseRecord.mem_of_query_eq_singleton query).1 rfl)).advance member

/-- The store an allocation takes its entry from: the one before it, or that one with the
next status list created. -/
theorem working_phase (consistent : Consistent sys) {definitionId : String}
    {definition : StatusListDefinition} {current : Option StatusList} {uid : String}
    {shuffle : Rearrangement Int} {mid : Store} {working : StatusList} (uuid : isUuid uid = true)
    (retrieved : (BaseRecord.retrieveById sys.store definitionId :
      Except PyError StatusListDefinition) = .ok definition)
    (currentOk : currentStatusList sys.store definitionId definition.list_cursor = .ok current)
    (worked : workingStatusList sys.store definition uid shuffle current = .ok (mid, working)) :
    Consistent ⟨mid, uid :: sys.issued⟩ ∧ working ∈ mid.lists ∧
      (mid = sys.store ∨ CreatedStatusList sys.store definition uid shuffle mid working) := by
  rcases workingStatusList_eq_ok worked with ⟨rfl, rfl, -⟩ | created
  · obtain ⟨cursor, -, found⟩ := currentStatusList_eq_ok currentOk
    exact ⟨consistent.issued_cons uid, (BaseRecord.mem_of_query_eq_singleton found).1, .inl rfl⟩
  · refine ⟨consistent.create_list uuid (BaseRecord.retrieveById_eq_ok retrieved).1 created,
      ?_, .inr created⟩
    rw [created.lists_eq]
    exact List.mem_append_right _ (List.mem_singleton_self working)

/-- `create_status_list_entry` keeps the invariant. -/
theorem create_entry (consistent : Consistent sys) {body : JsonValue} {uid : String}
    {shuffle : Rearrangement Int} (uuid : isUuid uid = true) :
    Consistent ⟨(createStatusListEntry sys.store body uid shuffle).1, uid :: sys.issued⟩ := by
  rcases createStatusListEntry_store sys.store body uid shuffle with
    unchanged | ⟨statusList, entry, committed⟩
  · rw [unchanged]
    exact consistent.issued_cons uid
  obtain ⟨definitionId, definition, current, mid, working, found, -, retrieved, currentOk, worked,
    query, rfl, rfl, committedStore⟩ := createStatusListEntryTxn_eq_ok committed
  obtain ⟨midConsistent, member, -⟩ := consistent.working_phase uuid retrieved currentOk worked
  rw [committedStore]
  exact midConsistent.assign_advance member query

/-- Every request keeps the invariant. -/
theorem handle_step (consistent : Consistent sys) {request : Request}
    (admissible : request.Admissible sys) : Consistent (handle sys request).1 := by
  cases request with
  | createStatusListDef body uid =>
      show Consistent ⟨(createStatusListDef sys.store body uid).1, uid :: sys.issued⟩
      rcases createStatusListDef_store sys.store body uid with unchanged | ⟨fields, -, added⟩
      · rw [unchanged]
        exact consistent.issued_cons uid
      · obtain ⟨accepted, fresh, saved⟩ := BaseRecord.add_eq_ok.mp added
        rw [← saved]
        exact (consistent.add_definition (BaseRecord.stored_eq_false.mp fresh) rfl
          accepted).issued_cons uid
  | createStatusListEntry body uid shuffle =>
      exact consistent.create_entry (admissible uid rfl).1
  | updateStatusListEntry status_list_id index status =>
      show Consistent ⟨(updateStatusListEntry sys.store status_list_id index [.status status]).1,
        sys.issued⟩
      rcases updateStatusListEntry_store sys.store status_list_id index status with
        unchanged | ⟨found, member, updated⟩
      · rw [unchanged]
        exact consistent
      · rw [updated]
        exact consistent.of_slotKeys (map_replace_keys slotKey { found with status := status }
          consistent.entries_nodup member rfl)
  | recycleStatusListEntry status_list_id index =>
      show Consistent ⟨(recycleStatusListEntry sys.store status_list_id index).1, sys.issued⟩
      rw [recycleStatusListEntry_store]
      exact consistent
  | deleteStatusList id =>
      show Consistent ⟨(deleteStatusList sys.store id).1, sys.issued⟩
      rcases deleteStatusList_store sys.store id with unchanged | deleted
      · rw [unchanged]
        exact consistent
      · rw [(deleteStatusListRecords_eq_ok deleted).2, filter_not_any_query consistent.entries_nodup]
        exact consistent.delete_list id
  | deleteStatusListDef id =>
      show Consistent ⟨(deleteStatusListDef sys.store id).1, sys.issued⟩
      rcases deleteStatusListDef_store sys.store id with unchanged | ⟨unused, deleted⟩
      · rw [unchanged]
        exact consistent
      · rw [deleted]
        exact consistent.delete_definition unused

end Consistent

/-- Every state a run reaches from the empty store is consistent. -/
theorem Run.consistent {allowed : Request → Prop} {trace : List (Request × Response)}
    {sys : System} (run : Run allowed System.initial trace sys) : Consistent sys := by
  induction run with
  | nil => exact Consistent.initial
  | step _ _ admissible consistent => exact consistent.handle_step admissible

theorem Reachable.consistent {allowed : Request → Prop} {sys : System}
    (reachable : Reachable allowed sys) : Consistent sys :=
  reachable.elim fun _ run => run.consistent

/-- In every reachable state of runs of the modelled requests, whatever their arguments, no two
records of a table share an id, and every status list names a stored definition:
`delete_status_list_def` keeps a definition some list names, `delete_status_list` takes a list's
entries with it, and `create_status_list_entry` creates lists only for the definition it read.
No modelled request changes a list's `definition_id`; the `PATCH` of a status list, which can,
is not one of them. -/
theorem ids_unique_and_lists_name_definitions {allowed : Request → Prop} {sys : System}
    (reachable : Reachable allowed sys) :
    (sys.store.definitions.map (·.id)).Nodup ∧ (sys.store.lists.map (·.id)).Nodup ∧
      (sys.store.entries.map (·.id)).Nodup ∧
      ∀ statusList ∈ sys.store.lists, ∃ definition ∈ sys.store.definitions,
        definition.id = statusList.definition_id := by
  have consistent := reachable.consistent
  refine ⟨consistent.definitions_nodup, consistent.lists_nodup, consistent.entries_nodup,
    fun statusList listed => ?_⟩
  obtain ⟨definition, stored, named, -⟩ := consistent.list_definition statusList listed
  exact ⟨definition, stored, named⟩

/-- A definition, one allocation on it, which creates its first list, and a deletion of the
definition, which the list makes it refuse. -/
theorem refused_deletion_ids_unique_and_lists_name_definitions :
    let defined := handle System.initial (.createStatusListDef
      (.object [("status_purpose", .str "revocation"), ("status_size", .int 1), ("list_size", .int 2)])
      "00000000-0000-4000-8000-000000000001")
    let allocated := handle defined.1 (.createStatusListEntry
      (.object [("definition_id", .str "00000000-0000-4000-8000-000000000001")])
      "00000000-0000-4000-8000-000000000002" (.identity Int))
    let refused := handle allocated.1 (.deleteStatusListDef "00000000-0000-4000-8000-000000000001")
    Reachable (fun _ => True) refused.1 ∧ refused.1.store.definitions.length = 1 ∧
      refused.1.store.lists.length = 1 ∧ refused.1.store.entries.length = 2 ∧
      (refused.1.store.definitions.map (·.id)).Nodup ∧ (refused.1.store.lists.map (·.id)).Nodup ∧
      (refused.1.store.entries.map (·.id)).Nodup ∧
      ∀ statusList ∈ refused.1.store.lists, ∃ definition ∈ refused.1.store.definitions,
        definition.id = statusList.definition_id := by
  intro defined allocated refused
  have reachable : Reachable (fun _ => True) refused.1 :=
    ⟨_, .step (.step (.step .nil trivial (by rintro uid ⟨⟩; decide)) trivial
      (by rintro uid ⟨⟩; decide)) trivial nofun⟩
  exact ⟨reachable, by decide, by decide, by decide,
    ids_unique_and_lists_name_definitions reachable⟩

end StatusListPlugin
