import StatusListPlugin.Consistent

/-!
# Each slot is handed out once

A status list's cursor walks its entries by their `sequence` tags, and the slot a response
names is read back from the assigned entry's id. This module shows that over any run the
slots `(status_list_id, entry_index)` that successful `create_status_list_entry` calls return
are pairwise distinct, and that each one names a slot `i` of `range(0, list_size, entry_size)`
of its list, written without its sign.

The history the proof needs is `HandedOutSlot`: while the list of a returned slot is stored,
the slot is the index of one of its entries that the cursor has passed. `Extends` is what a
request keeps of the lists before it, enough to carry that history over.
-/

namespace StatusListPlugin

variable {sys sys' sys'' : System}

/-! ## The slot of an entry -/

/-- Each entry of a laid-out list is the entry of one of its slots, tagged with a rank below
the number of slots. -/
theorem ListShape.slot {entries : List StatusListEntry} {statusList : StatusList}
    (shape : ListShape entries statusList) {entry : StatusListEntry} (member : entry ∈ entries)
    (owned : entry.status_list_id = statusList.id) :
    ∃ listIndex ∈ rangeValues 0 statusList.list_size statusList.entry_size,
      entry.id = entryId statusList.id listIndex ∧
      ∃ rank < rangeLength 0 statusList.list_size statusList.entry_size,
        entry.sequence = toString rank := by
  obtain ⟨-, -, order, perm, tags⟩ := shape
  have listed : (entry.id, entry.sequence) ∈ slotTags entries statusList.id := by
    rw [← owned]
    exact mem_slotTags member
  obtain ⟨rank, listIndex, found, equal⟩ := mem_slotLayout.mp (tags.subset listed)
  simp only [Prod.mk.injEq] at equal
  refine ⟨listIndex, perm.subset (List.getElem?_mem found), equal.1, rank, ?_, equal.2⟩
  rw [← length_rangeValues, ← perm.length_eq]
  exact (List.getElem?_eq_some_iff.mp found).1

/-- Two entries of a stored list with the same index are one entry. -/
theorem Consistent.entry_eq_of_index_eq (consistent : Consistent sys) {statusList : StatusList}
    (listed : statusList ∈ sys.store.lists) {first second : StatusListEntry}
    (firstMember : first ∈ sys.store.entries) (firstOwned : first.status_list_id = statusList.id)
    (secondMember : second ∈ sys.store.entries)
    (secondOwned : second.status_list_id = statusList.id)
    (sameIndex : first.index = second.index) : first = second := by
  have shape := consistent.list_shape statusList listed
  obtain ⟨i, iSlot, iId, -⟩ := shape.slot firstMember firstOwned
  obtain ⟨j, jSlot, jId, -⟩ := shape.slot secondMember secondOwned
  rw [StatusListEntry.index, StatusListEntry.index, iId, jId, index_entryId,
    index_entryId] at sameIndex
  have sameSlot : i = j :=
    natAbs_injOn_rangeValues shape.entry_size_ne_zero iSlot jSlot (by simpa using sameIndex)
  exact eq_of_id_eq consistent.entries_nodup firstMember secondMember
    (by rw [iId, jId, sameSlot])

/-! ## What a request keeps of the lists before it -/

/-- What a step keeps of the lists whose uuids were drawn before it: each one still stored was
stored before, with the same entry size, a cursor no further back, and all of its entries. -/
structure Extends (sys sys' : System) : Prop where
  issued_mono : ∀ uid ∈ sys.issued, uid ∈ sys'.issued
  lists_mono : ∀ statusList' ∈ sys'.store.lists, statusList'.id ∈ sys.issued →
    ∃ statusList ∈ sys.store.lists, statusList.id = statusList'.id ∧
      statusList.entry_size = statusList'.entry_size ∧
      handedOut statusList ≤ handedOut statusList' ∧
      ∀ entry ∈ sys.store.entries, entry.status_list_id = statusList.id →
        slotKey entry ∈ sys'.store.entries.map slotKey

namespace Extends

theorem trans (first : Extends sys sys') (second : Extends sys' sys'') : Extends sys sys'' where
  issued_mono uid drawn := second.issued_mono uid (first.issued_mono uid drawn)
  lists_mono statusList'' listed drawn := by
    obtain ⟨statusList', listed', sameId', sameSize', further', kept'⟩ :=
      second.lists_mono statusList'' listed (first.issued_mono _ drawn)
    obtain ⟨statusList, stored, sameId, sameSize, further, kept⟩ :=
      first.lists_mono statusList' listed' (sameId' ▸ drawn)
    refine ⟨statusList, stored, sameId.trans sameId', sameSize.trans sameSize',
      further.trans further', fun entry member owned => ?_⟩
    obtain ⟨entry', member', sameKey⟩ := List.mem_map.mp (kept entry member owned)
    rw [← sameKey]
    exact kept' entry' member'
      ((congrArg (·.2.1) sameKey : entry'.status_list_id = entry.status_list_id).trans
        (owned.trans sameId))

/-- A step that keeps every list whose uuid was drawn before, with its entries. -/
theorem of_kept (more : ∀ uid ∈ sys.issued, uid ∈ sys'.issued)
    (lists : ∀ statusList ∈ sys'.store.lists, statusList.id ∈ sys.issued →
      statusList ∈ sys.store.lists)
    (entries : ∀ statusList ∈ sys'.store.lists, ∀ entry ∈ sys.store.entries,
      entry.status_list_id = statusList.id → entry ∈ sys'.store.entries) :
    Extends sys sys' :=
  ⟨more, fun statusList listed drawn => ⟨statusList, lists statusList listed drawn, rfl, rfl,
    le_refl _, fun entry member owned =>
      List.mem_map_of_mem slotKey (entries statusList listed entry member owned)⟩⟩

/-- A step that leaves the lists and the entries as they were. -/
theorem of_same (more : ∀ uid ∈ sys.issued, uid ∈ sys'.issued)
    (lists : sys'.store.lists = sys.store.lists)
    (entries : sys'.store.entries = sys.store.entries) : Extends sys sys' :=
  of_kept more (fun _ listed _ => lists ▸ listed) (fun _ _ _ member _ => entries ▸ member)

theorem of_slotKeys {entries : List StatusListEntry}
    (keys : entries.map slotKey = sys.store.entries.map slotKey) :
    Extends sys ⟨{ sys.store with entries }, sys.issued⟩ :=
  ⟨fun _ drawn => drawn, fun statusList listed _ => ⟨statusList, listed, rfl, rfl, le_refl _,
    fun _ member _ => by simpa only [keys] using List.mem_map_of_mem slotKey member⟩⟩

theorem advance (consistent : Consistent sys) {working : StatusList}
    (member : working ∈ sys.store.lists) :
    Extends sys ⟨{ sys.store with lists := sys.store.lists.map fun old =>
      if old.id == working.id then advanceCursor working else old }, sys.issued⟩ where
  issued_mono _ drawn := drawn
  lists_mono statusList listed _ := by
    rcases (mem_map_replace member).mp listed with rfl | ⟨old, -⟩
    · refine ⟨working, member, rfl, rfl, ?_, fun _ member _ => List.mem_map_of_mem slotKey member⟩
      rw [handedOut_advanceCursor (consistent.list_shape working member)]
      omega
    · exact ⟨statusList, old, rfl, rfl, le_refl _,
        fun _ member _ => List.mem_map_of_mem slotKey member⟩

end Extends

/-- What a committed allocation keeps of the lists before it. -/
theorem Consistent.extends_allocation (consistent : Consistent sys) {body : JsonValue}
    {uid : String} {shuffle : Rearrangement Int} {txn : Store} {statusList : StatusList}
    {entry : StatusListEntry} (uuid : isUuid uid = true) (fresh : uid ∉ sys.issued)
    (committed : createStatusListEntryTxn sys.store body uid shuffle =
      .ok (txn, statusList, entry)) :
    Extends sys ⟨txn, uid :: sys.issued⟩ := by
  obtain ⟨definitionId, definition, current, mid, working, found, -, retrieved, currentOk, worked,
    query, rfl, rfl, rfl⟩ := createStatusListEntryTxn_eq_ok committed
  obtain ⟨midConsistent, member, kept⟩ := consistent.working_phase uuid retrieved currentOk worked
  have toMid : Extends sys ⟨mid, uid :: sys.issued⟩ := by
    rcases kept with rfl | created
    · exact .of_same (fun _ => List.mem_cons_of_mem uid) rfl rfl
    · refine .of_kept (fun _ => List.mem_cons_of_mem uid) (fun listed stored drawn => ?_)
        (fun _ _ entry member _ => ?_)
      · have stored : listed ∈ sys.store.lists ++ [working] := by
          rw [← created.lists_eq]
          exact stored
        rcases List.mem_append.mp stored with old | added
        · exact old
        · rw [List.mem_singleton.mp added, created.id_eq] at drawn
          exact absurd drawn fresh
      · show entry ∈ mid.entries
        rw [created.entries_eq]
        exact List.mem_append_left _ member
  have keys := map_replace_keys slotKey { found with is_assigned := true }
    midConsistent.entries_nodup (BaseRecord.mem_of_query_eq_singleton query).1 rfl
  exact toMid.trans ((Extends.of_slotKeys keys).trans
    (Extends.advance (midConsistent.of_slotKeys keys) member))

/-- What every request keeps of the lists before it. -/
theorem Consistent.extends_handle (consistent : Consistent sys) {request : Request}
    (admissible : request.Admissible sys) : Extends sys (handle sys request).1 := by
  cases request with
  | createStatusListDef body uid =>
      show Extends sys ⟨(createStatusListDef sys.store body uid).1, uid :: sys.issued⟩
      rcases createStatusListDef_store sys.store body uid with unchanged | ⟨fields, -, added⟩
      · rw [unchanged]
        exact .of_same (fun _ => List.mem_cons_of_mem uid) rfl rfl
      · rw [← (BaseRecord.add_eq_ok.mp added).2.2]
        exact .of_same (fun _ => List.mem_cons_of_mem uid) rfl rfl
  | createStatusListEntry body uid shuffle =>
      show Extends sys ⟨(createStatusListEntry sys.store body uid shuffle).1, uid :: sys.issued⟩
      rcases createStatusListEntry_store sys.store body uid shuffle with
        unchanged | ⟨statusList, entry, committed⟩
      · rw [unchanged]
        exact .of_same (fun _ => List.mem_cons_of_mem uid) rfl rfl
      · exact consistent.extends_allocation (admissible uid rfl).1 (admissible uid rfl).2 committed
  | updateStatusListEntry status_list_id index status =>
      show Extends sys ⟨(updateStatusListEntry sys.store status_list_id index [.status status]).1,
        sys.issued⟩
      rcases updateStatusListEntry_store sys.store status_list_id index status with
        unchanged | ⟨found, member, updated⟩
      · rw [unchanged]
        exact .of_same (fun _ drawn => drawn) rfl rfl
      · rw [updated]
        exact .of_slotKeys (map_replace_keys slotKey { found with status := status }
          consistent.entries_nodup member rfl)
  | recycleStatusListEntry status_list_id index =>
      show Extends sys ⟨(recycleStatusListEntry sys.store status_list_id index).1, sys.issued⟩
      rw [recycleStatusListEntry_store]
      exact .of_same (fun _ drawn => drawn) rfl rfl
  | deleteStatusList id =>
      show Extends sys ⟨(deleteStatusList sys.store id).1, sys.issued⟩
      rcases deleteStatusList_store sys.store id with unchanged | deleted
      · rw [unchanged]
        exact .of_same (fun _ drawn => drawn) rfl rfl
      · rw [(deleteStatusListRecords_eq_ok deleted).2, filter_not_any_query consistent.entries_nodup]
        refine .of_kept (fun _ drawn => drawn) (fun _ listed _ => (List.mem_filter.mp listed).1)
          fun statusList listed entry member owned => List.mem_filter.mpr ⟨member, ?_⟩
        simpa [owned] using (List.mem_filter.mp listed).2
  | deleteStatusListDef id =>
      show Extends sys ⟨(deleteStatusListDef sys.store id).1, sys.issued⟩
      rcases deleteStatusListDef_store sys.store id with unchanged | ⟨-, deleted⟩
      · rw [unchanged]
        exact .of_same (fun _ drawn => drawn) rfl rfl
      · rw [deleted]
        exact .of_same (fun _ drawn => drawn) rfl rfl

/-! ## The slots handed out -/

/-- A slot handed out earlier, as the state keeps track of it: its list's uuid was drawn, and
while the list is stored the slot is the index of one of its entries that the cursor passed. -/
def HandedOutSlot (sys : System) (slot : String × String) : Prop :=
  slot.1 ∈ sys.issued ∧ ∀ statusList ∈ sys.store.lists, statusList.id = slot.1 →
    ∃ entry ∈ sys.store.entries, entry.status_list_id = statusList.id ∧
      entry.index = .ok slot.2 ∧
      ∃ k < handedOut statusList, entry.sequence = toString ((k : Int) * statusList.entry_size)

theorem HandedOutSlot.extend {slot : String × String} (handed : HandedOutSlot sys slot)
    (extended : Extends sys sys') : HandedOutSlot sys' slot := by
  refine ⟨extended.issued_mono _ handed.1, fun statusList' listed named => ?_⟩
  obtain ⟨statusList, stored, sameId, sameSize, further, kept⟩ :=
    extended.lists_mono statusList' listed (named ▸ handed.1)
  obtain ⟨entry, member, owned, indexed, k, passed, tagged⟩ :=
    handed.2 statusList stored (sameId.trans named)
  obtain ⟨entry', member', sameKey⟩ := List.mem_map.mp (kept entry member owned)
  simp only [slotKey, Prod.mk.injEq] at sameKey
  refine ⟨entry', member', sameKey.2.1.trans (owned.trans sameId), ?_, k, by omega, ?_⟩
  · rw [StatusListEntry.index, sameKey.1]
    exact indexed
  · rw [sameKey.2.2, tagged, sameSize]

/-- What a committed allocation hands out: the index of the entry at its list's cursor, a slot
of `range(0, list_size, entry_size)` written without its sign, which no earlier allocation
handed out. -/
theorem Consistent.allocation_slot (consistent : Consistent sys) {body : JsonValue}
    {uid : String} {shuffle : Rearrangement Int} {txn : Store} {statusList : StatusList}
    {entry : StatusListEntry} (uuid : isUuid uid = true) (fresh : uid ∉ sys.issued)
    (committed : createStatusListEntryTxn sys.store body uid shuffle =
      .ok (txn, statusList, entry))
    {index : String} (indexed : entry.index = .ok index) :
    HandedOutSlot ⟨txn, uid :: sys.issued⟩ (statusList.id, index) ∧
      ¬ HandedOutSlot sys (statusList.id, index) ∧ statusList ∈ txn.lists ∧
      ∃ listIndex ∈ rangeValues 0 statusList.list_size statusList.entry_size,
        index = toString listIndex.natAbs := by
  obtain ⟨definitionId, definition, current, mid, working, found, -, retrieved, currentOk, worked,
    query, rfl, rfl, rfl⟩ := createStatusListEntryTxn_eq_ok committed
  obtain ⟨midConsistent, member, kept⟩ := consistent.working_phase uuid retrieved currentOk worked
  have shape := midConsistent.list_shape working member
  obtain ⟨foundMember, filtered⟩ := BaseRecord.mem_of_query_eq_singleton query
  obtain ⟨owned, tagged⟩ := (matchesFilter_entry _ _ _).mp filtered
  obtain ⟨listIndex, slotMember, foundId, -⟩ := shape.slot foundMember owned
  have sameIndex : index = toString listIndex.natAbs := by
    have foundIndex : found.index = .ok (toString listIndex.natAbs) := by
      rw [StatusListEntry.index, foundId, index_entryId]
    simpa using indexed.symm.trans foundIndex
  have cursorTag : found.sequence = toString ((handedOut working : Int) * working.entry_size) := by
    rw [tagged, shape.cursor_eq]
  refine ⟨⟨(midConsistent.list_issued working member).1, fun listed stored named => ?_⟩, ?_,
    (mem_map_replace member).mpr (.inl rfl), listIndex, slotMember, sameIndex⟩
  · rcases (mem_map_replace member).mp stored with rfl | ⟨-, distinct⟩
    · refine ⟨{ found with is_assigned := true }, (mem_map_replace foundMember).mpr (.inl rfl),
        owned, indexed, handedOut working, ?_, cursorTag⟩
      rw [handedOut_advanceCursor shape]
      omega
    · exact absurd named distinct
  · rintro ⟨drawn, passed⟩
    rcases kept with rfl | created
    · obtain ⟨earlier, earlierMember, earlierOwned, earlierIndex, k, below, earlierTag⟩ :=
        passed working member rfl
      have same := consistent.entry_eq_of_index_eq member earlierMember earlierOwned foundMember
        owned (earlierIndex.trans indexed.symm)
      rw [same, cursorTag, toString_int_inj] at earlierTag
      have := Int.eq_of_mul_eq_mul_right shape.entry_size_ne_zero earlierTag
      omega
    · exact fresh (by simpa [created.id_eq] using drawn)

/-- The slots handed out along a trace, in order. -/
def allocations (trace : List (Request × Response)) : List (String × String) :=
  trace.filterMap fun step => step.2.slot?

theorem allocations_append_singleton (trace : List (Request × Response))
    (step : Request × Response) :
    allocations (trace ++ [step]) = allocations trace ++ step.2.slot?.toList := by
  cases slotted : step.2.slot? <;> simp [allocations, List.filterMap_append, slotted]

/-- Along any run the slots handed out are pairwise distinct, and the state keeps track of
each of them. -/
theorem Run.handedOutSlots {allowed : Request → Prop} {trace : List (Request × Response)}
    (run : Run allowed System.initial trace sys) :
    (allocations trace).Nodup ∧ ∀ slot ∈ allocations trace, HandedOutSlot sys slot := by
  induction run with
  | nil => simp [allocations]
  | @step trace sys request run _ admissible inductionHypothesis =>
      obtain ⟨nodup, handed⟩ := inductionHypothesis
      have consistent := run.consistent
      have extended := consistent.extends_handle admissible
      rw [allocations_append_singleton]
      cases slotted : (handle sys request).2.slot? with
      | none =>
          rw [Option.toList, List.append_nil]
          exact ⟨nodup, fun slot member => (handed slot member).extend extended⟩
      | some slot =>
          obtain ⟨body, uid, shuffle, rfl⟩ := handleStore_slot slotted
          obtain ⟨statusList, entry, committed, named, indexed⟩ :=
            createStatusListEntry_slot slotted
          obtain ⟨sid, index⟩ := slot
          simp only at named indexed
          subst named
          obtain ⟨newHanded, notBefore, -⟩ := consistent.allocation_slot (admissible uid rfl).1
            (admissible uid rfl).2 committed indexed
          refine ⟨List.nodup_append.mpr ⟨nodup, List.nodup_singleton _, ?_⟩, ?_⟩
          · intro old oldMember newMember
            rw [List.mem_singleton.mp newMember] at oldMember
            exact notBefore (handed _ oldMember)
          · intro slot member
            rcases List.mem_append.mp member with old | new
            · exact (handed slot old).extend extended
            · rw [List.mem_singleton.mp new]
              exact newHanded

/-- Over every run from the empty store, of the requests `Request` lists with any arguments,
the slots that successful `create_status_list_entry` calls return are pairwise distinct; and
each names a slot of its list: the absolute value of a value `i` of
`range(0, list_size, entry_size)`, which is `i` itself when the entry size is positive. -/
theorem slots_handed_out_once (allowed : Request → Prop) :
    (∀ trace sys, Run allowed System.initial trace sys → (allocations trace).Nodup) ∧
    ∀ sys, Reachable allowed sys → ∀ request, request.Admissible sys →
      ∀ slot, (handle sys request).2.slot? = some slot →
        ∃ statusList ∈ (handle sys request).1.store.lists, statusList.id = slot.1 ∧
          ∃ listIndex ∈ rangeValues 0 statusList.list_size statusList.entry_size,
            slot.2 = toString listIndex.natAbs ∧
            (0 < statusList.entry_size → slot.2 = toString listIndex) := by
  refine ⟨fun _ _ run => run.handedOutSlots.1,
    fun sys reachable request admissible slot slotted => ?_⟩
  obtain ⟨body, uid, shuffle, rfl⟩ := handleStore_slot slotted
  obtain ⟨statusList, entry, committed, named, indexed⟩ := createStatusListEntry_slot slotted
  obtain ⟨-, -, listed, listIndex, slotMember, sameIndex⟩ :=
    reachable.consistent.allocation_slot (admissible uid rfl).1 (admissible uid rfl).2 committed
      indexed
  refine ⟨statusList, listed, named.symm, listIndex, slotMember, sameIndex, fun positive => ?_⟩
  rw [sameIndex, toString_natAbs_of_mem_rangeValues positive slotMember]

/-! ## A run with negative sizes -/

/-- Uuids in the form `uuid4` gives, for runs on fixed inputs. -/
def firstUuid : String := "00000000-0000-4000-8000-000000000001"

def secondUuid : String := "00000000-0000-4000-8000-000000000002"

def thirdUuid : String := "00000000-0000-4000-8000-000000000003"

def fourthUuid : String := "00000000-0000-4000-8000-000000000004"

/-- The outcome of `random.shuffle` that reverses the list. -/
def reversal : Rearrangement Int := ⟨List.reverse, List.reverse_perm⟩

/-- The body of `create_status_list_entry` for the definition `definitionId`. -/
def entryRequestBody (definitionId : String) : JsonValue :=
  .object [("definition_id", .str definitionId)]

/-- A definition with `status_size` `-1` and `list_size` `-2`, which `create_status_list_def`
accepts: `range(0, -2, -1)` is `[0, -1]`. -/
def negativeSizes : JsonValue :=
  .object [("status_purpose", .str "revocation"), ("status_size", .int (-1)),
    ("list_size", .int (-2))]

/-- The entry of slot `-1` has the id `f"{id}--1"`, whose index is `"1"`: the first
allocation on `negativeSizes`, with the shuffle reversing the slots, returns a slot that is
not the decimal string of any slot of its list. -/
theorem negative_entry_size_index_not_a_slot :
    let defined := handle System.initial (.createStatusListDef negativeSizes firstUuid)
    let allocated := handle defined.1
      (.createStatusListEntry (entryRequestBody firstUuid) secondUuid reversal)
    Run (fun _ => True) System.initial
      [(.createStatusListDef negativeSizes firstUuid, defined.2),
        (.createStatusListEntry (entryRequestBody firstUuid) secondUuid reversal,
          allocated.2)] allocated.1 ∧
    allocated.2.slot? = some (secondUuid, "1") ∧
    ∀ statusList ∈ allocated.1.store.lists, statusList.id = secondUuid →
      ∀ i ∈ rangeValues 0 statusList.list_size statusList.entry_size, toString i ≠ "1" := by
  intro defined allocated
  refine ⟨.step (.step .nil trivial ?_) trivial ?_, rfl, by decide⟩
  · rintro uid ⟨⟩
    decide
  · rintro uid ⟨⟩
    decide

end StatusListPlugin
