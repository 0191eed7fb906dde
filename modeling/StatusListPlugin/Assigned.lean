import StatusListPlugin.Sizes

/-!
# Which entries are assigned

`create_status_list_entry` marks an entry `is_assigned` when it hands it out: the entry of the
current list whose `sequence` tag is `str(entry_cursor)`, after which the cursor advances by
`entry_size`. Every other request either leaves `is_assigned` alone or deletes the entry with
its list, and `recycle_status_list_entry`, the one handler meant to clear it, never finds an
entry. So over every run the flag records the allocations exactly: the assigned entries of a
list are those at the tags `str(k * entry_size)` for the `k` allocations made from it, one
entry for each.
-/

namespace StatusListPlugin

/-- The `sequence` tags the allocator has looked up in a list: `str(k * entry_size)` for each
of the `k` allocations made from it. -/
def HandedOutRank (statusList : StatusList) (sequence : String) : Prop :=
  ∃ k < handedOut statusList, sequence = toString ((k : Int) * statusList.entry_size)

/-- The entries of a list are assigned exactly at the tags handed out, and each of those tags
names one of its entries. -/
structure AssignedRanks (entries : List StatusListEntry) (statusList : StatusList) : Prop where
  assigned_iff : ∀ entry ∈ entries, entry.status_list_id = statusList.id →
    (entry.is_assigned = true ↔ HandedOutRank statusList entry.sequence)
  handed_present : ∀ k < handedOut statusList, ∃ entry ∈ entries,
    entry.status_list_id = statusList.id ∧
      entry.sequence = toString ((k : Int) * statusList.entry_size)

/-- Every stored list's entries are assigned exactly at the tags handed out. -/
def AssignmentsTracked (txn : Store) : Prop :=
  ∀ statusList ∈ txn.lists, AssignedRanks txn.entries statusList

/-- The fields of an entry the assignment invariant reads. -/
def assignKey (entry : StatusListEntry) : String × String × Bool :=
  (entry.status_list_id, entry.sequence, entry.is_assigned)

/-! ## One lemma per kind of write -/

/-- Changing entries in fields other than their list, tag and flag keeps a list's assignment
record. -/
theorem AssignedRanks.of_keys {entries entries' : List StatusListEntry} {statusList : StatusList}
    (ranks : AssignedRanks entries statusList)
    (keys : entries'.map assignKey = entries.map assignKey) :
    AssignedRanks entries' statusList where
  assigned_iff entry member owned := by
    obtain ⟨old, oldMember, same⟩ := List.mem_map.mp (keys ▸ List.mem_map_of_mem assignKey member)
    simp only [assignKey, Prod.mk.injEq] at same
    rw [← same.2.2, ← same.2.1]
    exact ranks.assigned_iff old oldMember (same.1.trans owned)
  handed_present k below := by
    obtain ⟨old, oldMember, owned, tagged⟩ := ranks.handed_present k below
    obtain ⟨entry, member, same⟩ :=
      List.mem_map.mp (keys.symm ▸ List.mem_map_of_mem assignKey oldMember)
    simp only [assignKey, Prod.mk.injEq] at same
    exact ⟨entry, member, same.1.trans owned, same.2.1.trans tagged⟩

/-- Entries of other lists added to the table keep a list's assignment record. -/
theorem AssignedRanks.append_other {entries added : List StatusListEntry}
    {statusList : StatusList} (ranks : AssignedRanks entries statusList)
    (other : ∀ entry ∈ added, entry.status_list_id ≠ statusList.id) :
    AssignedRanks (entries ++ added) statusList where
  assigned_iff entry member owned := by
    rcases List.mem_append.mp member with old | new
    · exact ranks.assigned_iff entry old owned
    · exact absurd owned (other entry new)
  handed_present k below := by
    obtain ⟨entry, member, rest⟩ := ranks.handed_present k below
    exact ⟨entry, List.mem_append_left _ member, rest⟩

theorem AssignmentsTracked.of_keys {txn : Store} (tracked : AssignmentsTracked txn)
    {entries : List StatusListEntry} (keys : entries.map assignKey = txn.entries.map assignKey) :
    AssignmentsTracked { txn with entries } :=
  fun statusList member => (tracked statusList member).of_keys keys

/-- A new list starts with no entry assigned and no allocation made. -/
theorem AssignmentsTracked.create_list {sys : System} (consistent : Consistent sys)
    (tracked : AssignmentsTracked sys.store) {definition : StatusListDefinition} {uid : String}
    {shuffle : Rearrangement Int} {txn : Store} {statusList : StatusList}
    (created : CreatedStatusList sys.store definition uid shuffle txn statusList) :
    AssignmentsTracked txn := by
  have newEntries : ∀ entry ∈ slotEntries uid
      (shuffle.apply (rangeValues 0 statusList.list_size statusList.entry_size)),
      entry.status_list_id = uid ∧ entry.is_assigned = false := fun entry member => by
    obtain ⟨_, _, rfl⟩ := List.mem_map.mp member
    exact ⟨rfl, rfl⟩
  intro listed member
  rw [created.entries_eq]
  rw [created.lists_eq] at member
  rcases List.mem_append.mp member with old | added
  · exact (tracked listed old).append_other fun entry new same =>
      created.fresh_list listed old (same ▸ (newEntries entry new).1)
  · rw [List.mem_singleton.mp added]
    have none : handedOut statusList = 0 := by simp [handedOut, created.entry_cursor_eq]
    refine ⟨fun entry entryMember owned => ?_, fun k below => absurd below (by omega)⟩
    have unassigned : entry.is_assigned = false := by
      rcases List.mem_append.mp entryMember with old | new
      · obtain ⟨owner, stored, owns⟩ := consistent.entry_owner entry old
        exact absurd (owns.trans (owned.trans created.id_eq)) (created.fresh_list owner stored)
      · exact (newEntries entry new).2
    simp only [unassigned, Bool.false_eq_true, false_iff, HandedOutRank, none]
    omega

/-- Handing out the entry at a list's cursor and advancing the cursor adds that entry's tag to
the ones handed out. -/
theorem AssignmentsTracked.assign_advance {sys : System} (consistent : Consistent sys)
    (tracked : AssignmentsTracked sys.store) {working : StatusList} {found : StatusListEntry}
    (member : working ∈ sys.store.lists)
    (query : (BaseRecord.query sys.store (cursorFilter working) : List StatusListEntry) =
      [found]) :
    AssignmentsTracked { sys.store with
      entries := sys.store.entries.map fun old =>
        if old.id == found.id then { found with is_assigned := true } else old,
      lists := sys.store.lists.map fun old =>
        if old.id == working.id then advanceCursor working else old } := by
  obtain ⟨foundMember, matched⟩ := BaseRecord.mem_of_query_eq_singleton query
  rw [cursorFilter, matchesFilter_entry] at matched
  have shape := consistent.list_shape working member
  have nodup := consistent.entries_nodup
  have sameKeys := map_replace_keys slotKey { found with is_assigned := true } nodup foundMember rfl
  /- Each old entry has a counterpart with the same list and tag. -/
  have kept : ∀ entry ∈ sys.store.entries, ∃ entry' ∈ sys.store.entries.map fun old =>
      (if old.id == found.id then { found with is_assigned := true } else old),
      entry'.status_list_id = entry.status_list_id ∧ entry'.sequence = entry.sequence := by
    intro entry entryMember
    obtain ⟨entry', member', same⟩ :=
      List.mem_map.mp (sameKeys.symm ▸ List.mem_map_of_mem slotKey entryMember)
    simp only [slotKey, Prod.mk.injEq] at same
    exact ⟨entry', member', same.2.1, same.2.2⟩
  /- Of the working list, only the found entry carries the tag at the cursor. -/
  have onlyFound : ∀ entry ∈ sys.store.entries, entry.status_list_id = working.id →
      entry.sequence = toString working.entry_cursor → entry.id = found.id := by
    intro entry entryMember owned tagged
    have listed : entry ∈ (BaseRecord.query sys.store (cursorFilter working) :
        List StatusListEntry) :=
      BaseRecord.mem_query.mpr ⟨entryMember, by rw [cursorFilter, matchesFilter_entry]; exact ⟨owned, tagged⟩⟩
    rw [query, List.mem_singleton] at listed
    rw [listed]
  intro listed listedMember
  rcases (mem_map_replace member).mp listedMember with rfl | ⟨old, other⟩
  · have advanced := handedOut_advanceCursor shape
    have cursor : toString working.entry_cursor =
        toString ((handedOut working : Int) * working.entry_size) := by rw [shape.cursor_eq]
    constructor
    · intro entry entryMember owned
      rcases (mem_map_replace foundMember).mp entryMember with rfl | ⟨old, distinct⟩
      · refine ⟨fun _ => ⟨handedOut working, by omega, ?_⟩, fun _ => rfl⟩
        rw [advanceCursor_entry_size, ← cursor]
        exact matched.2
      · rw [(tracked working member).assigned_iff entry old owned]
        simp only [HandedOutRank, advanced, advanceCursor_entry_size]
        constructor
        · rintro ⟨k, below, tagged⟩
          exact ⟨k, by omega, tagged⟩
        · rintro ⟨k, below, tagged⟩
          refine ⟨k, lt_of_le_of_ne (by omega) fun last => distinct ?_, tagged⟩
          refine onlyFound entry old owned ?_
          rw [tagged, last, ← cursor]
    · intro k below
      rw [advanced] at below
      rcases Nat.lt_succ_iff_lt_or_eq.mp below with before | rfl
      · obtain ⟨entry, entryMember, owned, tagged⟩ :=
          (tracked working member).handed_present k before
        obtain ⟨entry', member', sameList, sameTag⟩ := kept entry entryMember
        exact ⟨entry', member', sameList.trans owned, sameTag.trans tagged⟩
      · refine ⟨{ found with is_assigned := true }, (mem_map_replace foundMember).mpr (.inl rfl),
          matched.1, ?_⟩
        rw [advanceCursor_entry_size, ← cursor]
        exact matched.2
  · have otherList : listed.id ≠ found.status_list_id := matched.1 ▸ other
    constructor
    · intro entry entryMember owned
      rcases (mem_map_replace foundMember).mp entryMember with rfl | ⟨entryOld, -⟩
      · exact absurd owned.symm otherList
      · exact (tracked listed old).assigned_iff entry entryOld owned
    · intro k below
      obtain ⟨entry, entryMember, owned, tagged⟩ := (tracked listed old).handed_present k below
      obtain ⟨entry', member', sameList, sameTag⟩ := kept entry entryMember
      exact ⟨entry', member', sameList.trans owned, sameTag.trans tagged⟩

/-- Deleting a status list with its entries keeps the other lists' assignment records. -/
theorem AssignmentsTracked.delete_list {txn : Store} (tracked : AssignmentsTracked txn)
    (id : String) :
    AssignmentsTracked { txn with
      entries := txn.entries.filter (·.status_list_id != id),
      lists := txn.lists.filter (·.id != id) } := by
  intro statusList member
  obtain ⟨old, kept⟩ := List.mem_filter.mp member
  have other : statusList.id ≠ id := by simpa using kept
  refine ⟨fun entry entryMember owned =>
    (tracked statusList old).assigned_iff entry (List.mem_filter.mp entryMember).1 owned,
    fun k below => ?_⟩
  obtain ⟨entry, entryMember, owned, tagged⟩ := (tracked statusList old).handed_present k below
  exact ⟨entry, List.mem_filter.mpr ⟨entryMember, by simpa [owned] using other⟩, owned, tagged⟩

/-! ## Runs -/

theorem AssignmentsTracked.initial : AssignmentsTracked System.initial.store :=
  fun _ member => absurd member (List.not_mem_nil _)

/-- `create_status_list_entry` keeps the assignment records. -/
theorem AssignmentsTracked.create_entry {sys : System} (consistent : Consistent sys)
    (tracked : AssignmentsTracked sys.store) {body : JsonValue} {uid : String}
    {shuffle : Rearrangement Int} (uuid : isUuid uid = true) :
    AssignmentsTracked (createStatusListEntry sys.store body uid shuffle).1 := by
  rcases createStatusListEntry_store sys.store body uid shuffle with
    unchanged | ⟨statusList, entry, committed⟩
  · rw [unchanged]
    exact tracked
  obtain ⟨definitionId, definition, current, mid, working, found, -, retrieved, currentOk, worked,
    query, rfl, rfl, committedStore⟩ := createStatusListEntryTxn_eq_ok committed
  obtain ⟨midConsistent, member, kept⟩ := consistent.working_phase uuid retrieved currentOk worked
  have midTracked : AssignmentsTracked mid := by
    rcases kept with rfl | created
    · exact tracked
    · exact tracked.create_list consistent created
  rw [committedStore]
  exact @AssignmentsTracked.assign_advance ⟨mid, uid :: sys.issued⟩ midConsistent midTracked _ _
    member query

/-- Every request keeps the assignment records. -/
theorem AssignmentsTracked.handle_step {sys : System} (consistent : Consistent sys)
    (tracked : AssignmentsTracked sys.store) {request : Request}
    (admissible : request.Admissible sys) : AssignmentsTracked (handle sys request).1.store := by
  cases request with
  | createStatusListDef body uid =>
      show AssignmentsTracked (createStatusListDef sys.store body uid).1
      rcases createStatusListDef_store sys.store body uid with unchanged | ⟨fields, -, added⟩
      · rw [unchanged]
        exact tracked
      · rw [← (BaseRecord.add_eq_ok.mp added).2.2]
        exact tracked
  | createStatusListEntry body uid shuffle =>
      exact tracked.create_entry consistent (admissible uid rfl).1
  | updateStatusListEntry status_list_id index status =>
      show AssignmentsTracked (updateStatusListEntry sys.store status_list_id index [.status status]).1
      rcases updateStatusListEntry_store sys.store status_list_id index status with
        unchanged | ⟨found, member, updated⟩
      · rw [unchanged]
        exact tracked
      · rw [updated]
        exact tracked.of_keys (map_replace_keys assignKey { found with status := status }
          consistent.entries_nodup member rfl)
  | recycleStatusListEntry status_list_id index =>
      show AssignmentsTracked (recycleStatusListEntry sys.store status_list_id index).1
      rw [recycleStatusListEntry_store]
      exact tracked
  | deleteStatusList id =>
      show AssignmentsTracked (deleteStatusList sys.store id).1
      rcases deleteStatusList_store sys.store id with unchanged | deleted
      · rw [unchanged]
        exact tracked
      · rw [(deleteStatusListRecords_eq_ok deleted).2, filter_not_any_query consistent.entries_nodup]
        exact tracked.delete_list id
  | deleteStatusListDef id =>
      show AssignmentsTracked (deleteStatusListDef sys.store id).1
      rcases deleteStatusListDef_store sys.store id with unchanged | ⟨-, deleted⟩
      · rw [unchanged]
        exact tracked
      · rw [deleted]
        exact tracked

theorem Run.assignmentsTracked {allowed : Request → Prop} {trace : List (Request × Response)}
    {sys : System} (run : Run allowed System.initial trace sys) :
    AssignmentsTracked sys.store := by
  induction run with
  | nil => exact AssignmentsTracked.initial
  | step earlier _ admissible tracked =>
      exact tracked.handle_step earlier.consistent admissible

theorem Reachable.assignmentsTracked {allowed : Request → Prop} {sys : System}
    (reachable : Reachable allowed sys) : AssignmentsTracked sys.store :=
  reachable.elim fun _ run => run.assignmentsTracked

/-! ## Counting the assigned entries -/

/-- The `sequence` tags of a laid-out list's entries are distinct. -/
theorem ListShape.nodup_sequences {entries : List StatusListEntry} {statusList : StatusList}
    (shape : ListShape entries statusList) :
    ((entries.filter (·.status_list_id == statusList.id)).map (·.sequence)).Nodup :=
  shape.sequences_perm.nodup_iff.mpr ((List.nodup_range _).map toString_nat_injective)

/-- A laid-out list with its assignment record has one assigned entry per allocation. -/
theorem AssignedRanks.length_assigned {entries : List StatusListEntry} {statusList : StatusList}
    (ranks : AssignedRanks entries statusList) (shape : ListShape entries statusList) :
    (entries.filter fun entry => entry.status_list_id == statusList.id && entry.is_assigned).length =
      handedOut statusList := by
  set assigned := entries.filter fun entry =>
    entry.status_list_id == statusList.id && entry.is_assigned
  have tagsNodup : (assigned.map (·.sequence)).Nodup :=
    shape.nodup_sequences.sublist ((List.monotone_filter_right _ fun entry both => by
      simp only [Bool.and_eq_true] at both
      exact both.1).map _)
  have ranksNodup : ((List.range (handedOut statusList)).map
      fun k : Nat => toString ((k : Int) * statusList.entry_size)).Nodup :=
    (List.nodup_range _).map_on fun k _ k' _ same => by
      have scaled := Int.eq_of_mul_eq_mul_right shape.entry_size_ne_zero (toString_int_inj.mp same)
      omega
  have perm := (List.perm_ext_iff_of_nodup tagsNodup ranksNodup).mpr fun tag => by
    simp only [List.mem_map, List.mem_range, assigned, List.mem_filter, Bool.and_eq_true,
      beq_iff_eq]
    constructor
    · rintro ⟨entry, ⟨member, owned, isAssigned⟩, rfl⟩
      obtain ⟨k, below, tagged⟩ := (ranks.assigned_iff entry member owned).mp isAssigned
      exact ⟨k, below, tagged.symm⟩
    · rintro ⟨k, below, rfl⟩
      obtain ⟨entry, member, owned, tagged⟩ := ranks.handed_present k below
      exact ⟨entry, ⟨member, owned, (ranks.assigned_iff entry member owned).mpr ⟨k, below, tagged⟩⟩,
        tagged⟩
  simpa using perm.length_eq

/-- In every reachable state, the assigned entries of each status list are exactly its entries
whose `sequence` tag is `str(k * entry_size)` for a `k` below `entry_cursor // entry_size`, the
number of allocations made from it, and there are exactly that many of them. -/
theorem assigned_entries_are_allocations {allowed : Request → Prop} {sys : System}
    (reachable : Reachable allowed sys) {statusList : StatusList}
    (listed : statusList ∈ sys.store.lists) :
    (∀ entry ∈ sys.store.entries, entry.status_list_id = statusList.id →
      (entry.is_assigned = true ↔ ∃ k < handedOut statusList,
        entry.sequence = toString ((k : Int) * statusList.entry_size))) ∧
    (sys.store.entries.filter fun entry =>
      entry.status_list_id == statusList.id && entry.is_assigned).length = handedOut statusList :=
  have ranks := reachable.assignmentsTracked statusList listed
  ⟨ranks.assigned_iff, ranks.length_assigned (reachable.consistent.list_shape statusList listed)⟩

theorem unit_sizes_assigned_entries :
    let defined := handle System.initial (.createStatusListDef unitSizes firstUuid)
    let allocated := handle defined.1
      (.createStatusListEntry (entryRequestBody firstUuid) secondUuid reversal)
    let statusList : StatusList := ⟨secondUuid, firstUuid, "0", 2, 1, 1⟩
    Reachable (fun _ => True) allocated.1 ∧ statusList ∈ allocated.1.store.lists ∧
      (∀ entry ∈ allocated.1.store.entries, entry.status_list_id = statusList.id →
        (entry.is_assigned = true ↔ ∃ k < handedOut statusList,
          entry.sequence = toString ((k : Int) * statusList.entry_size))) ∧
      (allocated.1.store.entries.filter fun entry =>
        entry.status_list_id == statusList.id && entry.is_assigned).length =
          handedOut statusList := by
  intro defined allocated statusList
  have reachable : Reachable (fun _ => True) allocated.1 :=
    ⟨_, .step (.step .nil trivial (by rintro uid ⟨⟩; decide)) trivial (by rintro uid ⟨⟩; decide)⟩
  have listed : statusList ∈ allocated.1.store.lists := by decide
  exact ⟨reachable, listed, assigned_entries_are_allocations reachable listed⟩

end StatusListPlugin
