import StatusListPlugin.Storage

/-!
# The status list controller

`update_status_list` and `delete_status_list` of `status_list.py`. The update sets the fields
the body names. The deletion removes the list's entries and then the list in one transaction,
and leaves the definition's `list_cursor` as it is.
-/

namespace StatusListPlugin

/-- An item of an `update_status_list` body whose key names a field of the list and whose value
has that field's type: `setattr` sets the field, and `id`, a property without a setter, raises
`AttributeError`. -/
inductive ListSetting
  | definition_id (value : String)
  | sequence (value : String)
  | list_size (value : Int)
  | entry_size (value : Int)
  | entry_cursor (value : Int)
  | id (value : JsonValue)

/-- `setattr(record, attr, value)` on a status list. -/
def ListSetting.setattr (record : StatusList) : ListSetting → Except PyError StatusList
  | .definition_id value => pure { record with definition_id := value }
  | .sequence value => pure { record with sequence := value }
  | .list_size value => pure { record with list_size := value }
  | .entry_size value => pure { record with entry_size := value }
  | .entry_cursor value => pure { record with entry_cursor := value }
  | .id _ => throw .attributeError

/-- `update_status_list`, lines 234–255. -/
def updateStatusList (txn : Store) (id : String) (body : List ListSetting) : Store × Response :=
  patchRecord ListSetting.setattr .statusList txn id body

/-- Line 285: the entries deleted one after another. -/
def deleteEntries (txn : Store) : List StatusListEntry → Except PyError Store
  | [] => pure txn
  | entry :: rest => do deleteEntries (← BaseRecord.deleteRecord txn entry) rest

/-- The transaction of `delete_status_list`, lines 282–292. -/
def deleteStatusListRecords (txn : Store) (id : String) : Except PyError Store := do
  let txn ← deleteEntries txn (BaseRecord.query txn [("status_list_id", id)])
  let key ← (JsonValue.str id).recordKey
  let statusList : StatusList ← BaseRecord.retrieveById txn key
  BaseRecord.deleteRecord txn statusList

/-- `delete_status_list`: a failed transaction is rolled back. -/
def deleteStatusList (txn : Store) (id : String) : Store × Response :=
  match deleteStatusListRecords txn id with
  | .ok deleted => (deleted, .deleted id)
  | .error cause => (txn, notFoundOrBadRequest cause)

/-! ## What the handlers leave -/

theorem deleteEntries_eq_ok {txn txn' : Store} {entries : List StatusListEntry}
    (deleted : deleteEntries txn entries = .ok txn') :
    txn' = { txn with entries := txn.entries.filter (fun old =>
      !entries.any fun entry => old.id == entry.id) } := by
  induction entries generalizing txn with
  | nil =>
      cases deleted
      simp
  | cons entry rest inductionHypothesis =>
      obtain ⟨mid, deletedOne, deletedRest⟩ := except_bind_eq_ok.mp deleted
      obtain ⟨-, rfl⟩ := BaseRecord.deleteRecord_eq_ok.mp deletedOne
      rw [inductionHypothesis deletedRest]
      simp only [table_entries, setTable_entries, List.filter_filter, List.any_cons,
        Bool.not_or, recordId_entry, bne, Bool.and_comm]

theorem deleteStatusListRecords_eq_ok {txn txn' : Store} {id : String}
    (deleted : deleteStatusListRecords txn id = .ok txn') :
    (∃ statusList ∈ txn.lists, statusList.id = id) ∧
      txn' = { txn with
        entries := txn.entries.filter (fun old =>
          !(BaseRecord.query txn [("status_list_id", id)] : List StatusListEntry).any
            fun entry => old.id == entry.id),
        lists := txn.lists.filter (fun old => old.id != id) } := by
  obtain ⟨mid, deletedEntries, deleted⟩ := except_bind_eq_ok.mp deleted
  obtain ⟨key, keyOk, deleted⟩ := except_bind_eq_ok.mp deleted
  obtain ⟨statusList, retrieved, deletedList⟩ := except_bind_eq_ok.mp deleted
  obtain ⟨keyValue, -⟩ := JsonValue.recordKey_eq_ok keyOk
  cases keyValue
  rw [deleteEntries_eq_ok deletedEntries] at retrieved deletedList
  obtain ⟨member, rfl⟩ := BaseRecord.retrieveById_eq_ok retrieved
  obtain ⟨-, rfl⟩ := BaseRecord.deleteRecord_eq_ok.mp deletedList
  exact ⟨⟨statusList, member, rfl⟩, by simp⟩

/-- The store `delete_status_list` leaves: the old one, or the old one without the list and
the entries the query for its id found. -/
theorem deleteStatusList_store (txn : Store) (id : String) :
    (deleteStatusList txn id).1 = txn ∨
      deleteStatusListRecords txn id = .ok (deleteStatusList txn id).1 := by
  unfold deleteStatusList
  split
  · rename_i deleted deletedOk
    exact .inr deletedOk
  · exact .inl rfl

end StatusListPlugin
