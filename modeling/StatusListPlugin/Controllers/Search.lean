import StatusListPlugin.Storage

/-!
# The search handlers

`get_status_list_defs`, `get_status_list_def`, `get_status_lists`, `get_status_list` and
`get_status_list_entries` of the three controllers. Each reads in a session, writes nothing,
and answers the `serialize()` of every record it found. The handlers for many records share one
shape: a truthy `id` parameter reads that one record, and otherwise the query filters on those
of its parameters that are truthy. A missing parameter and an empty one filter nothing alike.
`get_status_list_entries` always adds its list's id to that filter, but reads a record by
`entry_id` whatever its list.
-/

namespace StatusListPlugin

/-- What a search handler answers: `{"results": [...]}` with the records found, or the HTTP
error it raises. -/
inductive SearchResponse (α : Type)
  | results (records : List α)
  | failed (response : Response)

/-- A query-string parameter as `if value:` reads it: a missing or empty one is dropped. -/
def truthy : Option String → Option String
  | some value => if value = "" then none else some value
  | none => none

@[simp] theorem truthy_none : truthy none = none := rfl

/-- `[record.serialize() for record in records]` inside the handler's `try`: the records, or
the exception of the first `serialize()` that raises, which is not a storage error. -/
def serializeAll {α : Type} [BaseRecord α] (records : List α) : SearchResponse α :=
  match records.mapM BaseRecord.serialize with
  | .ok _ => .results records
  | .error cause => .failed (badRequestOnStorage cause)

/-- The records answered, each of which serialized, or the `500` of one that did not. -/
theorem serializeAll_cases {α : Type} [BaseRecord α] (records : List α) :
    (serializeAll records = .results records ∧
        ∀ record ∈ records, BaseRecord.serialize record = .ok ()) ∨
      ∃ record ∈ records, ∃ cause, BaseRecord.serialize record = .error cause ∧
        serializeAll records = .failed (.serverError cause) := by
  unfold serializeAll
  cases mapped : records.mapM BaseRecord.serialize with
  | ok _ =>
      exact .inl ⟨rfl, fun record member => by
        obtain ⟨⟨⟩, serialized⟩ := except_mapM_ok_iff.mp ⟨_, mapped⟩ record member
        exact serialized⟩
  | error cause =>
      obtain ⟨record, member, failed⟩ := except_mapM_eq_error mapped
      exact .inr ⟨record, member, cause, failed,
        by simp [badRequestOnStorage, BaseRecord.serialize_not_storage _ _ failed]⟩

/-- `retrieve_by_id` of one record, its `StorageNotFoundError` answered with `400`. -/
def readRecord {α : Type} [BaseRecord α] (txn : Store) (key : String) : SearchResponse α :=
  match (BaseRecord.retrieveById txn key : Except PyError α) with
  | .ok record => serializeAll [record]
  | .error cause => .failed (badRequestOnStorage cause)

/-- The shape of the handlers for many records: a truthy `id` reads that record; otherwise
the tag filter is `{attr: value for attr in params if (value := request.query.get(attr))}`
together with the `fixed` tags. -/
def searchRecords {α : Type} [BaseRecord α] (txn : Store) (id : Option String)
    (params : List (String × Option String)) (fixed : List (String × String)) : SearchResponse α :=
  match truthy id with
  | some key => readRecord txn key
  | none => serializeAll (BaseRecord.query txn
      (params.filterMap (fun (attr, value) => (truthy value).map (attr, ·)) ++ fixed))

/-- `get_status_list_defs`, lines 170–194 of `status_list_definition.py`. -/
def getStatusListDefs (txn : Store) (id status_purpose : Option String) :
    SearchResponse StatusListDefinition :=
  searchRecords txn id [("status_purpose", status_purpose)] []

/-- `get_status_list_def`, lines 204–218 of `status_list_definition.py`. -/
def getStatusListDef (txn : Store) (id : String) : SearchResponse StatusListDefinition :=
  readRecord txn id

/-- `get_status_lists`, lines 161–184 of `status_list.py`. -/
def getStatusLists (txn : Store) (id definition_id : Option String) :
    SearchResponse StatusList :=
  searchRecords txn id [("definition_id", definition_id)] []

/-- `get_status_list`, lines 194–208 of `status_list.py`. -/
def getStatusList (txn : Store) (id : String) : SearchResponse StatusList :=
  readRecord txn id

/-- `get_status_list_entries`, lines 208–234 of `status_list_entry.py`: the path's
`status_list_id` joins the filter after the `sequence` parameter, and is not read when an
`entry_id` is given. -/
def getStatusListEntries (txn : Store) (status_list_id : String)
    (entry_id sequence : Option String) : SearchResponse StatusListEntry :=
  searchRecords txn entry_id [("sequence", sequence)] [("status_list_id", status_list_id)]

/-! ## The filters -/

/-- Without an `entry_id` or a `sequence`, the search returns the list's entries in table
order. -/
theorem getStatusListEntries_untagged {txn : Store} {status_list_id : String}
    {entry_id sequence : Option String} (noEntryId : truthy entry_id = none)
    (untagged : truthy sequence = none) :
    getStatusListEntries txn status_list_id entry_id sequence =
      serializeAll (txn.entries.filter (·.status_list_id == status_list_id)) := by
  simp only [getStatusListEntries, searchRecords, noEntryId, untagged, BaseRecord.query,
    table_entries, List.filterMap_cons, Option.map_none', List.filterMap_nil, List.nil_append]
  congr 1
  exact List.filter_congr fun entry _ => Bool.eq_iff_iff.mpr (by simp)

/-- With a `sequence` tag and no `entry_id`, the search returns the list's entries with that
tag. -/
theorem getStatusListEntries_tagged {txn : Store} {status_list_id tag : String}
    {entry_id sequence : Option String} (noEntryId : truthy entry_id = none)
    (tagged : truthy sequence = some tag) :
    getStatusListEntries txn status_list_id entry_id sequence =
      serializeAll ((txn.entries.filter (·.status_list_id == status_list_id)).filter
        (·.sequence == tag)) := by
  simp only [getStatusListEntries, searchRecords, noEntryId, tagged, BaseRecord.query,
    table_entries, List.filterMap_cons, Option.map_some', List.filterMap_nil, List.filter_filter]
  congr 1
  exact List.filter_congr fun entry _ => Bool.eq_iff_iff.mpr (by
    simp [BaseRecord.matchesFilter, StatusListEntry.tags, @eq_comm _ status_list_id,
      @eq_comm _ tag, and_comm])

end StatusListPlugin
