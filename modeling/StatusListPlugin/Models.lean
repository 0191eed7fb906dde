import StatusListPlugin.Decimal

/-!
# Records and the record store

The three record classes of `models.py` with the fields their `record_value` stores, the
tags their `TAG_NAMES` declare and what their schemas' `serialize()` checks, and the record
store the handlers run against: one table per record type, with the `BaseRecord` operations
`retrieve_by_id`, `query`, `retrieve_by_tag_filter`, `save` and `delete_record` (here
`retrieveById`, `retrieveByTagFilter` and `deleteRecord`). A store operation either gives the
new store or raises one of the storage errors. The records' fields keep the attribute names of
the source, which are also the keys of their stored values.
-/

namespace StatusListPlugin

/-- `StatusListDefinition`: the configuration of one status purpose. The sizes are kept as
the request body gave them, since `create_status_list_def` passes them through unchecked. -/
structure StatusListDefinition where
  id : String
  status_purpose : JsonValue
  status_size : JsonValue
  status_message : JsonValue
  list_size : JsonValue
  list_cursor : Option Int

/-- `StatusList`: one list of slots of a definition. -/
structure StatusList where
  id : String
  definition_id : String
  sequence : String
  list_size : Int
  entry_size : Int
  entry_cursor : Int
  deriving DecidableEq, Repr

/-- `StatusListEntry`: one slot of a status list. -/
structure StatusListEntry where
  id : String
  status_list_id : String
  sequence : String
  status : JsonValue
  is_assigned : Bool

/-- The identifier `f"{status_list_id}-{list_index}"` of the entry of a slot. -/
def entryId (statusListId : String) (listIndex : Int) : String :=
  statusListId ++ "-" ++ toString listIndex

/-- `StatusListEntry.index`: the text after the last `-` of the entry's id. -/
def StatusListEntry.index (entry : StatusListEntry) : Except PyError String :=
  afterLastDash entry.id

/-- The text form of `uuid.uuid4()`: 36 characters, lowercase hexadecimal digits in groups
of 8, 4, 4, 4 and 12 separated by dashes. -/
def isUuid (s : String) : Bool :=
  s.length == 36 && s.data.enum.all fun (position, c) =>
    if position ∈ [8, 13, 18, 23] then c == '-' else c.isDigit || ('a' ≤ c && c ≤ 'f')

theorem length_of_isUuid {s : String} (uuid : isUuid s = true) : s.length = 36 := by
  simp only [isUuid, Bool.and_eq_true, beq_iff_eq] at uuid
  exact uuid.1

theorem index_entryId (statusListId : String) (listIndex : Int) :
    afterLastDash (entryId statusListId listIndex) = .ok (toString listIndex.natAbs) :=
  afterLastDash_entryText statusListId listIndex

/-- With a positive step a slot is its own absolute value, so its index reads it back whole. -/
theorem toString_natAbs_of_mem_rangeValues {stop step i : Int} (positive : 0 < step)
    (member : i ∈ rangeValues 0 stop step) : toString i.natAbs = toString i := by
  rw [← toString_natCast, Int.natAbs_of_nonneg (nonneg_of_mem_rangeValues positive member)]

/-- Two entry identifiers built on equally long list identifiers agree only when both the
list and the slot agree. -/
theorem entryId_inj {s t : String} {i j : Int} (sameLength : s.length = t.length)
    (equal : entryId s i = entryId t j) : s = t ∧ i = j := by
  simp only [entryId, String.ext_iff, String.data_append, List.append_assoc] at equal
  have lengths : s.data.length = t.data.length := sameLength
  obtain ⟨prefixes, rest⟩ := List.append_inj equal lengths
  simp only [List.cons_append, List.nil_append, List.cons.injEq, true_and] at rest
  exact ⟨String.ext prefixes, toString_int_injective (String.ext rest)⟩

/-- Some order of a list's elements: what `random.shuffle` makes of a list, or the order in
which a store query returns its records. -/
structure Rearrangement (α : Type) where
  apply : List α → List α
  perm : ∀ items, (apply items).Perm items

/-- The order that keeps every list as it is. -/
def Rearrangement.identity (α : Type) : Rearrangement α := ⟨id, fun _ => List.Perm.refl _⟩

/-! ## Tags -/

/-- The texts askar stores for a tag value: a string, or each string of a list of strings. It
refuses any other value. -/
def JsonValue.tagTexts : JsonValue → Option (List String)
  | .str text => some [text]
  | .array items => items.mapM fun
      | .str text => some text
      | _ => none
  | _ => none

/-- The tags of a definition: `TAG_NAMES = {"status_purpose"}`, which `BaseRecord.tags` leaves
out when it is `None`. -/
def StatusListDefinition.tags (definition : StatusListDefinition) : List (String × String) :=
  (definition.status_purpose.tagTexts.getD []).map ("status_purpose", ·)

/-- Whether askar takes a definition's tags: a `status_purpose` that is neither `None`, a string
nor a list of strings makes `add_record` and `update_record` raise `StorageError`. -/
def StatusListDefinition.tagsAccepted (definition : StatusListDefinition) : Bool :=
  definition.status_purpose.isNone || definition.status_purpose.tagTexts.isSome

/-- The tags of a status list: `TAG_NAMES = {"definition_id", "sequence"}`. -/
def StatusList.tags (statusList : StatusList) : List (String × String) :=
  [("definition_id", statusList.definition_id), ("sequence", statusList.sequence)]

/-- The tags of an entry: `TAG_NAMES = {"status_list_id", "sequence"}`. -/
def StatusListEntry.tags (entry : StatusListEntry) : List (String × String) :=
  [("status_list_id", entry.status_list_id), ("sequence", entry.sequence)]

/-! ## Serialization -/

/-- `serialize()` of a definition: the schema dumps `status_size`, `status_message` and
`list_size` in that order; `status_purpose` as a string and `list_cursor` as an integer always
dump. -/
def StatusListDefinition.serialize (definition : StatusListDefinition) : Except PyError Unit := do
  definition.status_size.dumpInt
  definition.status_message.dumpDict
  definition.list_size.dumpInt

/-- `serialize()` of an entry: the schema dumps `status` with `fields.Int`; its other fields are
strings and a boolean. -/
def StatusListEntry.serialize (entry : StatusListEntry) : Except PyError Unit :=
  entry.status.dumpInt

theorem StatusListDefinition.not_storage_of_serialize {definition : StatusListDefinition}
    {cause : PyError} (failed : definition.serialize = .error cause) :
    cause.isStorageError = false := by
  simp only [StatusListDefinition.serialize, except_bind_eq_error] at failed
  rcases failed with failed | ⟨-, -, failed | ⟨-, -, failed⟩⟩
  · exact JsonValue.not_storage_of_dumpInt failed
  · exact JsonValue.not_storage_of_dumpDict failed
  · exact JsonValue.not_storage_of_dumpInt failed

/-! ## The store -/

/-- The record store: one table per record type, in insertion order. -/
structure Store where
  definitions : List StatusListDefinition
  lists : List StatusList
  entries : List StatusListEntry

/-- The store with no records. -/
def Store.empty : Store := ⟨[], [], []⟩

/-- What the store operations need of a record class: its id, its tags and whether askar takes
them, its `serialize()`, which raises marshmallow's and Python's own errors, never a storage
error, and its table. -/
class BaseRecord (α : Type) where
  recordId : α → String
  tags : α → List (String × String)
  tagsAccepted : α → Bool
  serialize : α → Except PyError Unit
  serialize_not_storage : ∀ record cause, serialize record = .error cause →
    cause.isStorageError = false
  table : Store → List α
  setTable : Store → List α → Store

instance : BaseRecord StatusListDefinition where
  recordId := StatusListDefinition.id
  tags := StatusListDefinition.tags
  tagsAccepted := StatusListDefinition.tagsAccepted
  serialize := StatusListDefinition.serialize
  serialize_not_storage _ _ := StatusListDefinition.not_storage_of_serialize
  table := Store.definitions
  setTable store definitions := { store with definitions }

/-- A status list's tags are strings, and its schema dumps only strings and integers, which its
fields are. -/
instance : BaseRecord StatusList where
  recordId := StatusList.id
  tags := StatusList.tags
  tagsAccepted _ := true
  serialize _ := pure ()
  serialize_not_storage _ _ failed := nomatch failed
  table := Store.lists
  setTable store lists := { store with lists }

instance : BaseRecord StatusListEntry where
  recordId := StatusListEntry.id
  tags := StatusListEntry.tags
  tagsAccepted _ := true
  serialize := StatusListEntry.serialize
  serialize_not_storage _ _ := JsonValue.not_storage_of_dumpInt
  table := Store.entries
  setTable store entries := { store with entries }

namespace BaseRecord

variable {α : Type} [BaseRecord α]

/-- A tag filter matches a record when each of its pairs is one of the record's tags. -/
def matchesFilter (filter : List (String × String)) (record : α) : Bool :=
  filter.all fun tag => tag ∈ tags record

/-- `retrieve_by_id(session, record_id)`: the record with that id. -/
def retrieveById (txn : Store) (key : String) : Except PyError α :=
  match (table txn).find? (recordId · == key) with
  | some record => pure record
  | none => throw .storageNotFound

/-- `query(session, tag_filter)`: the records the filter matches. -/
def query (txn : Store) (filter : List (String × String)) : List α :=
  (table txn).filter (matchesFilter filter)

/-- `retrieve_by_tag_filter(session, tag_filter)`: the one record the filter matches; none
raises `StorageNotFoundError` and more than one `StorageDuplicateError`. -/
def retrieveByTagFilter (txn : Store) (filter : List (String × String)) : Except PyError α :=
  match query txn filter with
  | [record] => pure record
  | [] => throw .storageNotFound
  | _ => throw .storageDuplicate

/-- Whether the table holds a record with this id. -/
def stored (txn : Store) (key : String) : Bool :=
  (table txn : List α).any (recordId · == key)

/-- The write of `save` for a new record, `add_record`: tags askar refuses raise
`StorageError`, and an id already taken `StorageDuplicateError`. -/
def add (txn : Store) (record : α) : Except PyError Store :=
  if !tagsAccepted record then throw (.storageError "Error when adding storage record")
  else if stored (α := α) txn (recordId record) then throw .storageDuplicate
  else pure (setTable txn (table txn ++ [record]))

/-- The write of `save` for a retrieved record, `update_record`: tags askar refuses raise
`StorageError`; otherwise the record replaces the one with its id. -/
def update (txn : Store) (record : α) : Except PyError Store :=
  if !tagsAccepted record then throw (.storageError "Error when updating storage record value")
  else if stored (α := α) txn (recordId record) then
    pure (setTable txn ((table txn).map fun (old : α) => if recordId old == recordId record then record else old))
  else throw .storageNotFound

/-- `save(session)`: the write (`add` or `update`), then `serialize()` in the `finally` that
follows it, which runs whether or not the write raised and whose exception replaces the
write's. The store the session holds afterwards, where a write that went through stays even
when `save` raises, and what `save` raised. -/
def save (txn : Store) (write : Store → α → Except PyError Store) (record : α) :
    Store × Except PyError Unit :=
  match write txn record with
  | .ok written => (written, serialize record)
  | .error cause => (txn, serialize record *> throw cause)

/-- `save(txn)` inside a transaction, whose writes an exception discards: the store it leaves
when it returns. -/
def saveTxn (txn : Store) (write : Store → α → Except PyError Store) (record : α) :
    Except PyError Store :=
  (save txn write record).2.map fun _ => (save txn write record).1

/-- `delete_record(session)`: the record with this id leaves the table. -/
def deleteRecord (txn : Store) (record : α) : Except PyError Store :=
  if stored (α := α) txn (recordId record) then
    pure (setTable txn ((table txn).filter fun (old : α) => recordId old != recordId record))
  else throw .storageNotFound

end BaseRecord

/-! ## Responses -/

/-- What a request handler answers: the JSON it returns, or the HTTP error it raises, with the
exception behind the error. An exception no handler catches is a server error. -/
inductive Response
  | definition (record : StatusListDefinition)
  | entry (status_list_id entry_index : String) (entry_status : JsonValue)
  | record (record : StatusListEntry)
  | statusList (record : StatusList)
  | deleted (id : String)
  | inUse (error : String)
  | badRequest (cause : PyError)
  | notFound (cause : PyError)
  | serverError (cause : PyError)

/-- `except (StorageError, BaseModelError): raise web.HTTPBadRequest`; any other exception
is not caught. -/
def badRequestOnStorage (cause : PyError) : Response :=
  if cause.isStorageError then .badRequest cause else .serverError cause

/-- `except StorageNotFoundError: raise web.HTTPNotFound`, then as `badRequestOnStorage`. -/
def notFoundOrBadRequest : PyError → Response
  | .storageNotFound => .notFound .storageNotFound
  | cause => badRequestOnStorage cause

/-- The slot `(status_list_id, entry_index)` a response hands out. -/
def Response.slot? : Response → Option (String × String)
  | .entry status_list_id entry_index _ => some (status_list_id, entry_index)
  | _ => none

theorem badRequestOnStorage_ne_definition (cause : PyError) (record : StatusListDefinition) :
    badRequestOnStorage cause ≠ .definition record := by
  unfold badRequestOnStorage
  split <;> simp

@[simp] theorem slot?_badRequestOnStorage (cause : PyError) :
    (badRequestOnStorage cause).slot? = none := by
  unfold badRequestOnStorage
  split <;> rfl

@[simp] theorem slot?_notFoundOrBadRequest (cause : PyError) :
    (notFoundOrBadRequest cause).slot? = none := by
  unfold notFoundOrBadRequest
  split
  · rfl
  · exact slot?_badRequestOnStorage _

/-- The record id a request value names, as `get_record` checks it: a missing or empty id
raises `StorageError`, and a value that is not a string names no record. -/
def JsonValue.recordKey : JsonValue → Except PyError String
  | .str key => if key = "" then throw (.storageError "Record ID not provided") else pure key
  | .null => throw (.storageError "Record ID not provided")
  | _ => throw .typeError

theorem JsonValue.recordKey_str {key : String} (nonempty : key ≠ "") :
    (JsonValue.str key).recordKey = .ok key := by
  simp [JsonValue.recordKey, nonempty]

theorem JsonValue.recordKey_eq_ok {value : JsonValue} {key : String}
    (named : value.recordKey = .ok key) : value = .str key ∧ key ≠ "" := by
  unfold JsonValue.recordKey at named
  split at named
  · split at named
    · cases named
    · cases named
      exact ⟨rfl, ‹_›⟩
  · cases named
  · cases named

end StatusListPlugin
