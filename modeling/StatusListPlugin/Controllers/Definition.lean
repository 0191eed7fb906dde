import StatusListPlugin.Storage

/-!
# The status list definition controller

`create_status_list_def`, `update_status_list_def` and `delete_status_list_def` of
`status_list_definition.py`. The creation handler checks only that the fields it needs are
present; the sizes go into the record as the body gave them, and only the `serialize()` of
`save` looks at them, after the record is stored. The update handler sets the fields the body
names. The deletion handler refuses a definition that still has status lists.
-/

namespace StatusListPlugin

/-- The values `create_status_list_def` takes from a request body for its new record. -/
structure DefinitionFields where
  status_purpose : JsonValue
  status_size : JsonValue
  status_message : JsonValue
  list_size : JsonValue

/-- `if value is None: raise ValueError(message)`, the presence check of lines 91, 95 and
100. -/
def requireValue (value : JsonValue) (message : String) : Except PyError Unit :=
  if value.isNone then throw (.valueError message) else pure ()

/-- Lines 98–103: the status message, read and required when `status_size > 1`. A
`status_size` that does not compare with `1` raises `TypeError`. -/
def statusMessageOf (body statusSize : JsonValue) : Except PyError JsonValue := do
  if ← statusSize.gtOne then
    let statusMessage ← body.get "status_message"
    requireValue statusMessage "status_message is required."
    pure statusMessage
  else pure .null

/-- Lines 105–106: a `message` purpose needs a status message. -/
def requireMessageFor (statusPurpose statusMessage : JsonValue) : Except PyError Unit :=
  if statusPurpose.isMessage && statusMessage.isNone then
    throw (.valueError "status_message is required.")
  else pure ()

/-- Lines 90–108 of `create_status_list_def`: the values read from the body, with the checks
between them. -/
def definitionFields (body : JsonValue) : Except PyError DefinitionFields := do
  let statusPurpose ← body.get "status_purpose"
  requireValue statusPurpose "status_purpose is required."
  let statusSize ← body.get "status_size"
  requireValue statusSize "status_size is required."
  let statusMessage ← statusMessageOf body statusSize
  requireMessageFor statusPurpose statusMessage
  let listSize ← body.get "list_size"
  pure ⟨statusPurpose, statusSize, statusMessage, listSize⟩

/-- Lines 110–115: the new record, saved under the uuid `uid`; `list_cursor` keeps its
default `None`. -/
def DefinitionFields.record (fields : DefinitionFields) (uid : String) : StatusListDefinition :=
  { id := uid, status_purpose := fields.status_purpose, status_size := fields.status_size,
    status_message := fields.status_message, list_size := fields.list_size, list_cursor := none }

/-- `create_status_list_def`: the checks run before the handler's `try`, so their exceptions
are not caught; the storage errors of the `save` of the new record are. An exception of the
`serialize()` in `save`'s `finally` is not one of them: the record stays stored and the
handler answers `500`. The `serialize()` of the answer repeats that one and cannot raise after
it. -/
def createStatusListDef (txn : Store) (body : JsonValue) (uid : String) : Store × Response :=
  match definitionFields body with
  | .error cause => (txn, .serverError cause)
  | .ok fields =>
      match BaseRecord.save txn BaseRecord.add (fields.record uid) with
      | (saved, .ok ()) => (saved, .definition (fields.record uid))
      | (saved, .error cause) => (saved, badRequestOnStorage cause)

/-- An item of an `update_status_list_def` body whose key names a field of the definition and
whose value has that field's type: `setattr` sets the field, and `id`, a property without a
setter, raises `AttributeError`. -/
inductive DefinitionSetting
  | status_purpose (value : JsonValue)
  | status_size (value : JsonValue)
  | status_message (value : JsonValue)
  | list_size (value : JsonValue)
  | list_cursor (value : Option Int)
  | id (value : JsonValue)

/-- `setattr(record, attr, value)` on a definition. -/
def DefinitionSetting.setattr (record : StatusListDefinition) :
    DefinitionSetting → Except PyError StatusListDefinition
  | .status_purpose value => pure { record with status_purpose := value }
  | .status_size value => pure { record with status_size := value }
  | .status_message value => pure { record with status_message := value }
  | .list_size value => pure { record with list_size := value }
  | .list_cursor value => pure { record with list_cursor := value }
  | .id _ => throw .attributeError

/-- `update_status_list_def`, lines 229–250. -/
def updateStatusListDef (txn : Store) (id : String) (body : List DefinitionSetting) :
    Store × Response :=
  patchRecord DefinitionSetting.setattr .definition txn id body

/-- The deletion of `delete_status_list_def` once no status list uses the definition. -/
def deleteDefinitionRecord (txn : Store) (id : String) : Except PyError Store := do
  let key ← (JsonValue.str id).recordKey
  let record : StatusListDefinition ← BaseRecord.retrieveById txn key
  BaseRecord.deleteRecord txn record

/-- `delete_status_list_def`: a definition that some status list names is kept. -/
def deleteStatusListDef (txn : Store) (id : String) : Store × Response :=
  if (BaseRecord.query txn [("definition_id", id)] : List StatusList).isEmpty then
    match deleteDefinitionRecord txn id with
    | .ok deleted => (deleted, .deleted id)
    | .error cause => (txn, notFoundOrBadRequest cause)
  else (txn, .inUse "status list definition is in use and cannot be deleted")

/-! ## What the handlers leave -/

theorem requireValue_eq_ok {value : JsonValue} {message : String} {result : Unit} :
    requireValue value message = .ok result ↔ value.isNone = false := by
  unfold requireValue
  split <;> simp_all

/-- What a body `create_status_list_def` reads its fields from without raising gives. -/
theorem definitionFields_eq_ok {body : JsonValue} {fields : DefinitionFields}
    (read : definitionFields body = .ok fields) :
    body.get "status_purpose" = .ok fields.status_purpose ∧
      fields.status_purpose.isNone = false ∧
      body.get "status_size" = .ok fields.status_size ∧ fields.status_size.isNone = false ∧
      statusMessageOf body fields.status_size = .ok fields.status_message ∧
      body.get "list_size" = .ok fields.list_size := by
  simp only [definitionFields, except_bind_eq_ok] at read
  obtain ⟨purpose, purposeOk, _, purposeGiven, size, sizeOk, _, sizeGiven, message, messageOk,
    -, -, listSize, listSizeOk, done⟩ := read
  cases done
  exact ⟨purposeOk, requireValue_eq_ok.mp purposeGiven, sizeOk, requireValue_eq_ok.mp sizeGiven,
    messageOk, listSizeOk⟩

/-- The store `create_status_list_def` leaves: the old one, or the old one with the new record
added. -/
theorem createStatusListDef_store (txn : Store) (body : JsonValue) (uid : String) :
    (createStatusListDef txn body uid).1 = txn ∨
      ∃ fields, definitionFields body = .ok fields ∧
        BaseRecord.add txn (fields.record uid) = .ok (createStatusListDef txn body uid).1 := by
  unfold createStatusListDef
  split
  · exact .inl rfl
  · rename_i fields fieldsOk
    cases added : BaseRecord.add txn (fields.record uid) with
    | error cause =>
        left
        have kept := BaseRecord.save_of_error added
        split <;> simp_all
    | ok saved =>
        right
        rw [BaseRecord.save_of_ok added]
        split <;> simp_all

theorem deleteDefinitionRecord_eq_ok {txn txn' : Store} {id : String}
    (deleted : deleteDefinitionRecord txn id = .ok txn') :
    txn' = { txn with definitions := txn.definitions.filter fun old => old.id != id } := by
  obtain ⟨key, keyOk, deleted⟩ := except_bind_eq_ok.mp deleted
  obtain ⟨record, retrieved, deletedRecord⟩ := except_bind_eq_ok.mp deleted
  obtain ⟨keyValue, -⟩ := JsonValue.recordKey_eq_ok keyOk
  cases keyValue
  obtain ⟨-, rfl⟩ := BaseRecord.retrieveById_eq_ok retrieved
  obtain ⟨-, rfl⟩ := BaseRecord.deleteRecord_eq_ok.mp deletedRecord
  simp

/-- The store `delete_status_list_def` leaves: the old one, or, when no status list names the
definition, the old one without it. -/
theorem deleteStatusListDef_store (txn : Store) (id : String) :
    (deleteStatusListDef txn id).1 = txn ∨
      ((∀ statusList ∈ txn.lists, statusList.definition_id ≠ id) ∧
        (deleteStatusListDef txn id).1 =
          { txn with definitions := txn.definitions.filter fun old => old.id != id }) := by
  unfold deleteStatusListDef
  split
  · rename_i unused
    split
    · rename_i deleted deletedOk
      refine .inr ⟨fun statusList member named => ?_, deleteDefinitionRecord_eq_ok deletedOk⟩
      have listed : statusList ∈ (BaseRecord.query txn [("definition_id", id)] : List StatusList) :=
        BaseRecord.mem_query.mpr ⟨member, by simpa using named⟩
      simp_all
    · exact .inl rfl
  · exact .inl rfl

end StatusListPlugin
