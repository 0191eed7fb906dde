import StatusListPlugin.Allocator

/-!
# Allocations that overlap

`create_status_list_entry` runs its store operations in a transaction of its own inside
`with threading.Lock()`. That lock is built afresh on every call, so no two requests ever wait
for each other. This module models requests in flight together. Each transaction keeps the
records it saved; every phase reads the committed store with those writes on top; its commit
writes them over the committed store, a later commit over an earlier one. A step of a request
is one phase of the handler (the read of the definition, the read of the current list, the
creation of a new list, the assignment of an entry, the save of the list) or its commit, and a
scheduler picks the request that takes the next step.

Requests whose transactions run one at a time do what the handler model does (the module
`Serial`). Two requests that make all their reads before either
commits, in any order, both hand out a slot, and either the same slot or two lists with the
same definition and sequence (`overlapping_allocations_conflict`).
-/

namespace StatusListPlugin

/-! ## Writes -/

/-- A record a transaction saved. -/
inductive Saved
  | definition (record : StatusListDefinition)
  | list (record : StatusList)
  | entry (record : StatusListEntry)

namespace BaseRecord

variable {α : Type} [BaseRecord α] {txn txn' : Store} {record : α}

/-- The record written over its table: it takes the place of the record with its id, or joins
the table. -/
def put (txn : Store) (record : α) : Store :=
  if stored (α := α) txn (recordId record) then
    setTable txn ((table txn).map fun (old : α) =>
      if recordId old == recordId record then record else old)
  else setTable txn (table txn ++ [record])

theorem saveTxn_add_eq_put (added : saveTxn txn add record = .ok txn') : txn' = put txn record := by
  obtain ⟨-, fresh, rfl⟩ := add_eq_ok.mp (saveTxn_eq_ok.mp added).1
  simp [put, fresh]

theorem saveTxn_update_eq_put (updated : saveTxn txn update record = .ok txn') :
    txn' = put txn record := by
  obtain ⟨-, present, rfl⟩ := update_eq_ok.mp (saveTxn_eq_ok.mp updated).1
  simp [put, present]

end BaseRecord

@[simp] theorem lists_put_definition (txn : Store) (definition : StatusListDefinition) :
    (BaseRecord.put txn definition).lists = txn.lists := by
  unfold BaseRecord.put
  split <;> rfl

@[simp] theorem lists_put_entry (txn : Store) (entry : StatusListEntry) :
    (BaseRecord.put txn entry).lists = txn.lists := by
  unfold BaseRecord.put
  split <;> rfl

theorem mem_put_lists (txn : Store) (statusList : StatusList) :
    statusList ∈ (BaseRecord.put txn statusList).lists := by
  unfold BaseRecord.put
  split
  · rename_i present
    obtain ⟨old, member, same⟩ := List.any_eq_true.mp present
    exact List.mem_map.mpr ⟨old, member, by simp_all⟩
  · simp

theorem mem_put_lists_of_ne {txn : Store} {old statusList : StatusList} (member : old ∈ txn.lists)
    (other : statusList.id ≠ old.id) : old ∈ (BaseRecord.put txn statusList).lists := by
  unfold BaseRecord.put
  split
  · exact List.mem_map.mpr ⟨old, member, by simp [Ne.symm other]⟩
  · simp [member]

/-- A saved record written over the store. -/
def Saved.put (txn : Store) : Saved → Store
  | .definition record => BaseRecord.put txn record
  | .list record => BaseRecord.put txn record
  | .entry record => BaseRecord.put txn record

/-- The store with the writes on top, each written over the ones before it. -/
def Store.overlay (txn : Store) (writes : List Saved) : Store :=
  writes.foldl Saved.put txn

namespace Store

@[simp] theorem overlay_nil (txn : Store) : txn.overlay [] = txn := rfl

@[simp] theorem overlay_cons (txn : Store) (saved : Saved) (writes : List Saved) :
    txn.overlay (saved :: writes) = (Saved.put txn saved).overlay writes := rfl

@[simp] theorem overlay_append (txn : Store) (first second : List Saved) :
    txn.overlay (first ++ second) = (txn.overlay first).overlay second :=
  List.foldl_append _ _ _ _

/-- A list that no write replaces stays in the store. -/
theorem mem_overlay_lists {txn : Store} {statusList : StatusList} {writes : List Saved}
    (member : statusList ∈ txn.lists)
    (untouched : ∀ other, Saved.list other ∈ writes → other.id ≠ statusList.id) :
    statusList ∈ (txn.overlay writes).lists := by
  induction writes generalizing txn with
  | nil => exact member
  | cons saved writes inductionHypothesis =>
      refine inductionHypothesis ?_ fun other listed => untouched other (.tail _ listed)
      cases saved with
      | definition record => simpa [Saved.put] using member
      | list record => exact mem_put_lists_of_ne member (untouched record (.head _))
      | entry record => simpa [Saved.put] using member

/-- The list written last is in the store. -/
theorem mem_overlay_last_list (txn : Store) (writes : List Saved) (statusList : StatusList) :
    statusList ∈ (txn.overlay (writes ++ [.list statusList])).lists := by
  simpa [Saved.put] using mem_put_lists (txn.overlay writes) statusList

end Store

/-! ## The records each phase saves -/

/-- The records `newStatusList` saves, in order: the definition with its `list_cursor`
advanced, the new list, and its entries. -/
def createdRecords (definition : StatusListDefinition) (shuffle : Rearrangement Int)
    (statusList : StatusList) : List Saved :=
  .definition (advanceListCursor definition) :: .list statusList ::
    (slotEntries statusList.id
      (shuffle.apply (rangeValues 0 statusList.list_size statusList.entry_size))).map .entry

/-- The records `workingStatusList` saves: those of the new list, when it creates one. -/
def workingRecords (definition : StatusListDefinition) (shuffle : Rearrangement Int)
    (statusList : StatusList) : Option StatusList → List Saved
  | none => createdRecords definition shuffle statusList
  | some current =>
      if current.entry_cursor ≥ current.list_size then
        createdRecords definition shuffle statusList
      else []

theorem addEntries_eq_overlay {txn txn' : Store} {entries : List StatusListEntry}
    (added : addEntries txn entries = .ok txn') : txn' = txn.overlay (entries.map .entry) := by
  induction entries generalizing txn with
  | nil =>
      cases added
      rfl
  | cons entry rest inductionHypothesis =>
      obtain ⟨mid, addedOne, addedRest⟩ := except_bind_eq_ok.mp added
      rw [inductionHypothesis addedRest, BaseRecord.saveTxn_add_eq_put addedOne]
      rfl

theorem newStatusList_eq_overlay {txn txn' : Store} {definition : StatusListDefinition}
    {uid : String} {shuffle : Rearrangement Int} {statusList : StatusList}
    (created : newStatusList txn definition uid shuffle = .ok (txn', statusList)) :
    txn' = txn.overlay (createdRecords definition shuffle statusList) := by
  simp only [newStatusList, except_bind_eq_ok] at created
  obtain ⟨saved, savedDefinition, listSize, -, entrySize, -, entryList, ranged, added, addedList,
    withEntries, addedEntries, done⟩ := created
  cases done
  obtain ⟨-, -, rfl⟩ := range_eq_ok.mp ranged
  rw [addEntries_eq_overlay addedEntries, BaseRecord.saveTxn_add_eq_put addedList,
    BaseRecord.saveTxn_update_eq_put savedDefinition]
  rfl

theorem workingStatusList_eq_overlay {txn txn' : Store} {definition : StatusListDefinition}
    {uid : String} {shuffle : Rearrangement Int} {current : Option StatusList}
    {working : StatusList}
    (worked : workingStatusList txn definition uid shuffle current = .ok (txn', working)) :
    txn' = txn.overlay (workingRecords definition shuffle working current) := by
  cases current with
  | none => exact newStatusList_eq_overlay worked
  | some statusList =>
      simp only [workingStatusList] at worked
      simp only [workingRecords]
      split at worked
      · rw [if_pos ‹_›]
        exact newStatusList_eq_overlay worked
      · rw [if_neg ‹_›]
        cases worked
        rfl

theorem assignEntry_eq_overlay {txn txn' : Store} {statusList : StatusList}
    {entry : StatusListEntry} (assigned : assignEntry txn statusList = .ok (txn', entry)) :
    txn' = txn.overlay [.entry entry] := by
  simp only [assignEntry, except_bind_eq_ok] at assigned
  obtain ⟨found, -, saved, updated, done⟩ := assigned
  cases done
  exact BaseRecord.saveTxn_update_eq_put updated

/-- The only list a working phase saves is the working list. -/
theorem eq_of_list_mem_workingRecords {definition : StatusListDefinition}
    {shuffle : Rearrangement Int} {working other : StatusList} {current : Option StatusList}
    (member : Saved.list other ∈ workingRecords definition shuffle working current) :
    other = working := by
  have created : Saved.list other ∈ createdRecords definition shuffle working → other = working :=
    fun member => by simpa [createdRecords] using member
  cases current with
  | none => exact created member
  | some statusList =>
      simp only [workingRecords] at member
      split at member
      · exact created member
      · cases member

/-- Lines 159–163: the response built from the list and the assigned entry after the commit. -/
def entryResponse (statusList : StatusList) (entry : StatusListEntry) : Response :=
  match entry.index with
  | .ok index => .entry statusList.id index entry.status
  | .error cause => .serverError cause

theorem createStatusListEntry_of_ok {txn txn' : Store} {body : JsonValue} {uid : String}
    {shuffle : Rearrangement Int} {statusList : StatusList} {entry : StatusListEntry}
    (committed : createStatusListEntryTxn txn body uid shuffle = .ok (txn', statusList, entry)) :
    createStatusListEntry txn body uid shuffle = (txn', entryResponse statusList entry) := by
  simp only [createStatusListEntry, committed, entryResponse]
  cases entry.index <;> rfl

theorem createStatusListEntry_of_error {txn : Store} {body : JsonValue} {uid : String}
    {shuffle : Rearrangement Int} {cause : PyError}
    (failed : createStatusListEntryTxn txn body uid shuffle = .error cause) :
    createStatusListEntry txn body uid shuffle = (txn, badRequestOnStorage cause) := by
  simp only [createStatusListEntry, failed]

/-! ## Two transactions on one store -/

/-- While the definition's current list has room, the transaction reads neither its uuid nor
its shuffle. -/
theorem createStatusListEntryTxn_of_room {txn : Store} {body value : JsonValue}
    {definitionId : String} {definition : StatusListDefinition} {statusList : StatusList}
    (bodyOk : body.get "definition_id" = .ok value) (keyOk : value.recordKey = .ok definitionId)
    (retrieved : BaseRecord.retrieveById txn definitionId = .ok definition)
    (currentOk : currentStatusList txn definitionId definition.list_cursor = .ok (some statusList))
    (room : statusList.entry_cursor < statusList.list_size) (uid₀ uid₁ : String)
    (shuffle₀ shuffle₁ : Rearrangement Int) :
    createStatusListEntryTxn txn body uid₀ shuffle₀ =
      createStatusListEntryTxn txn body uid₁ shuffle₁ := by
  simp only [createStatusListEntryTxn, bodyOk, keyOk, retrieved, currentOk,
    workingStatusList_of_room room, except_ok_bind]

/-- Two transactions on the same store and body either assign the same entry of the same list,
or both create a list, each under its own uuid, for the same definition at the same
sequence. -/
theorem createStatusListEntryTxn_overlap {txn txn₀ txn₁ : Store} {body : JsonValue}
    {uid₀ uid₁ : String} {shuffle₀ shuffle₁ : Rearrangement Int}
    {statusList₀ statusList₁ : StatusList} {entry₀ entry₁ : StatusListEntry}
    (allocated₀ : createStatusListEntryTxn txn body uid₀ shuffle₀ =
      .ok (txn₀, statusList₀, entry₀))
    (allocated₁ : createStatusListEntryTxn txn body uid₁ shuffle₁ =
      .ok (txn₁, statusList₁, entry₁)) :
    (statusList₀ = statusList₁ ∧ entry₀ = entry₁) ∨
      (statusList₀.id = uid₀ ∧ statusList₁.id = uid₁ ∧
        statusList₀.definition_id = statusList₁.definition_id ∧
        statusList₀.sequence = statusList₁.sequence) := by
  have same : createStatusListEntryTxn txn body uid₀ shuffle₀ =
      createStatusListEntryTxn txn body uid₁ shuffle₁ →
      statusList₀ = statusList₁ ∧ entry₀ = entry₁ := fun same => by
    rw [allocated₀, allocated₁] at same
    cases same
    exact ⟨rfl, rfl⟩
  have phases₀ := allocated₀
  have phases₁ := allocated₁
  simp only [createStatusListEntryTxn, except_bind_eq_ok] at phases₀ phases₁
  obtain ⟨value, bodyOk, definitionId, keyOk, definition, retrieved, current, currentOk,
    ⟨mid₀, working₀⟩, worked₀, _, -, _, -, done₀⟩ := phases₀
  obtain ⟨value', bodyOk', definitionId', keyOk', definition', retrieved', current', currentOk',
    ⟨mid₁, working₁⟩, worked₁, _, -, _, -, done₁⟩ := phases₁
  cases bodyOk.symm.trans bodyOk'
  cases keyOk.symm.trans keyOk'
  cases retrieved.symm.trans retrieved'
  cases currentOk.symm.trans currentOk'
  rcases workingStatusList_eq_ok worked₀ with ⟨-, rfl, room⟩ | created₀
  · exact .inl (same (createStatusListEntryTxn_of_room bodyOk keyOk retrieved currentOk room
      uid₀ uid₁ shuffle₀ shuffle₁))
  rcases workingStatusList_eq_ok worked₁ with ⟨-, rfl, room⟩ | created₁
  · exact .inl (same (createStatusListEntryTxn_of_room bodyOk keyOk retrieved currentOk room
      uid₀ uid₁ shuffle₀ shuffle₁))
  cases done₀
  cases done₁
  exact .inr ⟨created₀.id_eq, created₁.id_eq,
    created₀.definition_id_eq.trans created₁.definition_id_eq.symm,
    created₀.sequence_eq.trans created₁.sequence_eq.symm⟩

/-! ## Requests in flight -/

theorem slot?_entryResponse {statusList : StatusList} {entry : StatusListEntry} {index : String}
    (indexed : entry.index = .ok index) :
    (entryResponse statusList entry).slot? = some (statusList.id, index) := by
  simp [entryResponse, indexed, Response.slot?]

/-- Where a request's transaction stands: the values the handler holds between two phases, or
the response once it answered. -/
inductive Stage
  | start
  | retrieved (definitionId : String) (definition : StatusListDefinition)
  | loaded (definition : StatusListDefinition) (current : Option StatusList)
  | working (statusList : StatusList)
  | assigned (statusList : StatusList) (entry : StatusListEntry)
  | saved (statusList : StatusList) (entry : StatusListEntry)
  | answered (response : Response)

/-- The phases a stage has left before the commit. -/
def Stage.pending : Stage → Nat
  | .start => 5
  | .retrieved .. => 4
  | .loaded .. => 3
  | .working _ => 2
  | .assigned .. => 1
  | .saved .. => 0
  | .answered _ => 0

/-- A `create_status_list_entry` request in flight: its body, the uuid and shuffle of the list it
creates if it has to, the records its transaction saved so far, and its stage. -/
structure EntryTransaction where
  body : JsonValue
  uid : String
  shuffle : Rearrangement Int
  writes : List Saved
  stage : Stage

namespace EntryTransaction

/-- A request that has not yet begun. -/
def fresh (body : JsonValue) (uid : String) (shuffle : Rearrangement Int) : EntryTransaction :=
  ⟨body, uid, shuffle, [], .start⟩

/-- The store operations of one phase on the transaction's view: the records they save and the
next stage. Each phase is the code of the handler model, lines 89–154. -/
def phase (txn : EntryTransaction) (view : Store) : Stage → Except PyError (List Saved × Stage)
  | .start => do
      let definitionId ← (← txn.body.get "definition_id").recordKey
      let definition : StatusListDefinition ← BaseRecord.retrieveById view definitionId
      pure ([], .retrieved definitionId definition)
  | .retrieved definitionId definition => do
      let current ← currentStatusList view definitionId definition.list_cursor
      pure ([], .loaded definition current)
  | .loaded definition current => do
      let (_, statusList) ← workingStatusList view definition txn.uid txn.shuffle current
      pure (workingRecords definition txn.shuffle statusList current, .working statusList)
  | .working statusList => do
      let (_, entry) ← assignEntry view statusList
      pure ([.entry entry], .assigned statusList entry)
  | .assigned statusList entry => do
      let _ ← BaseRecord.saveTxn view BaseRecord.update (advanceCursor statusList)
      pure ([.list (advanceCursor statusList)], .saved (advanceCursor statusList) entry)
  | stage => pure ([], stage)

/-- The transaction after a phase: with its new writes and stage, or, when the phase raised,
rolled back and answered as the handler answers. -/
def proceed (txn : EntryTransaction) : Except PyError (List Saved × Stage) → EntryTransaction
  | .error cause => { txn with writes := [], stage := .answered (badRequestOnStorage cause) }
  | .ok (saved, next) => { txn with writes := txn.writes ++ saved, stage := next }

/-- The next step of the request on the committed store: its next phase, on the committed
store with its own writes on top; its commit, which writes them over the committed store; or
nothing once it answered. -/
def step (committed : Store) (txn : EntryTransaction) : Store × EntryTransaction :=
  match txn.stage with
  | .saved statusList entry =>
      (committed.overlay txn.writes,
        { txn with writes := [], stage := .answered (entryResponse statusList entry) })
  | .answered _ => (committed, txn)
  | stage => (committed, txn.proceed (txn.phase (committed.overlay txn.writes) stage))

/-- The request after its next step. -/
def advance (committed : Store) (txn : EntryTransaction) : EntryTransaction :=
  (txn.step committed).2

/-- The slot the request was answered with. -/
def slot? (txn : EntryTransaction) : Option (String × String) :=
  match txn.stage with
  | .answered response => response.slot?
  | _ => none

/-- The request takes its next `n` steps without committing: it has that many phases left, or
it answered. -/
def Reads (n : Nat) (txn : EntryTransaction) : Prop :=
  n ≤ txn.stage.pending ∨ ∃ response, txn.stage = .answered response

theorem step_of_pending {committed : Store} {txn : EntryTransaction}
    (pending : 0 < txn.stage.pending) :
    txn.step committed =
      (committed, txn.proceed (txn.phase (committed.overlay txn.writes) txn.stage)) := by
  rcases txn with ⟨body, uid, shuffle, writes, stage⟩
  cases stage <;> first | rfl | simp [Stage.pending] at pending

theorem pending_of_phase {txn : EntryTransaction} {view : Store} {stage next : Stage}
    {saved : List Saved} (pending : 0 < stage.pending)
    (ran : txn.phase view stage = .ok (saved, next)) : next.pending + 1 = stage.pending := by
  cases stage with
  | start =>
      simp only [phase, except_bind_eq_ok] at ran
      obtain ⟨_, -, _, -, _, -, ran⟩ := ran
      cases ran
      rfl
  | retrieved definitionId definition =>
      obtain ⟨_, -, ran⟩ := except_bind_eq_ok.mp ran
      cases ran
      rfl
  | loaded definition current =>
      obtain ⟨_, -, ran⟩ := except_bind_eq_ok.mp ran
      cases ran
      rfl
  | working statusList =>
      obtain ⟨_, -, ran⟩ := except_bind_eq_ok.mp ran
      cases ran
      rfl
  | assigned statusList entry =>
      obtain ⟨_, -, ran⟩ := except_bind_eq_ok.mp ran
      cases ran
      rfl
  | saved | answered => simp [Stage.pending] at pending

theorem step_of_reads {committed : Store} {txn : EntryTransaction} {n : Nat}
    (reads : Reads (n + 1) txn) :
    txn.step committed = (committed, txn.advance committed) ∧ Reads n (txn.advance committed) := by
  rcases reads with pending | ⟨response, answered⟩
  · have stepped := @step_of_pending committed txn (by omega)
    refine ⟨by rw [advance, stepped], ?_⟩
    rw [advance, stepped]
    cases ran : txn.phase (committed.overlay txn.writes) txn.stage with
    | error cause => exact .inr ⟨_, rfl⟩
    | ok result =>
        have := pending_of_phase (by omega) ran
        exact .inl (by simp only [proceed]; omega)
  · rcases txn with ⟨body, uid, shuffle, writes, stage⟩
    cases answered
    exact ⟨rfl, .inr ⟨response, rfl⟩⟩

theorem advance_of_phase {committed : Store} {txn : EntryTransaction} {saved : List Saved}
    {next : Stage} (pending : 0 < txn.stage.pending)
    (ran : txn.phase (committed.overlay txn.writes) txn.stage = .ok (saved, next)) :
    txn.advance committed = { txn with writes := txn.writes ++ saved, stage := next } := by
  rw [advance, step_of_pending pending, ran]
  rfl

theorem iterate_advance_answered (committed : Store) (txn : EntryTransaction)
    (response : Response) (n : Nat) :
    (advance committed)^[n] { txn with stage := .answered response } =
      { txn with stage := .answered response } :=
  Function.iterate_fixed rfl n

theorem iterate_advance_of_phase_error {committed : Store} {txn : EntryTransaction}
    {cause : PyError} (n : Nat) (pending : 0 < txn.stage.pending)
    (failed : txn.phase (committed.overlay txn.writes) txn.stage = .error cause) :
    (advance committed)^[n + 1] txn =
      { txn with writes := [], stage := .answered (badRequestOnStorage cause) } := by
  rw [Function.iterate_succ_apply, advance, step_of_pending pending, failed]
  exact iterate_advance_answered committed { txn with writes := [] } _ n

section Phases

variable {committed : Store} {body : JsonValue} {uid : String} {shuffle : Rearrangement Int}
  {writes : List Saved} {definitionId : String} {definition : StatusListDefinition}
  {current : Option StatusList} {working : StatusList} {entry : StatusListEntry}

theorem advance_fresh {value : JsonValue} (bodyOk : body.get "definition_id" = .ok value)
    (keyOk : value.recordKey = .ok definitionId)
    (retrieved : BaseRecord.retrieveById committed definitionId = .ok definition) :
    advance committed (fresh body uid shuffle) =
      ⟨body, uid, shuffle, [], .retrieved definitionId definition⟩ :=
  @advance_of_phase committed (fresh body uid shuffle) [] _ (Nat.succ_pos _)
    (by simp only [phase, fresh, Store.overlay_nil, bodyOk, keyOk, retrieved, except_ok_bind]; rfl)

theorem advance_retrieved
    (currentOk : currentStatusList committed definitionId definition.list_cursor = .ok current) :
    advance committed ⟨body, uid, shuffle, [], .retrieved definitionId definition⟩ =
      ⟨body, uid, shuffle, [], .loaded definition current⟩ :=
  @advance_of_phase committed ⟨body, uid, shuffle, [], .retrieved definitionId definition⟩ [] _
    (Nat.succ_pos _) (by simp only [phase, Store.overlay_nil, currentOk, except_ok_bind]; rfl)

theorem advance_loaded {mid : Store}
    (worked : workingStatusList committed definition uid shuffle current = .ok (mid, working)) :
    advance committed ⟨body, uid, shuffle, [], .loaded definition current⟩ =
      ⟨body, uid, shuffle, workingRecords definition shuffle working current, .working working⟩ :=
  @advance_of_phase committed ⟨body, uid, shuffle, [], .loaded definition current⟩ _ _
    (Nat.succ_pos _) (by simp only [phase, Store.overlay_nil, worked, except_ok_bind]; rfl)

theorem advance_working {assigned : Store}
    (assignedOk : assignEntry (committed.overlay writes) working = .ok (assigned, entry)) :
    advance committed ⟨body, uid, shuffle, writes, .working working⟩ =
      ⟨body, uid, shuffle, writes ++ [.entry entry], .assigned working entry⟩ :=
  @advance_of_phase committed ⟨body, uid, shuffle, writes, .working working⟩ _ _
    (Nat.succ_pos _) (by simp only [phase, assignedOk, except_ok_bind]; rfl)

theorem advance_assigned {updated : Store}
    (updatedOk : BaseRecord.saveTxn (committed.overlay writes) BaseRecord.update
      (advanceCursor working) = .ok updated) :
    advance committed ⟨body, uid, shuffle, writes, .assigned working entry⟩ =
      ⟨body, uid, shuffle, writes ++ [.list (advanceCursor working)],
        .saved (advanceCursor working) entry⟩ :=
  @advance_of_phase committed ⟨body, uid, shuffle, writes, .assigned working entry⟩ _ _
    (Nat.succ_pos _) (by simp only [phase, updatedOk, except_ok_bind]; rfl)

end Phases

/-- A transaction the handler model commits takes its five phases, on a committed store that
no other request changes, to its commit, with writes that make the committed store the one the
handler commits. The only lists it saved are its working list, the last of its writes. -/
theorem prepare_of_ok {committed committed' : Store} {body : JsonValue} {uid : String}
    {shuffle : Rearrangement Int} {statusList : StatusList} {entry : StatusListEntry}
    (allocated : createStatusListEntryTxn committed body uid shuffle =
      .ok (committed', statusList, entry)) :
    ∃ saved, (advance committed)^[5] (fresh body uid shuffle) =
        ⟨body, uid, shuffle, saved ++ [.list statusList], .saved statusList entry⟩ ∧
      committed.overlay (saved ++ [.list statusList]) = committed' ∧
      ∀ other, Saved.list other ∈ saved → other.id = statusList.id := by
  simp only [createStatusListEntryTxn, except_bind_eq_ok] at allocated
  obtain ⟨bodyValue, bodyOk, definitionId, keyOk, definition, retrieved, current, currentOk,
    ⟨mid, working⟩, workingOk, ⟨assigned, assignedEntry⟩, assignedOk, updatedStore, updated,
    done⟩ := allocated
  cases done
  have midEq := workingStatusList_eq_overlay workingOk
  have assignedEq := assignEntry_eq_overlay assignedOk
  subst midEq assignedEq
  refine ⟨workingRecords definition shuffle working current ++ [.entry assignedEntry], ?_, ?_, ?_⟩
  · show advance committed (advance committed (advance committed (advance committed
      (advance committed (fresh body uid shuffle))))) = _
    rw [advance_fresh bodyOk keyOk retrieved, advance_retrieved currentOk, advance_loaded workingOk,
      advance_working assignedOk, advance_assigned (by rwa [Store.overlay_append])]
  · simp only [Store.overlay_append]
    exact (BaseRecord.saveTxn_update_eq_put updated).symm
  · intro other listed
    rcases List.mem_append.mp listed with listed | listed
    · rw [eq_of_list_mem_workingRecords listed, advanceCursor_id]
    · simp at listed

/-- A transaction the handler model rolls back answers within its five phases as the handler
does, with no writes left. -/
theorem prepare_of_error {committed : Store} {body : JsonValue} {uid : String}
    {shuffle : Rearrangement Int} {cause : PyError}
    (failed : createStatusListEntryTxn committed body uid shuffle = .error cause) :
    (advance committed)^[5] (fresh body uid shuffle) =
      ⟨body, uid, shuffle, [], .answered (badRequestOnStorage cause)⟩ := by
  simp only [createStatusListEntryTxn, except_bind_eq_error] at failed
  rcases failed with failed | ⟨bodyValue, bodyOk, failed⟩
  · exact iterate_advance_of_phase_error 4 (Nat.succ_pos _)
      (by simp only [phase, fresh, failed, except_error_bind])
  rcases failed with failed | ⟨definitionId, keyOk, failed⟩
  · exact iterate_advance_of_phase_error 4 (Nat.succ_pos _)
      (by simp only [phase, fresh, bodyOk, failed, except_ok_bind, except_error_bind])
  rcases failed with failed | ⟨definition, retrieved, failed⟩
  · exact iterate_advance_of_phase_error 4 (Nat.succ_pos _)
      (by simp only [phase, fresh, Store.overlay_nil, bodyOk, keyOk, failed, except_ok_bind,
        except_error_bind])
  rw [Function.iterate_succ_apply, advance_fresh bodyOk keyOk retrieved]
  rcases failed with failed | ⟨current, currentOk, failed⟩
  · exact iterate_advance_of_phase_error 3 (Nat.succ_pos _)
      (by simp only [phase, Store.overlay_nil, failed, except_error_bind])
  rw [Function.iterate_succ_apply, advance_retrieved currentOk]
  rcases failed with failed | ⟨⟨mid, working⟩, workingOk, failed⟩
  · exact iterate_advance_of_phase_error 2 (Nat.succ_pos _)
      (by simp only [phase, Store.overlay_nil, failed, except_error_bind])
  rw [Function.iterate_succ_apply, advance_loaded workingOk]
  have midEq := workingStatusList_eq_overlay workingOk
  subst midEq
  dsimp only at failed
  rcases failed with failed | ⟨⟨assigned, entry⟩, assignedOk, failed⟩
  · exact iterate_advance_of_phase_error 1 (Nat.succ_pos _)
      (by simp only [phase, failed, except_error_bind])
  rw [Function.iterate_succ_apply, advance_working assignedOk]
  have assignedEq := assignEntry_eq_overlay assignedOk
  subst assignedEq
  dsimp only at failed
  rcases failed with failed | ⟨_, _, failed⟩
  · exact iterate_advance_of_phase_error 0 (Nat.succ_pos _)
      (by simp only [phase, Store.overlay_append, failed, except_error_bind])
  · cases failed

end EntryTransaction

/-- Requests in flight over one committed store: `transactions i` is the `i`-th request, if
there is one. -/
structure Server where
  committed : Store
  transactions : Nat → Option EntryTransaction

namespace Server

/-- The requests, none of them begun, over the committed store. -/
def start (committed : Store) (transactions : List EntryTransaction) : Server :=
  ⟨committed, fun i => transactions[i]?⟩

/-- The scheduler lets request `i` take its next step. -/
def step (server : Server) (i : Nat) : Server :=
  match server.transactions i with
  | none => server
  | some txn =>
      ⟨(txn.step server.committed).1,
        Function.update server.transactions i (some (txn.step server.committed).2)⟩

/-- The steps of a schedule, one after another. -/
def run (server : Server) (schedule : List Nat) : Server :=
  schedule.foldl step server

/-- The slot request `i` was answered with. -/
def slot? (server : Server) (i : Nat) : Option (String × String) :=
  (server.transactions i).bind EntryTransaction.slot?

/-- A schedule in which no request commits leaves the committed store as it was, and each
request takes as many phases on it as the schedule gives it, whatever the order. -/
theorem run_of_reads {committed : Store} {transactions : Nat → Option EntryTransaction}
    {schedule : List Nat}
    (reads : ∀ i txn, transactions i = some txn → EntryTransaction.Reads (schedule.count i) txn) :
    run ⟨committed, transactions⟩ schedule =
      ⟨committed, fun i => (transactions i).map (EntryTransaction.advance committed)^[schedule.count i]⟩ := by
  induction schedule generalizing transactions with
  | nil =>
      simp [run]
  | cons i schedule inductionHypothesis =>
      have stepped : step ⟨committed, transactions⟩ i = ⟨committed,
          Function.update transactions i ((transactions i).map (EntryTransaction.advance committed))⟩ := by
        cases found : transactions i with
        | none =>
            simp only [step, found, Option.map_none']
            rw [← found, Function.update_eq_self]
        | some txn =>
            have reads := reads i txn found
            rw [List.count_cons_self] at reads
            simp [step, found, (EntryTransaction.step_of_reads reads).1]
      have reads : ∀ j txn, Function.update transactions i
          ((transactions i).map (EntryTransaction.advance committed)) j = some txn →
            EntryTransaction.Reads (schedule.count j) txn := by
        intro j txn found
        by_cases same : j = i
        · subst same
          obtain ⟨old, oldFound, rfl⟩ := Option.map_eq_some'.mp (by simpa using found)
          have reads := reads j old oldFound
          rw [List.count_cons_self] at reads
          exact (EntryTransaction.step_of_reads reads).2
        · rw [Function.update_noteq same] at found
          simpa [List.count_cons_of_ne same] using reads j txn found
      rw [run, List.foldl_cons, ← run, stepped, inductionHypothesis reads]
      congr 1
      funext j
      by_cases same : j = i
      · subst same
        simp [Function.iterate_succ]
      · simp [Function.update_noteq same, List.count_cons_of_ne same]

/-- A request at its commit writes its records over the committed store and answers. -/
theorem step_saved {server : Server} {i : Nat} {body : JsonValue} {uid : String}
    {shuffle : Rearrangement Int} {writes : List Saved} {statusList : StatusList}
    {entry : StatusListEntry}
    (saved : server.transactions i = some ⟨body, uid, shuffle, writes, .saved statusList entry⟩) :
    server.step i = ⟨server.committed.overlay writes, Function.update server.transactions i
      (some ⟨body, uid, shuffle, [], .answered (entryResponse statusList entry)⟩)⟩ := by
  simp only [step, saved]
  rfl

end Server

/-- Two requests on the same definition, each of which the handler model would answer with a
slot, that make all their reads before either commits, in any order, and then commit: both
hand out a slot, and either the same slot or two lists with the same definition and sequence,
one per request. -/
theorem overlapping_allocations_conflict {committed : Store} {body : JsonValue}
    {uid₀ uid₁ : String} {shuffle₀ shuffle₁ : Rearrangement Int} {schedule : List Nat}
    (overlapping : schedule.count 0 = 5 ∧ schedule.count 1 = 5) (distinct : uid₀ ≠ uid₁)
    (allocated₀ : ∃ slot, (createStatusListEntry committed body uid₀ shuffle₀).2.slot? =
      some slot)
    (allocated₁ : ∃ slot, (createStatusListEntry committed body uid₁ shuffle₁).2.slot? =
      some slot) :
    let server := (Server.start committed [.fresh body uid₀ shuffle₀, .fresh body uid₁ shuffle₁]).run
      (schedule ++ [0, 1])
    ∃ slot₀ slot₁, server.slot? 0 = some slot₀ ∧ server.slot? 1 = some slot₁ ∧
      (slot₀ = slot₁ ∨ ∃ first ∈ server.committed.lists, ∃ second ∈ server.committed.lists,
        first.id ≠ second.id ∧ first.definition_id = second.definition_id ∧
          first.sequence = second.sequence) := by
  intro server
  obtain ⟨slot₀, handed₀⟩ := allocated₀
  obtain ⟨slot₁, handed₁⟩ := allocated₁
  obtain ⟨statusList₀, entry₀, committed₀, listed₀, indexed₀⟩ := createStatusListEntry_slot handed₀
  obtain ⟨statusList₁, entry₁, committed₁, listed₁, indexed₁⟩ := createStatusListEntry_slot handed₁
  obtain ⟨saved₀, prepared₀, -, lists₀⟩ := EntryTransaction.prepare_of_ok committed₀
  obtain ⟨saved₁, prepared₁, -, lists₁⟩ := EntryTransaction.prepare_of_ok committed₁
  have read : (Server.start committed [.fresh body uid₀ shuffle₀, .fresh body uid₁ shuffle₁]).run
      schedule = ⟨committed, fun i => ([EntryTransaction.fresh body uid₀ shuffle₀,
        .fresh body uid₁ shuffle₁][i]?).map (EntryTransaction.advance committed)^[schedule.count i]⟩ := by
    apply Server.run_of_reads
    intro i txn found
    match i, found with
    | 0, rfl => exact .inl (by simp [overlapping.1, EntryTransaction.fresh, Stage.pending])
    | 1, rfl => exact .inl (by simp [overlapping.2, EntryTransaction.fresh, Stage.pending])
  have last : server = ((((Server.start committed [.fresh body uid₀ shuffle₀,
      .fresh body uid₁ shuffle₁]).run schedule).step 0).step 1) :=
    List.foldl_append _ _ _ _
  have second : [EntryTransaction.fresh body uid₀ shuffle₀, .fresh body uid₁ shuffle₁][1]? =
      some (.fresh body uid₁ shuffle₁) := rfl
  rw [read] at last
  simp only [Server.step, List.getElem?_cons_zero, second, Option.map_some',
    overlapping.1, overlapping.2, prepared₀, prepared₁, EntryTransaction.step,
    Function.update_noteq one_ne_zero] at last
  have slotted : server.slot? 0 = some slot₀ ∧ server.slot? 1 = some slot₁ := by
    rw [last]
    simp only [Server.slot?, Function.update_same, Function.update_noteq one_ne_zero,
      Function.update_noteq zero_ne_one, Option.some_bind, EntryTransaction.slot?]
    rw [slot?_entryResponse indexed₀, slot?_entryResponse indexed₁, ← listed₀, ← listed₁]
    exact ⟨rfl, rfl⟩
  refine ⟨slot₀, slot₁, slotted.1, slotted.2, ?_⟩
  rcases createStatusListEntryTxn_overlap committed₀ committed₁ with
    ⟨rfl, rfl⟩ | ⟨id₀, id₁, sameDefinition, sameSequence⟩
  · refine .inl (Prod.ext (listed₀.trans listed₁.symm) ?_)
    exact Except.ok.inj (indexed₀.symm.trans indexed₁)
  · rw [last]
    refine .inr ⟨statusList₀, Store.mem_overlay_lists (Store.mem_overlay_last_list _ _ _) ?_,
      statusList₁, Store.mem_overlay_last_list _ _ _, by rw [id₀, id₁]; exact distinct,
      sameDefinition, sameSequence⟩
    intro other listed same
    have otherId : other.id = statusList₁.id := by
      rcases List.mem_append.mp listed with listed | listed
      · exact lists₁ other listed
      · simp only [List.mem_singleton, Saved.list.injEq] at listed
        rw [listed]
    exact distinct (id₀.symm.trans (same.symm.trans (otherId.trans id₁)))

/-- After one allocation on `unitSizes`, two more requests for the same definition, their
phases alternating, both read the list's `entry_cursor` before either commits. -/
theorem overlapping_requests_after_one_allocation :
    let committed := (handle (handle System.initial (.createStatusListDef unitSizes firstUuid)).1
      (.createStatusListEntry (entryRequestBody firstUuid) secondUuid reversal)).1.store
    let schedule := [0, 1, 0, 1, 0, 1, 0, 1, 0, 1]
    let server := (Server.start committed [.fresh (entryRequestBody firstUuid) thirdUuid reversal,
      .fresh (entryRequestBody firstUuid) fourthUuid reversal]).run (schedule ++ [0, 1])
    (schedule.count 0 = 5 ∧ schedule.count 1 = 5) ∧ thirdUuid ≠ fourthUuid ∧
      (∃ slot, (createStatusListEntry committed (entryRequestBody firstUuid) thirdUuid
        reversal).2.slot? = some slot) ∧
      (∃ slot, (createStatusListEntry committed (entryRequestBody firstUuid) fourthUuid
        reversal).2.slot? = some slot) ∧
      ∃ slot₀ slot₁, server.slot? 0 = some slot₀ ∧ server.slot? 1 = some slot₁ ∧
        (slot₀ = slot₁ ∨ ∃ first ∈ server.committed.lists, ∃ second ∈ server.committed.lists,
          first.id ≠ second.id ∧ first.definition_id = second.definition_id ∧
            first.sequence = second.sequence) := by
  intro committed schedule server
  have overlapping : schedule.count 0 = 5 ∧ schedule.count 1 = 5 := by decide
  have distinct : thirdUuid ≠ fourthUuid := by decide
  have allocated₀ : ∃ slot, (createStatusListEntry committed (entryRequestBody firstUuid)
      thirdUuid reversal).2.slot? = some slot := ⟨(secondUuid, "0"), by decide⟩
  have allocated₁ : ∃ slot, (createStatusListEntry committed (entryRequestBody firstUuid)
      fourthUuid reversal).2.slot? = some slot := ⟨(secondUuid, "0"), by decide⟩
  exact ⟨overlapping, distinct, allocated₀, allocated₁,
    overlapping_allocations_conflict overlapping distinct allocated₀ allocated₁⟩

/- Both requests of that run hand out the slot of the entry with `sequence` `"1"`. -/
example :
    let committed := (handle (handle System.initial (.createStatusListDef unitSizes firstUuid)).1
      (.createStatusListEntry (entryRequestBody firstUuid) secondUuid reversal)).1.store
    let server := (Server.start committed [.fresh (entryRequestBody firstUuid) thirdUuid reversal,
      .fresh (entryRequestBody firstUuid) fourthUuid reversal]).run [0, 1, 0, 1, 0, 1, 0, 1, 0, 1, 0, 1]
    server.slot? 0 = some (secondUuid, "0") ∧ server.slot? 1 = some (secondUuid, "0") := by
  decide

/- Two such requests right after the definition was created both create the list at
`sequence` `"0"`. -/
example :
    let committed := (handle System.initial (.createStatusListDef unitSizes firstUuid)).1.store
    let server := (Server.start committed [.fresh (entryRequestBody firstUuid) thirdUuid reversal,
      .fresh (entryRequestBody firstUuid) fourthUuid reversal]).run [0, 1, 0, 1, 0, 1, 0, 1, 0, 1, 0, 1]
    server.committed.lists.map (fun statusList =>
        (statusList.id, statusList.definition_id, statusList.sequence)) =
      [(thirdUuid, firstUuid, "0"), (fourthUuid, firstUuid, "0")] := by
  decide

end StatusListPlugin
