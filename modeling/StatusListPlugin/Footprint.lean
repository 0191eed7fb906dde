import StatusListPlugin.Concurrency

/-!
# What an allocation reads

An allocation for one definition reads and writes a small part of the store: that definition,
the definition's status lists together with the list it may create under its uuid, and the
entries of those lists. `Footprint.part` is that part of a store. A record written outside the
part leaves it as it was, and one written inside commutes with taking it
(`Footprint.part_overlay_foreign`, `Footprint.part_overlay_owned`). Every phase of the
transaction gives the same result on a store as on its part (`Footprint.phase_part`), so an
allocation takes the same steps on two committed stores with the same part
(`EntryTransaction.Within.iterate_advance_congr`).
-/

namespace StatusListPlugin

/-! ## One record written over a table -/

/-- The table `BaseRecord.put` leaves: the record replaces the rows with its key, or joins the
table. -/
def putRow {α : Type} (key : α → String) (rows : List α) (record : α) : List α :=
  if rows.any (key · == key record) then
    rows.map fun old => if key old == key record then record else old
  else rows ++ [record]

section Rows

variable {α : Type} {key : α → String} {keep p : α → Bool} {rows : List α} {record : α}

theorem mem_putRow {row : α} (member : row ∈ putRow key rows record) : row ∈ rows ∨ row = record := by
  unfold putRow at member
  split at member
  · obtain ⟨old, oldMember, rfl⟩ := List.mem_map.mp member
    split
    · exact .inr rfl
    · exact .inl oldMember
  · simpa using member

theorem mem_putRow_self : record ∈ putRow key rows record := by
  unfold putRow
  split
  · obtain ⟨old, member, same⟩ := List.any_eq_true.mp ‹_›
    exact List.mem_map.mpr ⟨old, member, if_pos same⟩
  · exact List.mem_append_right _ (List.mem_singleton_self _)

theorem mem_putRow_of_ne {row : α} (member : row ∈ rows) (other : key row ≠ key record) :
    row ∈ putRow key rows record := by
  unfold putRow
  split
  · exact List.mem_map.mpr ⟨row, member, if_neg (by simpa using other)⟩
  · exact List.mem_append_left _ member

/-- Keeping the rows on one side of `keep` commutes with writing a record, when the rows with
its key are on its side: the record joins the kept rows, or leaves them as they were. -/
theorem filter_putRow (sameSide : ∀ old ∈ rows, key old = key record → keep old = keep record) :
    (putRow key rows record).filter keep =
      if keep record then putRow key (rows.filter keep) record else rows.filter keep := by
  have replaced : (rows.map fun old => if key old == key record then record else old).filter keep =
      (rows.filter keep).map fun old => if key old == key record then record else old := by
    rw [List.filter_map]
    congr 1
    exact List.filter_congr fun old member => by
      by_cases same : key old = key record <;> simp [same, sameSide old member]
  unfold putRow
  cases kept : keep record with
  | true =>
      have keyed : (rows.filter keep).any (key · == key record) = rows.any (key · == key record) := by
        rw [Bool.eq_iff_iff, List.any_eq_true, List.any_eq_true]
        refine ⟨fun ⟨old, member, same⟩ => ⟨old, List.mem_of_mem_filter member, same⟩,
          fun ⟨old, member, same⟩ => ⟨old, List.mem_filter.mpr ⟨member, ?_⟩, same⟩⟩
        exact (sameSide old member (by simpa using same)).trans kept
      rw [if_pos rfl, keyed]
      split
      · exact replaced
      · simp [List.filter_append, kept]
  | false =>
      rw [if_neg Bool.false_ne_true]
      split
      · rw [replaced]
        conv_rhs => rw [← List.map_id (rows.filter keep)]
        refine List.map_congr_left fun old member => ?_
        obtain ⟨member, keptOld⟩ := List.mem_filter.mp member
        have differ : key old ≠ key record := fun same => by
          simp [sameSide old member same, kept] at keptOld
        simp [differ]
      · simp [List.filter_append, kept]

/-- A search for rows that all lie on the kept side finds the same in the kept rows. -/
theorem any_filter_of_kept (kept : ∀ old ∈ rows, p old = true → keep old = true) :
    (rows.filter keep).any p = rows.any p := by
  rw [Bool.eq_iff_iff, List.any_eq_true, List.any_eq_true]
  exact ⟨fun ⟨old, member, found⟩ => ⟨old, List.mem_of_mem_filter member, found⟩,
    fun ⟨old, member, found⟩ => ⟨old, List.mem_filter.mpr ⟨member, kept old member found⟩, found⟩⟩

theorem find?_filter_of_kept (kept : ∀ old ∈ rows, p old = true → keep old = true) :
    (rows.filter keep).find? p = rows.find? p := by
  induction rows with
  | nil => rfl
  | cons row rows inductionHypothesis =>
      have rest := inductionHypothesis fun old member => kept old (.tail _ member)
      by_cases found : p row = true
      · simp [List.filter_cons, kept row (.head _) found, found]
      · cases keptRow : keep row <;> simp [List.filter_cons, keptRow, found, rest]

theorem filter_filter_of_kept (kept : ∀ old ∈ rows, p old = true → keep old = true) :
    (rows.filter keep).filter p = rows.filter p := by
  rw [List.filter_filter]
  exact List.filter_congr fun old member => by
    cases found : p old <;> simp [found, kept old member]

end Rows

/-! ## The tables a write changes -/

section Tables

variable (txn : Store) (definition : StatusListDefinition) (statusList : StatusList)
  (entry : StatusListEntry)

@[simp] theorem definitions_put_definition :
    (BaseRecord.put txn definition).definitions = putRow (·.id) txn.definitions definition := by
  unfold BaseRecord.put putRow
  rw [apply_ite Store.definitions]
  rfl

@[simp] theorem entries_put_definition : (BaseRecord.put txn definition).entries = txn.entries := by
  unfold BaseRecord.put
  split <;> rfl

@[simp] theorem definitions_put_list : (BaseRecord.put txn statusList).definitions = txn.definitions := by
  unfold BaseRecord.put
  split <;> rfl

@[simp] theorem lists_put_list :
    (BaseRecord.put txn statusList).lists = putRow (·.id) txn.lists statusList := by
  unfold BaseRecord.put putRow
  rw [apply_ite Store.lists]
  rfl

@[simp] theorem entries_put_list : (BaseRecord.put txn statusList).entries = txn.entries := by
  unfold BaseRecord.put
  split <;> rfl

@[simp] theorem definitions_put_entry : (BaseRecord.put txn entry).definitions = txn.definitions := by
  unfold BaseRecord.put
  split <;> rfl

@[simp] theorem entries_put_entry :
    (BaseRecord.put txn entry).entries = putRow (·.id) txn.entries entry := by
  unfold BaseRecord.put putRow
  rw [apply_ite Store.entries]
  rfl

end Tables

namespace BaseRecord

variable {α : Type} [BaseRecord α] {txn : Store} {record : α}

/-- `update_record` of a record whose tags askar takes is a write over the table, of a record
whose id is stored. -/
theorem update_eq_if : update txn record =
    if !tagsAccepted record then .error (.storageError "Error when updating storage record value")
    else if stored (α := α) txn (recordId record) then .ok (put txn record)
    else .error .storageNotFound := by
  unfold update put
  split_ifs <;> simp_all

/-- `add_record` of a record whose tags askar takes is a write over the table, of a record
whose id is not stored. -/
theorem add_eq_if : add txn record =
    if !tagsAccepted record then .error (.storageError "Error when adding storage record")
    else if stored (α := α) txn (recordId record) then .error .storageDuplicate
    else .ok (put txn record) := by
  unfold add put
  split_ifs <;> simp_all

/-- A map of stores that keeps whether the record's id is stored and commutes with writing it
commutes with `update_record`. -/
theorem update_map {g : Store → Store}
    (storedEq : stored (α := α) (g txn) (recordId record) = stored (α := α) txn (recordId record))
    (putEq : g (put txn record) = put (g txn) record) :
    update (g txn) record = g <$> update txn record := by
  rw [update_eq_if, update_eq_if, storedEq]
  split_ifs <;> simp [putEq]

theorem add_map {g : Store → Store}
    (storedEq : stored (α := α) (g txn) (recordId record) = stored (α := α) txn (recordId record))
    (putEq : g (put txn record) = put (g txn) record) :
    add (g txn) record = g <$> add txn record := by
  rw [add_eq_if, add_eq_if, storedEq]
  split_ifs <;> simp [putEq]

/-- A map of stores that commutes with a write commutes with `save` of it in a transaction:
`serialize()` reads the record alone. -/
theorem saveTxn_map {write : Store → α → Except PyError Store} {g : Store → Store}
    (writeEq : write (g txn) record = g <$> write txn record) :
    saveTxn (g txn) write record = g <$> saveTxn txn write record := by
  unfold saveTxn save
  rw [writeEq]
  cases write txn record <;> cases serialize record <;> rfl

end BaseRecord

/-! ## Keyed entries -/

/-- An entry as the allocator makes it: its id is `f"{status_list_id}-{list_index}"` for a list
id of the form `uuid4` gives. -/
def StatusListEntry.Keyed (entry : StatusListEntry) : Prop :=
  isUuid entry.status_list_id = true ∧ ∃ listIndex, entry.id = entryId entry.status_list_id listIndex

/-- Two keyed entries with the same id belong to the same list. -/
theorem StatusListEntry.Keyed.status_list_id_eq {entry other : StatusListEntry}
    (keyed : entry.Keyed) (keyed' : other.Keyed) (same : entry.id = other.id) :
    entry.status_list_id = other.status_list_id := by
  obtain ⟨uuid, listIndex, idEq⟩ := keyed
  obtain ⟨uuid', listIndex', idEq'⟩ := keyed'
  exact (entryId_inj ((length_of_isUuid uuid).trans (length_of_isUuid uuid').symm)
    (idEq.symm.trans (same.trans idEq'))).1

/-- In a consistent store every entry is keyed. -/
theorem Consistent.entries_keyed {sys : System} (consistent : Consistent sys) :
    ∀ entry ∈ sys.store.entries, entry.Keyed := by
  intro entry member
  obtain ⟨owner, listed, ownerId⟩ := consistent.entry_owner entry member
  obtain ⟨listIndex, -, idEq, -⟩ :=
    (consistent.list_shape owner listed).slot member ownerId.symm
  exact ⟨ownerId ▸ (consistent.list_issued owner listed).2, listIndex, by rw [idEq, ownerId]⟩

/-! ## The footprint -/

/-- The part of the store an allocation reads: the definition `definitionId`, the lists whose ids
are among `lists`, and the entries of those lists. -/
structure Footprint where
  definitionId : String
  lists : List String

attribute [ext] Store

namespace Footprint

variable (F : Footprint)

/-- The store cut down to the footprint. -/
def part (txn : Store) : Store :=
  ⟨txn.definitions.filter (·.id == F.definitionId), txn.lists.filter (·.id ∈ F.lists),
    txn.entries.filter (·.status_list_id ∈ F.lists)⟩

/-- What a store must satisfy for the footprint to hold all an allocation reads: every list of
the definition is in it, and every entry is keyed. -/
structure Framed (txn : Store) : Prop where
  lists_of_definition : ∀ statusList ∈ txn.lists,
    statusList.definition_id = F.definitionId → statusList.id ∈ F.lists
  entries_keyed : ∀ entry ∈ txn.entries, entry.Keyed

/-- A record the allocation may write: its definition, one of its lists, or a keyed entry of one
of its lists. -/
def Owned : Saved → Prop
  | .definition record => record.id = F.definitionId
  | .list record => record.id ∈ F.lists ∧ record.definition_id = F.definitionId
  | .entry record => record.status_list_id ∈ F.lists ∧ record.Keyed

/-- A record outside the footprint, as an allocation for another definition writes. -/
def Foreign : Saved → Prop
  | .definition record => record.id ≠ F.definitionId
  | .list record => record.id ∉ F.lists ∧ record.definition_id ≠ F.definitionId
  | .entry record => record.status_list_id ∉ F.lists ∧ record.Keyed

variable {F} {txn : Store} {saved : Saved} {writes : List Saved}

theorem Owned.keyed {record : StatusListEntry} (owned : F.Owned (.entry record)) : record.Keyed :=
  owned.2

theorem Foreign.keyed {record : StatusListEntry} (foreign : F.Foreign (.entry record)) :
    record.Keyed :=
  foreign.2

@[simp] theorem part_definitions :
    (F.part txn).definitions = txn.definitions.filter (·.id == F.definitionId) := rfl

@[simp] theorem part_lists : (F.part txn).lists = txn.lists.filter (·.id ∈ F.lists) := rfl

@[simp] theorem part_entries :
    (F.part txn).entries = txn.entries.filter (·.status_list_id ∈ F.lists) := rfl

/-- An entry of the store on the same side of the footprint as a keyed entry with its id. -/
theorem sameSide_entry {record : StatusListEntry} (keyed : ∀ entry ∈ txn.entries, entry.Keyed)
    (keyedRecord : record.Keyed) :
    ∀ old ∈ txn.entries, old.id = record.id →
      decide (old.status_list_id ∈ F.lists) = decide (record.status_list_id ∈ F.lists) :=
  fun old member same => by rw [(keyed old member).status_list_id_eq keyedRecord same]

/-- A record written inside the footprint joins the part. -/
theorem part_put_owned (keyed : ∀ entry ∈ txn.entries, entry.Keyed) (owned : F.Owned saved) :
    F.part (Saved.put txn saved) = Saved.put (F.part txn) saved := by
  cases saved with
  | definition record =>
      ext1 <;> simp only [part_definitions, part_lists, part_entries, Saved.put,
        definitions_put_definition, lists_put_definition, entries_put_definition]
      rw [filter_putRow, if_pos (by simpa using owned)]
      exact fun old _ same => by rw [same]
  | list record =>
      ext1 <;> simp only [part_definitions, part_lists, part_entries, Saved.put,
        definitions_put_list, lists_put_list, entries_put_list]
      rw [filter_putRow, if_pos (by simpa using owned.1)]
      exact fun old _ same => by rw [same]
  | entry record =>
      ext1 <;> simp only [part_definitions, part_lists, part_entries, Saved.put,
        definitions_put_entry, lists_put_entry, entries_put_entry]
      rw [filter_putRow (sameSide_entry keyed owned.keyed), if_pos (by simpa using owned.1)]

/-- A record written outside the footprint leaves the part as it was. -/
theorem part_put_foreign (keyed : ∀ entry ∈ txn.entries, entry.Keyed) (foreign : F.Foreign saved) :
    F.part (Saved.put txn saved) = F.part txn := by
  cases saved with
  | definition record =>
      ext1 <;> simp only [part_definitions, part_lists, part_entries, Saved.put,
        definitions_put_definition, lists_put_definition, entries_put_definition]
      rw [filter_putRow, if_neg (by simpa using foreign)]
      exact fun old _ same => by rw [same]
  | list record =>
      ext1 <;> simp only [part_definitions, part_lists, part_entries, Saved.put,
        definitions_put_list, lists_put_list, entries_put_list]
      rw [filter_putRow, if_neg (by simpa using foreign.1)]
      exact fun old _ same => by rw [same]
  | entry record =>
      ext1 <;> simp only [part_definitions, part_lists, part_entries, Saved.put,
        definitions_put_entry, lists_put_entry, entries_put_entry]
      rw [filter_putRow (sameSide_entry keyed foreign.keyed), if_neg (by simpa using foreign.1)]

/-- A write keeps a store framed when a list it writes for the definition is in the footprint
and an entry it writes is keyed. -/
theorem Framed.put (framed : F.Framed txn)
    (listed : ∀ record, saved = .list record → record.definition_id = F.definitionId →
      record.id ∈ F.lists)
    (keyed : ∀ record, saved = .entry record → record.Keyed) : F.Framed (Saved.put txn saved) := by
  cases saved with
  | definition record =>
      exact ⟨by simpa [Saved.put] using framed.lists_of_definition,
        by simpa [Saved.put] using framed.entries_keyed⟩
  | list record =>
      refine ⟨fun statusList member => ?_, by simpa [Saved.put] using framed.entries_keyed⟩
      rcases mem_putRow (by simpa [Saved.put] using member) with old | rfl
      · exact framed.lists_of_definition statusList old
      · exact listed statusList rfl
  | entry record =>
      refine ⟨by simpa [Saved.put] using framed.lists_of_definition, fun entry member => ?_⟩
      rcases mem_putRow (by simpa [Saved.put] using member) with old | rfl
      · exact framed.entries_keyed entry old
      · exact keyed entry rfl

theorem Framed.put_owned (framed : F.Framed txn) (owned : F.Owned saved) :
    F.Framed (Saved.put txn saved) :=
  framed.put (fun record same _ => by subst same; exact owned.1)
    (fun record same => by subst same; exact owned.keyed)

theorem Framed.put_foreign (framed : F.Framed txn) (foreign : F.Foreign saved) :
    F.Framed (Saved.put txn saved) :=
  framed.put (fun record same defined => by subst same; exact absurd defined foreign.2)
    (fun record same => by subst same; exact foreign.keyed)

/-- Writes inside the footprint, one after another, join the part in the same order. -/
theorem part_overlay_owned (framed : F.Framed txn) (owned : ∀ saved ∈ writes, F.Owned saved) :
    F.part (txn.overlay writes) = (F.part txn).overlay writes ∧ F.Framed (txn.overlay writes) := by
  induction writes generalizing txn with
  | nil => exact ⟨rfl, framed⟩
  | cons saved writes inductionHypothesis =>
      have first := owned saved (.head _)
      obtain ⟨parted, framedRest⟩ :=
        inductionHypothesis (framed.put_owned first) fun later member => owned later (.tail _ member)
      exact ⟨by rw [Store.overlay_cons, parted, part_put_owned framed.entries_keyed first]; rfl,
        framedRest⟩

/-- Writes outside the footprint leave the part as it was. -/
theorem part_overlay_foreign (framed : F.Framed txn) (foreign : ∀ saved ∈ writes, F.Foreign saved) :
    F.part (txn.overlay writes) = F.part txn ∧ F.Framed (txn.overlay writes) := by
  induction writes generalizing txn with
  | nil => exact ⟨rfl, framed⟩
  | cons saved writes inductionHypothesis =>
      have first := foreign saved (.head _)
      obtain ⟨parted, framedRest⟩ :=
        inductionHypothesis (framed.put_foreign first) fun later member => foreign later (.tail _ member)
      exact ⟨by rw [Store.overlay_cons, parted, part_put_foreign framed.entries_keyed first],
        framedRest⟩

/-! ## Reads of the part -/

theorem retrieveById_part :
    (BaseRecord.retrieveById (F.part txn) F.definitionId : Except PyError StatusListDefinition) =
      BaseRecord.retrieveById txn F.definitionId := by
  simp only [BaseRecord.retrieveById, table_definitions, part_definitions, recordId_definition]
  rw [find?_filter_of_kept fun _ _ found => found]

theorem stored_part_definition {key : String} (defined : key = F.definitionId) :
    BaseRecord.stored (α := StatusListDefinition) (F.part txn) key =
      BaseRecord.stored (α := StatusListDefinition) txn key := by
  subst defined
  simp only [BaseRecord.stored, table_definitions, part_definitions, recordId_definition]
  exact any_filter_of_kept fun _ _ found => found

theorem stored_part_list {key : String} (listed : key ∈ F.lists) :
    BaseRecord.stored (α := StatusList) (F.part txn) key =
      BaseRecord.stored (α := StatusList) txn key := by
  simp only [BaseRecord.stored, table_lists, part_lists, recordId_list]
  exact any_filter_of_kept fun old _ found => by simpa [beq_iff_eq.mp found] using listed

theorem stored_part_entry {record : StatusListEntry} (keyed : ∀ entry ∈ txn.entries, entry.Keyed)
    (keyedRecord : record.Keyed) (listed : record.status_list_id ∈ F.lists) :
    BaseRecord.stored (α := StatusListEntry) (F.part txn) record.id =
      BaseRecord.stored (α := StatusListEntry) txn record.id := by
  simp only [BaseRecord.stored, table_entries, part_entries, recordId_entry]
  exact any_filter_of_kept fun old member found => by
    simpa [(keyed old member).status_list_id_eq keyedRecord (beq_iff_eq.mp found)] using listed

/-- The lists of the definition at a `sequence` tag lie in the footprint of a framed store. -/
theorem query_part_lists (framed : F.Framed txn) (sequence : String) :
    (BaseRecord.query (F.part txn) [("definition_id", F.definitionId), ("sequence", sequence)] :
      List StatusList) = BaseRecord.query txn [("definition_id", F.definitionId), ("sequence", sequence)] := by
  simp only [BaseRecord.query, table_lists, part_lists]
  exact filter_filter_of_kept fun old member found => by
    simpa using framed.lists_of_definition old member ((matchesFilter_list _ _ _).mp found).1

/-- The entries of a list of the footprint lie in it. -/
theorem query_part_cursorFilter {statusList : StatusList} (listed : statusList.id ∈ F.lists) :
    (BaseRecord.query (F.part txn) (cursorFilter statusList) : List StatusListEntry) =
      BaseRecord.query txn (cursorFilter statusList) := by
  simp only [BaseRecord.query, table_entries, part_entries]
  exact filter_filter_of_kept fun old _ found => by
    simpa [((matchesFilter_entry _ _ _).mp found).1] using listed

theorem currentStatusList_part (framed : F.Framed txn) (listCursor : Option Int) :
    currentStatusList (F.part txn) F.definitionId listCursor =
      currentStatusList txn F.definitionId listCursor := by
  cases listCursor with
  | none => rfl
  | some listCursor =>
      simp only [currentStatusList, BaseRecord.retrieveByTagFilter, query_part_lists framed]

/-! ## Writes of the allocation on the part -/

theorem except_bind_congr {ε α β : Type} {x : Except ε α} {f g : α → Except ε β}
    (same : ∀ a, x = .ok a → f a = g a) : x >>= f = x >>= g := by
  cases x with
  | error => rfl
  | ok a => exact same a rfl

theorem saveTxn_update_part_definition {record : StatusListDefinition}
    (keyed : ∀ entry ∈ txn.entries, entry.Keyed) (defined : record.id = F.definitionId) :
    BaseRecord.saveTxn (F.part txn) BaseRecord.update record =
      F.part <$> BaseRecord.saveTxn txn BaseRecord.update record :=
  BaseRecord.saveTxn_map (BaseRecord.update_map (stored_part_definition defined)
    (part_put_owned keyed (show F.Owned (.definition record) from defined)))

theorem saveTxn_add_part_list {record : StatusList} (keyed : ∀ entry ∈ txn.entries, entry.Keyed)
    (owned : F.Owned (.list record)) :
    BaseRecord.saveTxn (F.part txn) BaseRecord.add record =
      F.part <$> BaseRecord.saveTxn txn BaseRecord.add record :=
  BaseRecord.saveTxn_map (BaseRecord.add_map (stored_part_list owned.1) (part_put_owned keyed owned))

theorem saveTxn_update_part_list {record : StatusList}
    (keyed : ∀ entry ∈ txn.entries, entry.Keyed) (owned : F.Owned (.list record)) :
    BaseRecord.saveTxn (F.part txn) BaseRecord.update record =
      F.part <$> BaseRecord.saveTxn txn BaseRecord.update record :=
  BaseRecord.saveTxn_map
    (BaseRecord.update_map (stored_part_list owned.1) (part_put_owned keyed owned))

theorem saveTxn_add_part_entry {record : StatusListEntry}
    (keyed : ∀ entry ∈ txn.entries, entry.Keyed) (owned : F.Owned (.entry record)) :
    BaseRecord.saveTxn (F.part txn) BaseRecord.add record =
      F.part <$> BaseRecord.saveTxn txn BaseRecord.add record :=
  BaseRecord.saveTxn_map (BaseRecord.add_map (stored_part_entry keyed owned.keyed owned.1)
    (part_put_owned keyed owned))

theorem saveTxn_update_part_entry {record : StatusListEntry}
    (keyed : ∀ entry ∈ txn.entries, entry.Keyed) (owned : F.Owned (.entry record)) :
    BaseRecord.saveTxn (F.part txn) BaseRecord.update record =
      F.part <$> BaseRecord.saveTxn txn BaseRecord.update record :=
  BaseRecord.saveTxn_map (BaseRecord.update_map (stored_part_entry keyed owned.keyed owned.1)
    (part_put_owned keyed owned))

/-- The entries of a new list of the footprint are saved on the part as on the store. -/
theorem addEntries_part {entries : List StatusListEntry} (keyed : ∀ entry ∈ txn.entries, entry.Keyed)
    (owned : ∀ entry ∈ entries, F.Owned (.entry entry)) :
    addEntries (F.part txn) entries = F.part <$> addEntries txn entries := by
  induction entries generalizing txn with
  | nil => rfl
  | cons entry rest inductionHypothesis =>
      have first := owned entry (.head _)
      simp only [addEntries, saveTxn_add_part_entry keyed first, bind_map_left, map_bind]
      cases addedOk : BaseRecord.saveTxn txn BaseRecord.add entry with
      | error cause => rfl
      | ok mid =>
          obtain ⟨-, -, rfl⟩ := BaseRecord.add_eq_ok.mp (BaseRecord.saveTxn_eq_ok.mp addedOk).1
          refine inductionHypothesis (fun old member => ?_) fun later member => owned later (.tail _ member)
          rcases (by simpa using member : old ∈ txn.entries ∨ old = entry) with old | rfl
          · exact keyed _ old
          · exact first.keyed

theorem owned_slotEntries {uid : String} {order : List Int} (listed : uid ∈ F.lists)
    (uuid : isUuid uid = true) : ∀ entry ∈ slotEntries uid order, F.Owned (.entry entry) := by
  intro entry member
  obtain ⟨⟨sequence, listIndex⟩, -, rfl⟩ := List.mem_map.mp member
  exact ⟨listed, uuid, listIndex, rfl⟩

/-- A new list of the footprint is created on the part as on the store. -/
theorem newStatusList_part {definition : StatusListDefinition} {uid : String}
    {shuffle : Rearrangement Int} (keyed : ∀ entry ∈ txn.entries, entry.Keyed)
    (defined : definition.id = F.definitionId) (listed : uid ∈ F.lists) (uuid : isUuid uid = true) :
    newStatusList (F.part txn) definition uid shuffle =
      (fun created => (F.part created.1, created.2)) <$> newStatusList txn definition uid shuffle := by
  have advanced : ({ definition with list_cursor := some (nextListCursor definition.list_cursor) } :
      StatusListDefinition).id = F.definitionId := defined
  simp only [newStatusList, saveTxn_update_part_definition keyed advanced, bind_map_left, map_bind]
  refine except_bind_congr fun mid updated => ?_
  have keyedMid : ∀ entry ∈ mid.entries, entry.Keyed := by
    rw [← (BaseRecord.update_eq_ok.mp (BaseRecord.saveTxn_eq_ok.mp updated).1).2.2]
    exact keyed
  refine bind_congr fun listSize => bind_congr fun entrySize => bind_congr fun entryList => ?_
  have ownedList : F.Owned (.list ⟨uid, definition.id,
      toString (nextListCursor definition.list_cursor), listSize, entrySize, 0⟩) :=
    ⟨listed, defined⟩
  simp only [saveTxn_add_part_list keyedMid ownedList, bind_map_left, map_bind]
  refine except_bind_congr fun withList added => ?_
  have keyedList : ∀ entry ∈ withList.entries, entry.Keyed := by
    rw [← (BaseRecord.add_eq_ok.mp (BaseRecord.saveTxn_eq_ok.mp added).1).2.2]
    exact keyedMid
  simp only [addEntries_part keyedList (owned_slotEntries listed uuid), bind_map_left, map_bind]
  rfl

theorem workingStatusList_part {definition : StatusListDefinition} {uid : String}
    {shuffle : Rearrangement Int} {current : Option StatusList}
    (keyed : ∀ entry ∈ txn.entries, entry.Keyed) (defined : definition.id = F.definitionId)
    (listed : uid ∈ F.lists) (uuid : isUuid uid = true) :
    workingStatusList (F.part txn) definition uid shuffle current =
      (fun worked => (F.part worked.1, worked.2)) <$>
        workingStatusList txn definition uid shuffle current := by
  cases current with
  | none => exact newStatusList_part keyed defined listed uuid
  | some statusList =>
      simp only [workingStatusList]
      split
      · exact newStatusList_part keyed defined listed uuid
      · rfl

/-- The entry at the cursor of a list of the footprint is assigned on the part as on the store. -/
theorem assignEntry_part {statusList : StatusList} (keyed : ∀ entry ∈ txn.entries, entry.Keyed)
    (listed : statusList.id ∈ F.lists) :
    assignEntry (F.part txn) statusList =
      (fun assigned => (F.part assigned.1, assigned.2)) <$> assignEntry txn statusList := by
  have retrieved : (BaseRecord.retrieveByTagFilter (F.part txn) (cursorFilter statusList) :
      Except PyError StatusListEntry) = BaseRecord.retrieveByTagFilter txn (cursorFilter statusList) := by
    simp only [BaseRecord.retrieveByTagFilter, query_part_cursorFilter listed]
  simp only [assignEntry, retrieved, map_bind]
  refine except_bind_congr fun found foundOk => ?_
  obtain ⟨member, filtered⟩ :=
    BaseRecord.mem_of_query_eq_singleton (BaseRecord.retrieveByTagFilter_eq_ok.mp foundOk)
  have owned : F.Owned (.entry { found with is_assigned := true }) :=
    ⟨by simpa [((matchesFilter_entry _ _ _).mp filtered).1] using listed, keyed found member⟩
  simp only [saveTxn_update_part_entry keyed owned, bind_map_left, map_bind, map_pure]

end Footprint

/-! ## The phases of an allocation on its footprint -/

/-- Lines 90–91: the definition id a request body names, as the handler reads it. -/
def definitionKey (body : JsonValue) : Except PyError String := do
  (← body.get "definition_id").recordKey

/-- The values a stage holds lie in the footprint: the definition it read is the footprint's,
and the lists it read are lists of that definition in the footprint. -/
def Footprint.StageIn (F : Footprint) : Stage → Prop
  | .start => True
  | .retrieved definitionId definition =>
      definitionId = F.definitionId ∧ definition.id = F.definitionId
  | .loaded definition current => definition.id = F.definitionId ∧ ∀ statusList,
      current = some statusList → statusList.id ∈ F.lists ∧ statusList.definition_id = F.definitionId
  | .working statusList => statusList.id ∈ F.lists ∧ statusList.definition_id = F.definitionId
  | .assigned statusList _ => statusList.id ∈ F.lists ∧ statusList.definition_id = F.definitionId
  | .saved _ _ => True
  | .answered _ => True

/-- A request in flight whose reads and writes lie in the footprint: its uuid names a list of
the footprint, its body names the footprint's definition, its stage holds values of the
footprint and its writes are records of it. -/
structure EntryTransaction.Within (txn : EntryTransaction) (F : Footprint) : Prop where
  uid_mem : txn.uid ∈ F.lists
  uuid : isUuid txn.uid = true
  key : ∀ key, definitionKey txn.body = .ok key → key = F.definitionId
  stage : F.StageIn txn.stage
  writes : ∀ saved ∈ txn.writes, F.Owned saved

namespace Footprint

variable {F : Footprint} {txn : EntryTransaction} {view committed committed' : Store}

/-- Every phase of an allocation gives the same result on a framed store as on its part. -/
theorem phase_part (framed : F.Framed view) (within : txn.Within F) :
    txn.phase (F.part view) txn.stage = txn.phase view txn.stage := by
  rcases txn with ⟨body, uid, shuffle, writes, stage⟩
  obtain ⟨listed, uuid, named, staged, -⟩ := within
  cases stage with
  | start =>
      simp only [EntryTransaction.phase]
      cases got : body.get "definition_id" with
      | error cause => rfl
      | ok value =>
          cases keyOk : value.recordKey with
          | error cause => simp only [except_ok_bind, keyOk, except_error_bind]
          | ok key =>
              obtain rfl := named key (by simp only [definitionKey, got, keyOk, except_ok_bind])
              simp only [except_ok_bind, keyOk, retrieveById_part]
  | retrieved definitionId definition =>
      obtain ⟨rfl, -⟩ := staged
      simp only [EntryTransaction.phase, currentStatusList_part framed]
  | loaded definition current =>
      simp only [EntryTransaction.phase,
        workingStatusList_part framed.entries_keyed staged.1 listed uuid, bind_map_left]
  | working statusList =>
      simp only [EntryTransaction.phase, assignEntry_part framed.entries_keyed staged.1,
        bind_map_left]
  | assigned statusList entry =>
      simp only [EntryTransaction.phase, saveTxn_update_part_list framed.entries_keyed
        (show F.Owned (.list (advanceCursor statusList)) from staged), bind_map_left]
  | saved statusList entry => rfl
  | answered response => rfl

end Footprint

namespace EntryTransaction

variable {F : Footprint} {txn : EntryTransaction} {view committed committed' : Store}

/-- A phase of an allocation on a framed store writes records of its footprint and moves to a
stage of it. -/
theorem phase_within (framed : F.Framed view) (within : txn.Within F) {saved : List Saved}
    {next : Stage} (ran : txn.phase view txn.stage = .ok (saved, next)) :
    (∀ record ∈ saved, F.Owned record) ∧ F.StageIn next := by
  rcases txn with ⟨body, uid, shuffle, writes, stage⟩
  obtain ⟨listed, uuid, named, staged, -⟩ := within
  cases stage with
  | start =>
      simp only [phase, except_bind_eq_ok] at ran
      obtain ⟨value, got, key, keyOk, definition, retrieved, done⟩ := ran
      cases done
      obtain rfl := named key (by simp only [definitionKey, got, keyOk, except_ok_bind])
      exact ⟨(fun _ member => nomatch member), rfl, (BaseRecord.retrieveById_eq_ok retrieved).2⟩
  | retrieved definitionId definition =>
      obtain ⟨rfl, defined⟩ := staged
      obtain ⟨current, currentOk, done⟩ := except_bind_eq_ok.mp ran
      cases done
      refine ⟨(fun _ member => nomatch member), defined, fun statusList found => ?_⟩
      subst found
      obtain ⟨cursor, -, query⟩ := currentStatusList_eq_ok currentOk
      obtain ⟨member, filtered⟩ := BaseRecord.mem_of_query_eq_singleton query
      have ofDefinition := ((matchesFilter_list _ _ _).mp filtered).1
      exact ⟨framed.lists_of_definition statusList member ofDefinition, ofDefinition⟩
  | loaded definition current =>
      obtain ⟨⟨mid, working⟩, worked, done⟩ := except_bind_eq_ok.mp ran
      cases done
      rcases workingStatusList_eq_ok worked with ⟨-, rfl, room⟩ | created
      · exact ⟨by simp [workingRecords, not_le.mpr room], staged.2 working rfl⟩
      have workingListed : working.id ∈ F.lists := by rw [created.id_eq]; exact listed
      have ownedWorking : working.id ∈ F.lists ∧ working.definition_id = F.definitionId :=
        ⟨workingListed, created.definition_id_eq.trans staged.1⟩
      have ownedCreated : ∀ record ∈ createdRecords definition shuffle working, F.Owned record := by
        intro record member
        simp only [createdRecords, List.mem_cons, List.mem_map] at member
        rcases member with rfl | rfl | ⟨entry, member, rfl⟩
        · exact staged.1
        · exact ownedWorking
        · exact Footprint.owned_slotEntries workingListed (by rw [created.id_eq]; exact uuid) entry
            member
      refine ⟨fun record member => ?_, ownedWorking⟩
      cases current with
      | none => exact ownedCreated record member
      | some statusList =>
          simp only [workingRecords] at member
          split at member
          · exact ownedCreated record member
          · cases member
  | working statusList =>
      obtain ⟨⟨mid, entry⟩, assigned, done⟩ := except_bind_eq_ok.mp ran
      cases done
      obtain ⟨found, query, rfl, -⟩ := assignEntry_eq_ok assigned
      obtain ⟨member, filtered⟩ := BaseRecord.mem_of_query_eq_singleton query
      refine ⟨?_, staged⟩
      simp only [List.mem_singleton, forall_eq]
      exact ⟨by simpa [((matchesFilter_entry _ _ _).mp filtered).1] using staged.1,
        framed.entries_keyed found member⟩
  | assigned statusList entry =>
      obtain ⟨_, -, done⟩ := except_bind_eq_ok.mp ran
      cases done
      exact ⟨by simpa using staged, trivial⟩
  | saved statusList entry =>
      cases ran
      exact ⟨(fun _ member => nomatch member), trivial⟩
  | answered response =>
      cases ran
      exact ⟨(fun _ member => nomatch member), trivial⟩

/-- Each step of an allocation on a framed committed store keeps it within its footprint. -/
theorem Within.advance (within : txn.Within F) (framed : F.Framed committed) :
    (txn.advance committed).Within F := by
  by_cases pending : 0 < txn.stage.pending
  · simp only [EntryTransaction.advance, step_of_pending pending]
    cases ran : txn.phase (committed.overlay txn.writes) txn.stage with
    | error cause =>
        exact ⟨within.uid_mem, within.uuid, within.key, trivial, fun _ member => nomatch member⟩
    | ok result =>
        obtain ⟨saved, next⟩ := result
        obtain ⟨owned, staged⟩ :=
          phase_within (Footprint.part_overlay_owned framed within.writes).2 within ran
        refine ⟨within.uid_mem, within.uuid, within.key, staged, fun record member => ?_⟩
        rcases List.mem_append.mp member with old | new
        · exact within.writes record old
        · exact owned record new
  · rcases txn with ⟨body, uid, shuffle, writes, stage⟩
    cases stage <;> simp [Stage.pending] at pending
    · exact ⟨within.uid_mem, within.uuid, within.key, trivial, fun _ member => nomatch member⟩
    · exact within

theorem Within.iterate (within : txn.Within F) (framed : F.Framed committed) (steps : Nat) :
    ((EntryTransaction.advance committed)^[steps] txn).Within F := by
  induction steps generalizing txn with
  | zero => exact within
  | succ steps inductionHypothesis =>
      rw [Function.iterate_succ_apply]
      exact inductionHypothesis (within.advance framed)

/-- An allocation takes the same step on two framed committed stores with the same part. -/
theorem Within.advance_congr (within : txn.Within F) (framed : F.Framed committed)
    (framed' : F.Framed committed') (same : F.part committed = F.part committed') :
    txn.advance committed = txn.advance committed' := by
  by_cases pending : 0 < txn.stage.pending
  · obtain ⟨parted, viewFramed⟩ := Footprint.part_overlay_owned framed within.writes
    obtain ⟨parted', viewFramed'⟩ := Footprint.part_overlay_owned framed' within.writes
    simp only [EntryTransaction.advance, step_of_pending pending]
    rw [← Footprint.phase_part viewFramed within, ← Footprint.phase_part viewFramed' within, parted,
      parted', same]
  · rcases txn with ⟨body, uid, shuffle, writes, stage⟩
    cases stage <;> simp [Stage.pending] at pending <;> rfl

/-- An allocation takes the same steps on two framed committed stores with the same part. -/
theorem Within.iterate_advance_congr (within : txn.Within F) (framed : F.Framed committed)
    (framed' : F.Framed committed') (same : F.part committed = F.part committed') (steps : Nat) :
    (EntryTransaction.advance committed)^[steps] txn =
      (EntryTransaction.advance committed')^[steps] txn := by
  induction steps generalizing txn with
  | zero => rfl
  | succ steps inductionHypothesis =>
      rw [Function.iterate_succ_apply, Function.iterate_succ_apply,
        within.advance_congr framed framed' same]
      exact inductionHypothesis (within.advance framed')

end EntryTransaction

/-! ## Allocations for different definitions -/

/-- The footprints of two allocations for different definitions with no list in common. -/
structure Footprint.Disjoint (F F' : Footprint) : Prop where
  definitions_ne : F.definitionId ≠ F'.definitionId
  lists_disjoint : ∀ listId ∈ F.lists, listId ∉ F'.lists

/-- What one allocation writes lies outside the footprint of another for a different
definition. -/
theorem Footprint.Owned.foreign {F F' : Footprint} {saved : Saved} (owned : F.Owned saved)
    (disjoint : F.Disjoint F') : F'.Foreign saved := by
  cases saved with
  | definition record => exact fun same => disjoint.definitions_ne (owned.symm.trans same)
  | list record =>
      exact ⟨disjoint.lists_disjoint _ owned.1,
        fun same => disjoint.definitions_ne (owned.2.symm.trans same)⟩
  | entry record => exact ⟨disjoint.lists_disjoint _ owned.1, owned.keyed⟩

end StatusListPlugin
