import StatusListPlugin.Routes
import StatusListPlugin.Storage

/-!
# Slot layouts

A status list's entries are created once, by `create_status_list_entry`, one per slot of
`range(0, list_size, entry_size)`: each gets the id `f"{status_list.id}-{list_index}"`, and as
`sequence` tag its position in the shuffled order of the slots. Later requests change an
entry's `status` and `is_assigned`, never its id, its list or its tag. This module describes
that layout and how the allocator's lookup by `sequence` tag and `StatusListEntry.index` read
it back.
-/

namespace StatusListPlugin

/-- The fields of an entry the allocator reads: its id, its list and its `sequence` tag. -/
def slotKey (entry : StatusListEntry) : String × String × String :=
  (entry.id, entry.status_list_id, entry.sequence)

/-- The id and `sequence` tag of each entry of the list `statusListId`. -/
def slotTags (entries : List StatusListEntry) (statusListId : String) :
    List (String × String) :=
  (entries.filter (·.status_list_id == statusListId)).map fun entry => (entry.id, entry.sequence)

/-- The id and `sequence` tag of each entry of a new list whose slots the shuffle put in
`order`. -/
def slotLayout (statusListId : String) (order : List Int) : List (String × String) :=
  order.enum.map fun (rank, listIndex) => (entryId statusListId listIndex, toString rank)

/-! ## The entries of one list -/

theorem slotTags_eq_keys (entries : List StatusListEntry) (statusListId : String) :
    slotTags entries statusListId =
      ((entries.map slotKey).filter (·.2.1 == statusListId)).map fun key => (key.1, key.2.2) := by
  simp only [slotTags, List.filter_map, List.map_map]
  rfl

/-- Two stores whose entries agree on their slot keys lay out every list alike. -/
theorem slotTags_congr {entries entries' : List StatusListEntry}
    (keys : entries'.map slotKey = entries.map slotKey) (statusListId : String) :
    slotTags entries' statusListId = slotTags entries statusListId := by
  rw [slotTags_eq_keys, slotTags_eq_keys, keys]

theorem slotTags_append (entries entries' : List StatusListEntry) (statusListId : String) :
    slotTags (entries ++ entries') statusListId =
      slotTags entries statusListId ++ slotTags entries' statusListId := by
  simp [slotTags]

theorem slotTags_eq_nil {entries : List StatusListEntry} {statusListId : String}
    (none : ∀ entry ∈ entries, entry.status_list_id ≠ statusListId) :
    slotTags entries statusListId = [] := by
  simpa [slotTags, List.filter_eq_nil_iff] using none

theorem mem_slotTags {entries : List StatusListEntry} {entry : StatusListEntry}
    (member : entry ∈ entries) :
    (entry.id, entry.sequence) ∈ slotTags entries entry.status_list_id :=
  List.mem_map.mpr ⟨entry, List.mem_filter.mpr ⟨member, by simp⟩, rfl⟩

theorem slotTags_slotEntries (statusListId : String) (order : List Int) :
    slotTags (slotEntries statusListId order) statusListId = slotLayout statusListId order := by
  simp [slotTags, slotEntries, slotLayout, List.filter_map, Function.comp_def]

theorem status_list_id_of_mem_slotEntries {statusListId : String} {order : List Int}
    {entry : StatusListEntry} (member : entry ∈ slotEntries statusListId order) :
    entry.status_list_id = statusListId := by
  obtain ⟨_, _, rfl⟩ := List.mem_map.mp member
  rfl

theorem slotTags_slotEntries_of_ne {statusListId other : String} (distinct : other ≠ statusListId)
    (order : List Int) : slotTags (slotEntries other order) statusListId = [] :=
  slotTags_eq_nil fun _ member => (status_list_id_of_mem_slotEntries member).trans_ne distinct

/-- Deleting the entries of another list leaves a list's entries as they were. -/
theorem slotTags_filter_of_ne {entries : List StatusListEntry} {statusListId deleted : String}
    (distinct : statusListId ≠ deleted) :
    slotTags (entries.filter (·.status_list_id != deleted)) statusListId =
      slotTags entries statusListId := by
  simp only [slotTags, List.filter_filter]
  congr 1
  refine List.filter_congr fun entry _ => ?_
  by_cases owned : entry.status_list_id = statusListId <;> simp [owned, distinct]

/-! ## The layout of a new list -/

theorem mem_slotLayout {statusListId : String} {order : List Int} {tagged : String × String} :
    tagged ∈ slotLayout statusListId order ↔
      ∃ (rank : Nat) (listIndex : Int), order[rank]? = some listIndex ∧
        tagged = (entryId statusListId listIndex, toString rank) := by
  simp only [slotLayout, List.mem_map, Prod.exists, List.mk_mem_enum_iff_getElem?]
  constructor
  · rintro ⟨rank, listIndex, found, rfl⟩
    exact ⟨rank, listIndex, found, rfl⟩
  · rintro ⟨rank, listIndex, found, rfl⟩
    exact ⟨rank, listIndex, found, rfl⟩

theorem slotLayout_ids (statusListId : String) (order : List Int) :
    (slotLayout statusListId order).map Prod.fst = order.map (entryId statusListId) := by
  rw [slotLayout, List.map_map]
  conv_rhs => rw [← List.enum_map_snd order, List.map_map]
  rfl

theorem slotLayout_sequences (statusListId : String) (order : List Int) :
    (slotLayout statusListId order).map Prod.snd = (List.range order.length).map toString := by
  rw [slotLayout, List.map_map, ← List.enum_map_fst order, List.map_map]
  rfl

end StatusListPlugin
