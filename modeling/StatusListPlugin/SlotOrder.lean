import StatusListPlugin.Published

/-!
# The order `sorted` gives the entries of a list

`publish_status_list` orders the entries of a list with
`sorted(entries, key=lambda entry: entry.index)`. Each `entry.index` is the decimal string of
the entry's slot without its sign, and Python compares such strings code point by code point.
For a positive `entry_size` `w` the slots are `0, w, 2w, …`. This module shows that the string
order agrees with their numeric order exactly when every positive slot has as many decimal
digits as `w`, whatever order the store's query returns the entries in. For `w = 1` that is
at most ten slots.
-/

namespace StatusListPlugin

/-! ## Slot strings -/

/-- For a positive step `range(0, stop, step)` is `0, w, 2w, …`, with `w` the step as a
natural number. -/
theorem rangeValues_eq_natCast {stop step : Int} (positive : 0 < step) :
    rangeValues 0 stop step = (List.range (rangeLength 0 stop step)).map
      fun k : Nat => ((k * step.toNat : Nat) : Int) := by
  unfold rangeValues
  refine List.map_congr_left fun k _ => ?_
  rw [Int.zero_add, Nat.cast_mul, Int.toNat_of_nonneg positive.le]

/-- Read as decimal strings, the slots `0, w, 2w, …` of `count` entries are in string order
exactly when every positive one has as many digits as `w`. Where the digits first grow, at
slots `k * w` and `(k + 1) * w`, the longer string comes first, since `(k + 1) * w` is below
ten times `k * w`. -/
theorem slot_strings_sorted_iff {w : Nat} (positive : 0 < w) (count : Nat) :
    ((List.range count).map fun k => toString (k * w)).Sorted
        (fun first second : String => first.toList ≤ second.toList) ↔
      ∀ k < count, 0 < k → (toString (k * w)).length = (toString w).length := by
  constructor
  · intro sorted k
    induction k with
    | zero => exact fun _ zero => absurd zero (Nat.lt_irrefl 0)
    | succ k inductionHypothesis =>
        intro bound _
        rcases Nat.eq_zero_or_pos k with rfl | kPositive
        · rw [Nat.zero_add, Nat.one_mul]
        · have previous := inductionHypothesis (by omega) kPositive
          have pairwise := (List.pairwise_map.mp sorted).sublist
            (List.range_sublist.mpr (show k + 1 + 1 ≤ count by omega))
          rw [List.range_succ, List.pairwise_append] at pairwise
          have ordered : (toString (k * w)).data ≤ (toString ((k + 1) * w)).data :=
            pairwise.2.2 k (List.mem_range.mpr k.lt_succ_self) (k + 1) (List.mem_singleton_self _)
          have least : w ≤ k * w := Nat.le_mul_of_pos_left w kPositive
          have next : (k + 1) * w = k * w + w := Nat.succ_mul k w
          rw [← previous]
          exact length_toString_of_le (by omega) (by omega) ordered
  · intro digits
    refine List.pairwise_map.mpr ((List.pairwise_lt_range count).imp_of_mem ?_)
    intro i j iMember jMember before
    refine toString_data_le (Nat.mul_le_mul_right w before.le) ?_
    rcases Nat.eq_zero_or_pos i with rfl | iPositive
    · exact .inl (Nat.zero_mul w)
    · exact .inr ((digits i (List.mem_range.mp iMember) iPositive).trans
        (digits j (List.mem_range.mp jMember) (by omega)).symm)

theorem append_dash_injective (statusListId : String) :
    Function.Injective fun index : String => statusListId ++ "-" ++ index := by
  intro first second same
  have data := congrArg String.data same
  simp only [String.data_append] at data
  exact String.ext (List.append_cancel_left data)

/-! ## The entries of a list -/

/-- With a positive `entry_size`, `sorted` puts the entries of a laid-out list, in whatever
order the query returns them, in slot order exactly when every positive slot `k * w` has as
many decimal digits as `w`. -/
theorem ListShape.sortByIndex_slot_order_iff {txn : Store} {statusList : StatusList}
    (shape : ListShape txn.entries statusList) (positive : 0 < statusList.entry_size)
    {entries sorrted : List StatusListEntry}
    (returned : entries.Perm (BaseRecord.query txn [("status_list_id", statusList.id)]))
    (sorted : sortByIndex entries = .ok sorrted) :
    sorrted.map (·.id) = (rangeValues 0 statusList.list_size statusList.entry_size).map
        (entryId statusList.id) ↔
      ∀ k < rangeLength 0 statusList.list_size statusList.entry_size, 0 < k →
        (toString (k * statusList.entry_size.toNat)).length =
          (toString statusList.entry_size.toNat).length := by
  obtain ⟨keyed, keys, entriesEq, rfl⟩ := sortByIndex_eq_ok sorted
  set order := keyed.insertionSort fun first second => first.1.toList ≤ second.1.toList
  set slotTexts := (List.range (rangeLength 0 statusList.list_size statusList.entry_size)).map
    fun k => toString (k * statusList.entry_size.toNat)
  have perm : (order.map Prod.fst).Perm slotTexts := by
    refine ((List.perm_insertionSort _ keyed).map _).trans ?_
    have keyTexts := shape.keys_perm_of_perm keys (entriesEq ▸ returned)
    rwa [rangeValues_eq_natCast positive, List.map_map] at keyTexts
  have idsEq : (order.map Prod.snd).map (·.id) =
      (order.map Prod.fst).map fun index => statusList.id ++ "-" ++ index := by
    rw [List.map_map, List.map_map]
    refine List.map_congr_left fun key member => ?_
    have inKeyed := (List.perm_insertionSort _ keyed).subset member
    obtain ⟨listIndex, slot, idEq, indexEq⟩ := shape.index_of_query
      (returned.subset (entriesEq ▸ List.mem_map_of_mem Prod.snd inKeyed))
    have sameKey := Except.ok.inj ((keys key inKeyed).symm.trans indexEq)
    simp only [Function.comp_apply]
    rw [idEq, sameKey, entryId, toString_natAbs_of_mem_rangeValues positive slot]
  have slotIds : (rangeValues 0 statusList.list_size statusList.entry_size).map
      (entryId statusList.id) = slotTexts.map fun index => statusList.id ++ "-" ++ index := by
    rw [rangeValues_eq_natCast positive, List.map_map, List.map_map]
    rfl
  have orderSorted : (order.map Prod.fst).Sorted
      fun first second : String => first.toList ≤ second.toList := keys_insertionSort_sorted keyed
  rw [idsEq, slotIds, (List.map_injective_iff.mpr (append_dash_injective _)).eq_iff,
    ← slot_strings_sorted_iff (by omega)]
  exact ⟨fun same => show slotTexts.Sorted _ from same ▸ orderSorted,
    eq_of_perm_of_string_sorted perm orderSorted⟩

/-- For every list of a reachable state with a positive `entry_size`, and every order the query
may return its entries in, the entries sort, and `sorted` puts them in ascending slot order
exactly when every positive slot has as many decimal digits as `entry_size`. -/
theorem sorted_entries_in_slot_order_iff {allowed : Request → Prop} {sys : System}
    (reachable : Reachable allowed sys) {statusList : StatusList}
    (listed : statusList ∈ sys.store.lists) (positive : 0 < statusList.entry_size)
    {entries : List StatusListEntry}
    (returned : entries.Perm (BaseRecord.query sys.store [("status_list_id", statusList.id)])) :
    ∃ sorrted, sortByIndex entries = .ok sorrted ∧
      (sorrted.map (·.id) = (rangeValues 0 statusList.list_size statusList.entry_size).map
          (entryId statusList.id) ↔
        ∀ i ∈ rangeValues 0 statusList.list_size statusList.entry_size, 0 < i →
          (toString i).length = (toString statusList.entry_size).length) := by
  have shape := reachable.consistent.list_shape statusList listed
  obtain ⟨sorrted, sorted⟩ := sortByIndex_of_indexed fun entry member =>
    let ⟨_, _, _, indexed⟩ := shape.index_of_query (returned.subset member)
    ⟨_, indexed⟩
  refine ⟨sorrted, sorted, (shape.sortByIndex_slot_order_iff positive returned sorted).trans ?_⟩
  have width : toString statusList.entry_size = toString statusList.entry_size.toNat := by
    rw [← toString_natCast, Int.toNat_of_nonneg positive.le]
  rw [rangeValues_eq_natCast positive, width]
  simp only [List.mem_map, List.mem_range, forall_exists_index, and_imp,
    forall_apply_eq_imp_iff₂, toString_natCast, Nat.cast_pos]
  refine forall₂_congr fun k _ => ?_
  rw [Nat.mul_pos_iff_of_pos_right (by omega)]

/-- With eleven slots of width `1` the slot `10` has two digits and the width one, so the
entries of the list do not come in slot order: the index `"10"` sorts between `"1"` and
`"2"`. -/
theorem eleven_slots_sorted_out_of_slot_order :
    let defined := (handle System.initial (.createStatusListDef elevenSlots firstUuid)).1
    let allocated := (handle defined
      (.createStatusListEntry (entryRequestBody firstUuid) secondUuid reversal)).1
    let statusList : StatusList := ⟨secondUuid, firstUuid, "0", 11, 1, 1⟩
    let entries : List StatusListEntry :=
      BaseRecord.query allocated.store [("status_list_id", secondUuid)]
    let published : List Int := [0, 1, 10, 2, 3, 4, 5, 6, 7, 8, 9]
    Reachable (fun _ => True) allocated ∧ statusList ∈ allocated.store.lists ∧
      (∃ sorrted, sortByIndex entries = .ok sorrted ∧
        (sorrted.map (·.id) = (rangeValues 0 statusList.list_size statusList.entry_size).map
            (entryId statusList.id) ↔
          ∀ i ∈ rangeValues 0 statusList.list_size statusList.entry_size, 0 < i →
            (toString i).length = (toString statusList.entry_size).length)) ∧
      (toString (10 : Int)).length ≠ (toString statusList.entry_size).length ∧
      (sortByIndex entries).toOption.map (·.map (·.id)) =
        some (published.map (entryId secondUuid)) ∧
      published.map (entryId secondUuid) ≠ (rangeValues 0 11 1).map (entryId secondUuid) := by
  intro defined allocated statusList entries published
  have reachable : Reachable (fun _ => True) allocated :=
    ⟨_, .step (.step .nil trivial (by rintro uid ⟨⟩; decide)) trivial (by rintro uid ⟨⟩; decide)⟩
  have listed : statusList ∈ allocated.store.lists := by decide
  exact ⟨reachable, listed,
    sorted_entries_in_slot_order_iff reachable listed (by decide) (List.Perm.refl _), by decide,
    by decide, by decide⟩

end StatusListPlugin
