import StatusListPlugin.Serializable

/-!
# Assignments that are never lost

Two requests for one definition in flight together may hand out one slot twice
(`overlapping_allocations_conflict`), but neither undoes what the other wrote. A request's
transaction writes the entries of a new list under its own uuid, which no other record names,
and otherwise only the entry it marks assigned. So whatever the order in which the scheduler
interleaves the phases and commits of requests for any definitions, the entry of every slot a
request answered with stands in the committed store, marked assigned.
-/

namespace StatusListPlugin

/-! ## What writes keep -/

theorem mem_slotEntries {uid : String} {order : List Int} {entry : StatusListEntry}
    (member : entry ∈ slotEntries uid order) :
    entry.status_list_id = uid ∧ ∃ listIndex, entry.id = entryId uid listIndex := by
  obtain ⟨⟨sequence, listIndex⟩, -, rfl⟩ := List.mem_map.mp member
  exact ⟨rfl, listIndex, rfl⟩

namespace Store

variable {txn : Store} {writes : List Saved} {entry : StatusListEntry}

/-- An entry of a store with writes laid over it was in the store or among the writes. -/
theorem mem_overlay_entries (member : entry ∈ (txn.overlay writes).entries) :
    entry ∈ txn.entries ∨ .entry entry ∈ writes := by
  induction writes generalizing txn with
  | nil => exact .inl member
  | cons saved writes inductionHypothesis =>
      rcases inductionHypothesis member with earlier | later
      · cases saved with
        | definition record | list record => exact .inl (by simpa [Saved.put] using earlier)
        | entry record =>
            rcases mem_putRow (by simpa [Saved.put] using earlier) with old | rfl
            · exact .inl old
            · exact .inr (.head _)
      · exact .inr (.tail _ later)

theorem mem_overlay_saved (earlier : List Saved) (statusList : StatusList) :
    entry ∈ (txn.overlay (earlier ++ [.entry entry, .list statusList])).entries := by
  simpa [Saved.put] using mem_putRow_self

/-- Writes of keyed entries, each assigned or of the list `uid`, keep an assigned keyed entry of
another list: an entry with its id and list stays, assigned. -/
theorem overlay_keeps_assigned {uid : String}
    (writable : ∀ entry, .entry entry ∈ writes →
      entry.Keyed ∧ (entry.is_assigned = true ∨ entry.status_list_id = uid))
    (member : entry ∈ txn.entries) (keyed : entry.Keyed) (assigned : entry.is_assigned = true)
    (other : entry.status_list_id ≠ uid) :
    ∃ kept ∈ (txn.overlay writes).entries, kept.id = entry.id ∧
      kept.status_list_id = entry.status_list_id ∧ kept.is_assigned = true := by
  induction writes generalizing txn entry with
  | nil => exact ⟨entry, member, rfl, rfl, assigned⟩
  | cons saved writes inductionHypothesis =>
      have later := fun entry (written : .entry entry ∈ writes) => writable entry (.tail _ written)
      cases saved with
      | definition record | list record =>
          exact inductionHypothesis later (show entry ∈ (Saved.put txn _).entries by
            simpa [Saved.put] using member) keyed assigned other
      | entry record =>
          by_cases same : entry.id = record.id
          · obtain ⟨keyedRecord, flagged⟩ := writable record (.head _)
            have owner := keyed.status_list_id_eq keyedRecord same
            have other' : record.status_list_id ≠ uid := fun named => other (owner.trans named)
            obtain ⟨kept, stays, keptId, keptOwner, keptFlag⟩ := inductionHypothesis later
              (show record ∈ (Saved.put txn (.entry record)).entries by
                simpa [Saved.put] using mem_putRow_self) keyedRecord
              (flagged.resolve_right other') other'
            exact ⟨kept, stays, keptId.trans same.symm, keptOwner.trans owner.symm, keptFlag⟩
          · exact inductionHypothesis later (show entry ∈ (Saved.put txn (.entry record)).entries by
              simpa [Saved.put] using mem_putRow_of_ne member same) keyed assigned other

end Store

/-! ## What a phase writes -/

/-- An entry a request's transaction may write: keyed, and marked assigned or of the new list
its uuid names. -/
def EntryTransaction.Writable (txn : EntryTransaction) (entry : StatusListEntry) : Prop :=
  entry.Keyed ∧ (entry.is_assigned = true ∨ entry.status_list_id = txn.uid)

/-- Where the entry a transaction assigned stands: marked assigned, of its working list, and
last among its writes but for the save of that list. -/
def Stage.Placed : Stage → List Saved → Prop
  | .assigned statusList entry, writes => entry.is_assigned = true ∧
      entry.status_list_id = statusList.id ∧ ∃ earlier, writes = earlier ++ [.entry entry]
  | .saved statusList entry, writes => entry.is_assigned = true ∧
      entry.status_list_id = statusList.id ∧
        ∃ earlier, writes = earlier ++ [.entry entry, .list statusList]
  | _, _ => True

namespace EntryTransaction

variable {txn : EntryTransaction} {view : Store} {saved : List Saved} {next : Stage}

theorem slot?_of_unanswered (unanswered : ∀ response, txn.stage ≠ .answered response) :
    txn.slot? = none := by
  unfold slot?
  split
  · exact absurd ‹_› (unanswered _)
  · rfl

/-- A phase writes entries of the new list of the transaction's uuid and an entry of the view
that it marks assigned; it moves to a stage short of the answer and keeps the place of the
assigned entry. -/
theorem phase_writable (uuid : isUuid txn.uid = true)
    (keyed : ∀ entry ∈ view.entries, entry.Keyed) (pending : 0 < txn.stage.pending)
    (ran : txn.phase view txn.stage = .ok (saved, next)) :
    (∀ entry, .entry entry ∈ saved → txn.Writable entry ∧ (entry.status_list_id = txn.uid ∨
      ∃ found ∈ view.entries, found.status_list_id = entry.status_list_id)) ∧
    (txn.stage.Placed txn.writes → next.Placed (txn.writes ++ saved)) ∧
    ∀ response, next ≠ .answered response := by
  rcases txn with ⟨body, uid, shuffle, writes, stage⟩
  cases stage with
  | start =>
      simp only [phase, except_bind_eq_ok] at ran
      obtain ⟨_, -, _, -, _, -, done⟩ := ran
      cases done
      exact ⟨fun _ member => (nomatch member), fun _ => trivial, nofun⟩
  | retrieved definitionId definition =>
      obtain ⟨_, -, done⟩ := except_bind_eq_ok.mp ran
      cases done
      exact ⟨fun _ member => (nomatch member), fun _ => trivial, nofun⟩
  | loaded definition current =>
      obtain ⟨⟨mid, working⟩, worked, done⟩ := except_bind_eq_ok.mp ran
      cases done
      refine ⟨fun entry member => ?_, fun _ => trivial, nofun⟩
      rcases workingStatusList_eq_ok worked with ⟨-, rfl, room⟩ | created
      · simp [workingRecords, not_le.mpr room] at member
      have fromCreated : Saved.entry entry ∈ createdRecords definition shuffle working := by
        cases current with
        | none => exact member
        | some statusList =>
            simp only [workingRecords] at member
            split at member
            · exact member
            · cases member
      simp only [createdRecords, List.mem_cons, reduceCtorEq, List.mem_map, Saved.entry.injEq,
        false_or, exists_eq_right] at fromCreated
      obtain ⟨owner, listIndex, idEq⟩ := mem_slotEntries fromCreated
      have owned : entry.status_list_id = uid := owner.trans created.id_eq
      exact ⟨⟨⟨by rw [owned]; exact uuid, listIndex, by rw [idEq, owner]⟩, .inr owned⟩, .inl owned⟩
  | working statusList =>
      obtain ⟨⟨mid, entry⟩, assigned, done⟩ := except_bind_eq_ok.mp ran
      cases done
      obtain ⟨found, query, rfl, -⟩ := assignEntry_eq_ok assigned
      obtain ⟨member, filtered⟩ := BaseRecord.mem_of_query_eq_singleton query
      refine ⟨fun entry written => ?_, fun _ => ⟨rfl, ((matchesFilter_entry _ _ _).mp filtered).1,
        writes, rfl⟩, nofun⟩
      obtain rfl := Saved.entry.inj (List.mem_singleton.mp written)
      exact ⟨⟨keyed found member, .inl rfl⟩, .inr ⟨found, member, rfl⟩⟩
  | assigned statusList entry =>
      obtain ⟨_, -, done⟩ := except_bind_eq_ok.mp ran
      cases done
      refine ⟨fun _ written => (nomatch List.mem_singleton.mp written),
        fun ⟨flagged, owner, earlier, placed⟩ => ⟨flagged, owner, earlier, ?_⟩, nofun⟩
      simp [show writes = earlier ++ [.entry entry] from placed]
  | saved _ _ | answered _ => simp [Stage.pending] at pending

end EntryTransaction

/-! ## The invariant of a server's runs -/

/-- How a server that started with `requests` stands for the entries it assigned: each request
keeps its uuid; the committed entries are keyed; each transaction has written only entries it
may write, and the entry it assigned stands in its place; no record but a request's own writes
names the uuid of a request in flight; and the entry of every slot a request answered with is in
the committed store, marked assigned. -/
structure Durable (requests : List (JsonValue × String × Rearrangement Int)) (server : Server) :
    Prop where
  uid : ∀ i txn, server.transactions i = some txn → ∃ request ∈ requests[i]?, txn.uid = request.2.1
  keyed : ∀ entry ∈ server.committed.entries, entry.Keyed
  writable : ∀ i txn, server.transactions i = some txn →
    ∀ entry, .entry entry ∈ txn.writes → txn.Writable entry
  unclaimed : ∀ i txn, server.transactions i = some txn → (∀ response, txn.stage ≠ .answered response) →
    (∀ entry ∈ server.committed.entries, entry.status_list_id ≠ txn.uid) ∧
      ∀ j other, j ≠ i → server.transactions j = some other →
        ∀ entry, .entry entry ∈ other.writes → entry.status_list_id ≠ txn.uid
  placed : ∀ i txn, server.transactions i = some txn → txn.stage.Placed txn.writes
  assigned : ∀ i slot, server.slot? i = some slot → ∃ entry ∈ server.committed.entries,
    entry.status_list_id = slot.1 ∧ entry.index = .ok slot.2 ∧ entry.is_assigned = true

theorem found_update {transactions : Nat → Option EntryTransaction} {i j : Nat}
    {txn other : EntryTransaction} (found : Function.update transactions j (some txn) i = some other) :
    (i = j ∧ other = txn) ∨ (i ≠ j ∧ transactions i = some other) := by
  rw [Function.update_apply] at found
  split at found
  · exact .inl ⟨‹_›, (Option.some.inj found).symm⟩
  · exact .inr ⟨‹_›, found⟩

namespace Durable

variable {sys : System} {requests : List (JsonValue × String × Rearrangement Int)}
  {server : Server} {i j : Nat} {txn other : EntryTransaction}

theorem uuid (durable : Durable requests server) (fresh : FreshRequests sys requests)
    (found : server.transactions i = some txn) : isUuid txn.uid = true := by
  obtain ⟨request, requested, uidEq⟩ := durable.uid i txn found
  exact uidEq ▸ (fresh.fresh_uuids request (FreshRequests.mem requested)).1

theorem uid_ne (durable : Durable requests server) (fresh : FreshRequests sys requests)
    (distinct : i ≠ j) (atI : server.transactions i = some txn)
    (atJ : server.transactions j = some other) : txn.uid ≠ other.uid := by
  obtain ⟨first, firstAt, firstUid⟩ := durable.uid i txn atI
  obtain ⟨second, secondAt, secondUid⟩ := durable.uid j other atJ
  exact fun same => distinct (fresh.eq_of_uid_eq firstAt secondAt
    (firstUid.symm.trans (same.trans secondUid)))

/-- The view of a transaction, the committed store with its writes on top, holds keyed entries
only. -/
theorem keyed_view (durable : Durable requests server) (found : server.transactions i = some txn) :
    ∀ entry ∈ (server.committed.overlay txn.writes).entries, entry.Keyed := fun entry member =>
  (Store.mem_overlay_entries member).elim (durable.keyed entry)
    fun written => (durable.writable i txn found entry written).1

/-- A server that has not started any request. -/
theorem start {allowed : Request → Prop} (reachable : Reachable allowed sys)
    (fresh : FreshRequests sys requests) :
    Durable requests (Server.start sys.store
      (requests.map fun request => .fresh request.1 request.2.1 request.2.2)) := by
  have started : ∀ i txn, (Server.start sys.store (requests.map fun request =>
      .fresh request.1 request.2.1 request.2.2)).transactions i = some txn →
      ∃ request ∈ requests[i]?, txn = .fresh request.1 request.2.1 request.2.2 := by
    intro i txn found
    simp only [Server.start, List.getElem?_map, Option.map_eq_some'] at found
    obtain ⟨request, requested, rfl⟩ := found
    exact ⟨request, requested, rfl⟩
  have consistent := reachable.consistent
  refine ⟨fun i txn found => ?_, consistent.entries_keyed, fun i txn found => ?_,
    fun i txn found _ => ⟨fun entry member named => ?_, fun j other _ found' => ?_⟩,
    fun i txn found => ?_, fun i slot handed => ?_⟩
  · obtain ⟨request, requested, rfl⟩ := started i txn found
    exact ⟨request, requested, rfl⟩
  · obtain ⟨request, -, rfl⟩ := started i txn found
    exact fun _ written => nomatch written
  · obtain ⟨request, requested, rfl⟩ := started i txn found
    obtain ⟨owner, listed, ownerId⟩ := consistent.entry_owner entry member
    have issued : owner.id = request.2.1 := ownerId.trans named
    exact (fresh.fresh_uuids request (FreshRequests.mem requested)).2
      (issued ▸ (consistent.list_issued owner listed).1)
  · obtain ⟨request, -, rfl⟩ := started j other found'
    exact fun _ written => nomatch written
  · obtain ⟨request, -, rfl⟩ := started i txn found
    trivial
  · simp only [Server.slot?, Option.bind_eq_some] at handed
    obtain ⟨txn, found, handed⟩ := handed
    obtain ⟨request, -, rfl⟩ := started i txn found
    cases handed

/-- Request `j` moving on to `txn'` without committing keeps the invariant, when `txn'` keeps its
uuid, writes only entries it may write and that name no other request in flight, keeps the place
of its assigned entry, and hands out no slot. -/
theorem update (durable : Durable requests server) (found : server.transactions j = some txn)
    {txn' : EntryTransaction} (sameUid : txn'.uid = txn.uid)
    (writable : ∀ entry, .entry entry ∈ txn'.writes → txn'.Writable entry)
    (unclaimed : ∀ i other, i ≠ j → server.transactions i = some other →
      (∀ response, other.stage ≠ .answered response) →
        ∀ entry, .entry entry ∈ txn'.writes → entry.status_list_id ≠ other.uid)
    (inFlight : (∀ response, txn'.stage ≠ .answered response) →
      ∀ response, txn.stage ≠ .answered response)
    (placed : txn'.stage.Placed txn'.writes) (unslotted : txn'.slot? = none) :
    Durable requests ⟨server.committed, Function.update server.transactions j (some txn')⟩ := by
  refine ⟨fun i other found' => ?_, durable.keyed, fun i other found' => ?_,
    fun i other found' notAnswered => ?_, fun i other found' => ?_, fun i slot handed => ?_⟩
  · rcases found_update found' with ⟨rfl, rfl⟩ | ⟨-, atI⟩
    · obtain ⟨request, requested, uidEq⟩ := durable.uid i txn found
      exact ⟨request, requested, sameUid.trans uidEq⟩
    · exact durable.uid i other atI
  · rcases found_update found' with ⟨rfl, rfl⟩ | ⟨-, atI⟩
    · exact writable
    · exact durable.writable i other atI
  · rcases found_update found' with ⟨rfl, rfl⟩ | ⟨distinct, atI⟩
    · have before := durable.unclaimed i txn found (inFlight notAnswered)
      refine ⟨sameUid ▸ before.1, fun k other' differ found'' => ?_⟩
      obtain ⟨-, atK⟩ := (found_update found'').resolve_left fun ⟨same, _⟩ => differ same
      exact sameUid ▸ before.2 k other' differ atK
    · have before := durable.unclaimed i other atI notAnswered
      refine ⟨before.1, fun k other' differ found'' => ?_⟩
      rcases found_update found'' with ⟨rfl, rfl⟩ | ⟨-, atK⟩
      · exact unclaimed i other distinct atI notAnswered
      · exact before.2 k other' differ atK
  · rcases found_update found' with ⟨rfl, rfl⟩ | ⟨-, atI⟩
    · exact placed
    · exact durable.placed i other atI
  · by_cases same : i = j
    · subst same
      simp [Server.slot?, unslotted] at handed
    · simp only [Server.slot?, Function.update_noteq same] at handed
      exact durable.assigned i slot handed

/-- A phase of request `j` keeps the invariant. -/
theorem phase (durable : Durable requests server) (fresh : FreshRequests sys requests)
    (found : server.transactions j = some txn) (pending : 0 < txn.stage.pending) :
    Durable requests ⟨server.committed,
      Function.update server.transactions j (some (txn.advance server.committed))⟩ := by
  have inFlight : ∀ response, txn.stage ≠ .answered response := by
    rintro response answered
    simp [answered, Stage.pending] at pending
  rw [EntryTransaction.advance, EntryTransaction.step_of_pending pending]
  cases ran : txn.phase (server.committed.overlay txn.writes) txn.stage with
  | error cause =>
      exact durable.update found rfl (fun _ written => nomatch written)
        (fun _ _ _ _ _ _ written => nomatch written) (fun notAnswered => absurd rfl (notAnswered _))
        trivial (slot?_badRequestOnStorage cause)
  | ok result =>
      obtain ⟨saved, next⟩ := result
      obtain ⟨written, placed, unanswered⟩ := EntryTransaction.phase_writable
        (durable.uuid fresh found) (durable.keyed_view found) pending ran
      refine durable.update found rfl (fun entry member => ?_)
        (fun i other distinct found' notAnswered entry member => ?_) (fun _ => inFlight)
        (placed (durable.placed j txn found))
        (EntryTransaction.slot?_of_unanswered unanswered)
      · rcases List.mem_append.mp member with old | new
        · exact durable.writable j txn found entry old
        · exact (written entry new).1
      · have before := durable.unclaimed i other found' notAnswered
        rcases List.mem_append.mp member with old | new
        · exact before.2 j txn (Ne.symm distinct) found entry old
        rcases (written entry new).2 with owned | ⟨viewed, member, owner⟩
        · exact owned ▸ durable.uid_ne fresh (Ne.symm distinct) found found'
        rw [← owner]
        rcases Store.mem_overlay_entries member with committed | ownWrite
        · exact before.1 viewed committed
        · exact before.2 j txn (Ne.symm distinct) found viewed ownWrite

/-- The commit of request `j` keeps the invariant: its writes name no request in flight, and
overwrite no assigned entry but with an assigned one, so the entry it answers with joins the
committed store and every entry handed out before stays assigned. -/
theorem commit (durable : Durable requests server) (found : server.transactions j = some txn)
    {statusList : StatusList} {entry : StatusListEntry}
    (saved : txn.stage = .saved statusList entry) :
    Durable requests ⟨server.committed.overlay txn.writes, Function.update server.transactions j
      (some { txn with writes := [], stage := .answered (entryResponse statusList entry) })⟩ := by
  have inFlight : ∀ response, txn.stage ≠ .answered response := by
    rintro response answered
    exact nomatch saved.symm.trans answered
  have own := durable.unclaimed j txn found inFlight
  refine ⟨fun i other found' => ?_, fun entry member => ?_, fun i other found' => ?_,
    fun i other found' notAnswered => ?_, fun i other found' => ?_, fun i slot handed => ?_⟩
  · rcases found_update found' with ⟨rfl, rfl⟩ | ⟨-, atI⟩
    · exact durable.uid i txn found
    · exact durable.uid i other atI
  · exact durable.keyed_view found entry member
  · rcases found_update found' with ⟨rfl, rfl⟩ | ⟨-, atI⟩
    · exact fun _ written => nomatch written
    · exact durable.writable i other atI
  · rcases found_update found' with ⟨rfl, rfl⟩ | ⟨distinct, atI⟩
    · exact absurd rfl (notAnswered _)
    have before := durable.unclaimed i other atI notAnswered
    refine ⟨fun entry member => ?_, fun k other' differ found'' => ?_⟩
    · rcases Store.mem_overlay_entries member with committed | written
      · exact before.1 entry committed
      · exact before.2 j txn (Ne.symm distinct) found entry written
    · rcases found_update found'' with ⟨rfl, rfl⟩ | ⟨-, atK⟩
      · exact fun _ written => nomatch written
      · exact before.2 k other' differ atK
  · rcases found_update found' with ⟨rfl, rfl⟩ | ⟨-, atI⟩
    · trivial
    · exact durable.placed i other atI
  · by_cases same : i = j
    · subst same
      have placed := durable.placed i txn found
      rw [saved] at placed
      obtain ⟨flagged, owner, earlier, placed⟩ := placed
      cases indexed : entry.index with
      | error cause => simp [Server.slot?, EntryTransaction.slot?, entryResponse, indexed,
          Response.slot?] at handed
      | ok index =>
          simp only [Server.slot?, Function.update_same, Option.some_bind, EntryTransaction.slot?,
            slot?_entryResponse indexed, Option.some.injEq] at handed
          subst handed
          exact ⟨entry, by rw [placed]; exact Store.mem_overlay_saved earlier statusList, owner,
            indexed, flagged⟩
    · simp only [Server.slot?, Function.update_noteq same] at handed
      obtain ⟨stored, member, owner, indexed, flagged⟩ := durable.assigned i slot handed
      obtain ⟨kept, stays, keptId, keptOwner, keptFlag⟩ := Store.overlay_keeps_assigned
        (durable.writable j txn found) member (durable.keyed stored member) flagged
        (own.1 stored member)
      exact ⟨kept, stays, keptOwner.trans owner,
        show afterLastDash kept.id = _ by rw [keptId]; exact indexed, keptFlag⟩

/-- Every step of the scheduler keeps the invariant. -/
theorem step (durable : Durable requests server) (fresh : FreshRequests sys requests) (j : Nat) :
    Durable requests (server.step j) := by
  cases found : server.transactions j with
  | none => rwa [Server.step_of_none found]
  | some txn =>
      by_cases answered : ∃ response, txn.stage = .answered response
      · obtain ⟨response, answered⟩ := answered
        rwa [Server.step_of_answered found answered]
      push_neg at answered
      by_cases pending : 0 < txn.stage.pending
      · rw [Server.step_of_pending found pending]
        exact durable.phase fresh found pending
      · obtain ⟨statusList, entry, saved⟩ := Stage.saved_of_pending (by omega) answered
        rw [Server.step_of_saved found saved]
        exact durable.commit found saved

theorem run (durable : Durable requests server) (fresh : FreshRequests sys requests)
    (schedule : List Nat) : Durable requests (server.run schedule) := by
  induction schedule generalizing server with
  | nil => exact durable
  | cons j schedule inductionHypothesis => exact inductionHypothesis (durable.step fresh j)

end Durable

/-- Requests of `create_status_list_entry` for any definitions, each with a fresh uuid of its
own, sent together to a reachable state: whatever the order in which the scheduler interleaves
their phases and commits, the entry of every slot a request answered with is in the committed
store, marked assigned. -/
theorem handed_out_slots_stay_assigned {allowed : Request → Prop} {sys : System}
    (reachable : Reachable allowed sys)
    {requests : List (JsonValue × String × Rearrangement Int)}
    (uuids : ∀ request ∈ requests, isUuid request.2.1 = true ∧ request.2.1 ∉ sys.issued)
    (distinctUuids : (requests.map (·.2.1)).Nodup) (schedule : List Nat) :
    let server := (Server.start sys.store
      (requests.map fun request => .fresh request.1 request.2.1 request.2.2)).run schedule
    ∀ i slot, server.slot? i = some slot → ∃ entry ∈ server.committed.entries,
      entry.status_list_id = slot.1 ∧ entry.index = .ok slot.2 ∧ entry.is_assigned = true :=
  ((Durable.start reachable ⟨uuids, distinctUuids⟩).run ⟨uuids, distinctUuids⟩ schedule).assigned

/-- The two requests of `overlapping_allocations_conflict`, which both hand out the slot of the
entry with `sequence` `"1"`, leave that entry assigned. -/
theorem overlapping_allocations_stay_assigned :
    let defined := (handle (handle System.initial (.createStatusListDef unitSizes firstUuid)).1
      (.createStatusListEntry (entryRequestBody firstUuid) secondUuid reversal)).1
    let requests := [(entryRequestBody firstUuid, thirdUuid, reversal),
      (entryRequestBody firstUuid, fourthUuid, reversal)]
    let server := (Server.start defined.store
      (requests.map fun request => .fresh request.1 request.2.1 request.2.2)).run
        [0, 1, 0, 1, 0, 1, 0, 1, 0, 1, 0, 1]
    Reachable (fun _ => True) defined ∧
      (∀ request ∈ requests, isUuid request.2.1 = true ∧ request.2.1 ∉ defined.issued) ∧
      (requests.map (·.2.1)).Nodup ∧
      ∀ i slot, server.slot? i = some slot → ∃ entry ∈ server.committed.entries,
        entry.status_list_id = slot.1 ∧ entry.index = .ok slot.2 ∧ entry.is_assigned = true := by
  intro defined requests server
  have reachable : Reachable (fun _ => True) defined :=
    ⟨_, .step (.step .nil trivial (by rintro uid ⟨⟩; decide)) trivial (by rintro uid ⟨⟩; decide)⟩
  have uuids : ∀ request ∈ requests, isUuid request.2.1 = true ∧ request.2.1 ∉ defined.issued := by
    decide
  have distinctUuids : (requests.map (·.2.1)).Nodup := by decide
  exact ⟨reachable, uuids, distinctUuids,
    handed_out_slots_stay_assigned reachable uuids distinctUuids _⟩

end StatusListPlugin
