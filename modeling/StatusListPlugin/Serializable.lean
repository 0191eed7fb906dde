import StatusListPlugin.Footprint

/-!
# Allocations for different definitions

Requests of `create_status_list_entry` in flight together conflict when they are for the same
definition (`overlapping_allocations_conflict`). For different definitions they do not: an
allocation reads and writes only its footprint (`Footprint`), and the footprints of
allocations for different definitions, with fresh uuids, are disjoint. Whatever the order in
which the scheduler interleaves their phases, the requests that answered, taken in the order
they answered, are a run of the handler model one request after another, and that run leaves
the store the server committed (`allocations_serialize_across_definitions`). Such a run hands
out each slot once and keeps one list per definition and sequence, so no interleaving of
requests for different definitions hands out a slot twice
(`different_definitions_hand_out_slots_once`).
-/

namespace StatusListPlugin

namespace EntryTransaction

variable {committed : Store} {body : JsonValue} {uid : String} {shuffle : Rearrangement Int}
  {txn : EntryTransaction}

/-- A step of a request with phases left takes one of them, or answers. -/
theorem advance_pending (committed : Store) (pending : 0 < txn.stage.pending) :
    (txn.advance committed).stage.pending + 1 = txn.stage.pending ∨
      ∃ response, (txn.advance committed).stage = .answered response := by
  rw [advance, step_of_pending pending]
  cases ran : txn.phase (committed.overlay txn.writes) txn.stage with
  | error cause => exact .inr ⟨_, rfl⟩
  | ok result => exact .inl (pending_of_phase pending ran)

theorem advance_of_answered {response : Response} (answered : txn.stage = .answered response) :
    txn.advance committed = txn := by
  rcases txn with ⟨body, uid, shuffle, writes, stage⟩
  cases answered
  rfl

/-- After `steps` of its first five steps a request that has not answered has `5 - steps`
phases left. -/
theorem pending_iterate_fresh (committed : Store) (body : JsonValue) (uid : String)
    (shuffle : Rearrangement Int) {steps : Nat} (early : steps ≤ 5) :
    ((advance committed)^[steps] (fresh body uid shuffle)).stage.pending + steps = 5 ∨
      ∃ response, ((advance committed)^[steps] (fresh body uid shuffle)).stage =
        .answered response := by
  induction steps with
  | zero => exact .inl rfl
  | succ steps inductionHypothesis =>
      rw [Function.iterate_succ_apply']
      rcases inductionHypothesis (by omega) with counted | ⟨response, answered⟩
      · rcases advance_pending committed (by omega : 0 <
          ((advance committed)^[steps] (fresh body uid shuffle)).stage.pending) with
          stepped | answered
        · exact .inl (by omega)
        · exact .inr answered
      · exact .inr ⟨response, by rw [advance_of_answered answered]; exact answered⟩

/-- The first five steps of a request that answered within them end where it answered. -/
theorem iterate_five_of_answered {steps : Nat} (early : steps ≤ 5) {response : Response}
    (answered : ((advance committed)^[steps] (fresh body uid shuffle)).stage = .answered response) :
    (advance committed)^[5] (fresh body uid shuffle) =
      (advance committed)^[steps] (fresh body uid shuffle) := by
  rw [show 5 = (5 - steps) + steps by omega, Function.iterate_add_apply]
  exact Function.iterate_fixed (advance_of_answered answered) _

/-- A request that answered within its first five steps on a committed store no other request
changed answered as the handler model does, and leaves the store as it was. -/
theorem createStatusListEntry_of_answered {steps : Nat} (early : steps ≤ 5)
    {response : Response}
    (answered : ((advance committed)^[steps] (fresh body uid shuffle)).stage = .answered response) :
    createStatusListEntry committed body uid shuffle = (committed, response) := by
  have five := iterate_five_of_answered early answered
  cases allocated : createStatusListEntryTxn committed body uid shuffle with
  | error cause =>
      rw [prepare_of_error allocated] at five
      rw [← five] at answered
      cases answered
      exact createStatusListEntry_of_error allocated
  | ok result =>
      obtain ⟨committed', statusList, entry⟩ := result
      obtain ⟨saved, prepared, -, -⟩ := prepare_of_ok allocated
      rw [prepared] at five
      rw [← five] at answered
      cases answered

/-- A request at its commit after steps on a committed store no other request changed commits
the store the handler model leaves and answers as it does. -/
theorem createStatusListEntry_of_saved {steps : Nat} (early : steps ≤ 5)
    {statusList : StatusList} {entry : StatusListEntry}
    (saved : ((advance committed)^[steps] (fresh body uid shuffle)).stage = .saved statusList entry) :
    createStatusListEntry committed body uid shuffle =
      (committed.overlay ((advance committed)^[steps] (fresh body uid shuffle)).writes,
        entryResponse statusList entry) := by
  have five : steps = 5 := by
    rcases pending_iterate_fresh committed body uid shuffle early with
      counted | ⟨response, answered⟩
    · rw [saved] at counted
      simpa [Stage.pending] using counted
    · rw [saved] at answered
      cases answered
  subst five
  cases allocated : createStatusListEntryTxn committed body uid shuffle with
  | error cause =>
      rw [prepare_of_error allocated] at saved
      cases saved
  | ok result =>
      obtain ⟨committed', statusList', entry'⟩ := result
      obtain ⟨writes, prepared, overlaid, -⟩ := prepare_of_ok allocated
      rw [prepared] at saved ⊢
      cases saved
      rw [createStatusListEntry_of_ok allocated, overlaid]

end EntryTransaction

/-! ## What a request keeps of itself -/

namespace EntryTransaction

variable {committed : Store} {txn : EntryTransaction}

/-- The request a transaction is for. -/
def request (txn : EntryTransaction) : Request :=
  .createStatusListEntry txn.body txn.uid txn.shuffle

@[simp] theorem request_advance : (txn.advance committed).request = txn.request := by
  unfold advance step
  split
  · rfl
  · rfl
  · unfold proceed
    split <;> rfl

theorem request_iterate (steps : Nat) : ((advance committed)^[steps] txn).request = txn.request := by
  induction steps generalizing txn with
  | zero => rfl
  | succ steps inductionHypothesis =>
      rw [Function.iterate_succ_apply, inductionHypothesis, request_advance]

/-- A request whose body names no definition answers at its first step. -/
theorem advance_fresh_of_key_error {body : JsonValue} {uid : String} {shuffle : Rearrangement Int}
    {cause : PyError} (failed : definitionKey body = .error cause) :
    ((fresh body uid shuffle).advance committed).stage = .answered (badRequestOnStorage cause) := by
  rw [advance, step_of_pending (by simp [fresh, Stage.pending])]
  have ran : (fresh body uid shuffle).phase (committed.overlay []) .start = .error cause := by
    simp only [phase, fresh]
    simp only [definitionKey, except_bind_eq_error] at failed
    rcases failed with failed | ⟨value, got, failed⟩
    · simp only [failed, except_error_bind]
    · simp only [got, failed, except_ok_bind, except_error_bind]
  simp only [fresh] at ran ⊢
  rw [ran]
  rfl

end EntryTransaction

/-! ## The server's answers -/

namespace Server

variable {server : Server} {i j : Nat} {txn : EntryTransaction}

/-- Request `i` with the answer it got, once it answered. -/
def answered (server : Server) (i : Nat) : Option (Request × Response) :=
  (server.transactions i).bind fun txn =>
    match txn.stage with
    | .answered response => some (txn.request, response)
    | _ => none

theorem answered_of_found {response : Response} (found : server.transactions i = some txn)
    (stage : txn.stage = .answered response) : server.answered i = some (txn.request, response) := by
  simp [answered, found, stage]

theorem answered_of_unanswered
    (unanswered : ∀ txn, server.transactions i = some txn → ∀ response, txn.stage ≠ .answered response) :
    server.answered i = none := by
  cases found : server.transactions i with
  | none => simp [answered, found]
  | some txn =>
      simp only [answered, found, Option.some_bind]
      split
      · rename_i response stage
        exact absurd stage (unanswered txn found response)
      · rfl

theorem step_of_none (missing : server.transactions i = none) : server.step i = server := by
  simp [step, missing]

theorem step_of_answered {response : Response} (found : server.transactions i = some txn)
    (stage : txn.stage = .answered response) : server.step i = server := by
  rw [step, found]
  dsimp only
  rw [show txn.step server.committed = (server.committed, txn) from by
    rcases txn with ⟨body, uid, shuffle, writes, stage⟩
    cases stage
    rfl, ← found, Function.update_eq_self]

theorem step_of_pending (found : server.transactions i = some txn)
    (pending : 0 < txn.stage.pending) :
    server.step i = ⟨server.committed,
      Function.update server.transactions i (some (txn.advance server.committed))⟩ := by
  simp only [step, found, EntryTransaction.step_of_pending pending, EntryTransaction.advance]

theorem step_of_saved {statusList : StatusList} {entry : StatusListEntry}
    (found : server.transactions i = some txn) (saved : txn.stage = .saved statusList entry) :
    server.step i = ⟨server.committed.overlay txn.writes, Function.update server.transactions i
      (some { txn with writes := [], stage := .answered (entryResponse statusList entry) })⟩ := by
  rcases txn with ⟨body, uid, shuffle, writes, stage⟩
  cases saved
  exact step_saved found

/-- Request `i`, when the step the scheduler gives it is the one it answers with. -/
def newlyAnswered (server : Server) (i : Nat) : List Nat :=
  if (server.answered i).isNone && ((server.step i).answered i).isSome then [i] else []

/-- The requests in the order they answered along a schedule. -/
def answerOrder (server : Server) : List Nat → List Nat
  | [] => []
  | i :: schedule => server.newlyAnswered i ++ (server.step i).answerOrder schedule

theorem newlyAnswered_of_answered (answered : (server.answered i).isSome) :
    server.newlyAnswered i = [] := by
  simp [newlyAnswered, Option.isSome_iff_ne_none.mp answered]

theorem newlyAnswered_of_unanswered (before : server.answered i = none)
    (after : (server.step i).answered i = none) : server.newlyAnswered i = [] := by
  simp [newlyAnswered, before, after]

theorem newlyAnswered_of_answering (before : server.answered i = none)
    (after : ((server.step i).answered i).isSome) : server.newlyAnswered i = [i] := by
  simp [newlyAnswered, before, after]

end Server

/-! ## Requests that answered -/

/-- Requests that each carry a fresh uuid of their own, as `uuid4` draws them. -/
structure FreshRequests (sys : System) (requests : List (JsonValue × String × Rearrangement Int)) :
    Prop where
  fresh_uuids : ∀ request ∈ requests, isUuid request.2.1 = true ∧ request.2.1 ∉ sys.issued
  uuids_nodup : (requests.map (·.2.1)).Nodup

namespace FreshRequests

variable {sys : System} {requests : List (JsonValue × String × Rearrangement Int)} {i j : Nat}
  {first second : JsonValue × String × Rearrangement Int}

theorem mem (atI : requests[i]? = some first) : first ∈ requests :=
  List.mem_iff_getElem?.mpr ⟨i, atI⟩

theorem eq_of_uid_eq (fresh : FreshRequests sys requests) (atI : requests[i]? = some first)
    (atJ : requests[j]? = some second) (same : first.2.1 = second.2.1) : i = j := by
  obtain ⟨below, rfl⟩ := List.getElem?_eq_some_iff.mp atI
  obtain ⟨below', rfl⟩ := List.getElem?_eq_some_iff.mp atJ
  have nodup := fresh.uuids_nodup
  rw [List.nodup_iff_injective_get] at nodup
  have indices := @nodup ⟨i, by simpa using below⟩ ⟨j, by simpa using below'⟩ (by simpa using same)
  exact Fin.mk.inj_iff.mp indices

end FreshRequests

/-- Two members of a list that `f` sends to one value are one member, when the values `f` gives
along the list are pairwise distinct. -/
theorem eq_of_filterMap_nodup {α β : Type} {f : α → Option β} {l : List α} {i j : α} {b : β}
    (nodup : (l.filterMap f).Nodup) (memI : i ∈ l) (memJ : j ∈ l) (atI : f i = some b)
    (atJ : f j = some b) : i = j := by
  have symmetric : Symmetric fun a a' => ∀ b ∈ f a, ∀ b' ∈ f a', b ≠ b' :=
    fun _ _ apart b bm b' bm' same => apart b' bm' b bm same.symm
  by_contra distinct
  exact (List.pairwise_filterMap.mp nodup).forall symmetric memI memJ distinct b atI b atJ rfl

/-- The slots the answers of some requests hand out are the slots those requests answered
with. -/
theorem Server.allocations_answered (server : Server) (order : List Nat) :
    allocations (order.filterMap server.answered) = order.filterMap server.slot? := by
  simp only [allocations, List.filterMap_filterMap]
  congr 1
  funext i
  simp only [Server.answered, Server.slot?]
  cases server.transactions i with
  | none => rfl
  | some txn =>
      rcases txn with ⟨_, _, _, _, stage⟩
      cases stage <;> rfl

theorem Server.answered_of_slot {server : Server} {i : Nat} (handed : (server.slot? i).isSome) :
    (server.answered i).isSome := by
  revert handed
  simp only [Server.slot?, Server.answered]
  cases server.transactions i with
  | none => exact id
  | some txn =>
      rcases txn with ⟨_, _, _, _, stage⟩
      cases stage <;> simp [EntryTransaction.slot?]

/-- The requests `order` of a server that started from `sys` answered, in that order, as a run
of the handler model from `sys` to `sys'`: its store is the committed one, and every uuid it drew
is one of theirs. -/
structure Answered (sys : System) (requests : List (JsonValue × String × Rearrangement Int))
    (server : Server) (order : List Nat) (sys' : System) : Prop where
  run : Run (fun _ => True) sys (order.filterMap server.answered) sys'
  committed : sys'.store = server.committed
  issued : ∀ uid ∈ sys'.issued, uid ∈ sys.issued ∨
    ∃ i ∈ order, ∃ request ∈ requests[i]?, request.2.1 = uid

namespace Answered

variable {sys sys' : System} {requests : List (JsonValue × String × Rearrangement Int)}
  {server server' : Server} {order : List Nat} {j : Nat}

/-- A step that keeps the committed store and the requests that answered. -/
theorem keep (answered : Answered sys requests server order sys')
    (kept : ∀ i ∈ order, server'.transactions i = server.transactions i)
    (same : server'.committed = server.committed) : Answered sys requests server' order sys' := by
  have trace : order.filterMap server'.answered = order.filterMap server.answered :=
    List.filterMap_congr fun i member => by simp only [Server.answered, kept i member]
  exact ⟨trace ▸ answered.run, answered.committed.trans same.symm, answered.issued⟩

/-- A request with a fresh uuid that answers as the handler model answers on the committed store
joins the run: its uuid was not drawn before. -/
theorem extend (answered : Answered sys requests server order sys')
    (fresh : FreshRequests sys requests) (unordered : j ∉ order)
    {request : JsonValue × String × Rearrangement Int} (atJ : requests[j]? = some request)
    {txn' : EntryTransaction} {response : Response}
    (updated : server'.transactions = Function.update server.transactions j (some txn'))
    (answeredNow : txn'.stage = .answered response)
    (requested : txn'.request = .createStatusListEntry request.1 request.2.1 request.2.2)
    (handled : createStatusListEntry server.committed request.1 request.2.1 request.2.2 =
      (server'.committed, response)) :
    Answered sys requests server' (order ++ [j])
      (handle sys' (.createStatusListEntry request.1 request.2.1 request.2.2)).1 := by
  have kept : ∀ i ∈ order, server'.transactions i = server.transactions i := fun i member => by
    rw [updated, Function.update_noteq fun (same : i = j) => unordered (same ▸ member)]
  have handledStore : createStatusListEntry sys'.store request.1 request.2.1 request.2.2 =
      (server'.committed, response) := by rw [answered.committed, handled]
  have unissued : request.2.1 ∉ sys'.issued := fun issued => by
    rcases answered.issued _ issued with old | ⟨i, member, _, atI, same⟩
    · exact (fresh.fresh_uuids request (FreshRequests.mem atJ)).2 old
    · exact unordered (fresh.eq_of_uid_eq atI atJ same ▸ member)
  have admissible : (Request.createStatusListEntry request.1 request.2.1 request.2.2).Admissible
      sys' := fun uid same => by
    cases same
    exact ⟨(fresh.fresh_uuids request (FreshRequests.mem atJ)).1, unissued⟩
  have trace : (order ++ [j]).filterMap server'.answered = order.filterMap server.answered ++
      [(.createStatusListEntry request.1 request.2.1 request.2.2, response)] := by
    rw [List.filterMap_append]
    congr 1
    · exact List.filterMap_congr fun i member => by simp only [Server.answered, kept i member]
    · simp [Server.answered_of_found (by rw [updated, Function.update_same]) answeredNow, requested]
  refine ⟨?_, by simp [handle, handleStore, handledStore], fun uid issued => ?_⟩
  · rw [trace]
    simpa [handle, handleStore, handledStore] using Run.step answered.run trivial admissible
  · simp only [handle, handleStore, Request.uuid?, Option.toList_some, List.singleton_append,
      List.mem_cons] at issued
    rcases issued with rfl | old
    · exact .inr ⟨j, List.mem_append_right _ (List.mem_singleton_self j), request, atJ, rfl⟩
    · rcases answered.issued uid old with old | ⟨i, member, rest⟩
      · exact .inl old
      · exact .inr ⟨i, List.mem_append_left _ member, rest⟩

/-- Requests whose answers form a run from a reachable state hand out no slot twice, and leave
one list per definition and sequence in the committed store: that run continues one from the
empty store, and every run from there hands out each slot once and keeps the store
consistent. -/
theorem slots_once {allowed : Request → Prop} (reachable : Reachable allowed sys)
    (answered : Answered sys requests server order sys')
    (ordered : ∀ i, (server.slot? i).isSome → i ∈ order) :
    (∀ i j slot, server.slot? i = some slot → server.slot? j = some slot → i = j) ∧
      (server.committed.lists.map fun statusList =>
        (statusList.definition_id, statusList.sequence)).Nodup := by
  obtain ⟨earlier, run⟩ := reachable.run answered.run
  have handedOnce := run.handedOutSlots.1
  rw [allocations, List.filterMap_append] at handedOnce
  have slots := (List.nodup_append.mp handedOnce).2.1
  rw [← allocations, Server.allocations_answered] at slots
  refine ⟨fun i j slot atI atJ => ?_, answered.committed ▸ run.consistent.sequences_nodup⟩
  exact eq_of_filterMap_nodup slots (ordered i (by rw [atI]; rfl)) (ordered j (by rw [atJ]; rfl))
    atI atJ

end Answered

/-! ## Requests for different definitions -/

/-- The footprint of a request for the definition `key` under the uuid `uid`, on a server that
started from the committed store `origin`: the definition, its lists in `origin`, and the list
the request may create. -/
def requestFootprint (origin : Store) (key uid : String) : Footprint :=
  ⟨key, (origin.lists.filter (·.definition_id == key)).map (·.id) ++ [uid]⟩

/-- Requests for pairwise different definitions, each with a fresh uuid of its own, sent to a
consistent store. -/
structure Separate (sys : System) (requests : List (JsonValue × String × Rearrangement Int))
    extends FreshRequests sys requests : Prop where
  consistent : Consistent sys
  keys_differ : requests.Pairwise fun first second =>
    ∀ key, definitionKey first.1 = .ok key → definitionKey second.1 ≠ .ok key

namespace Separate

variable {sys : System} {requests : List (JsonValue × String × Rearrangement Int)} {i j : Nat}
  {first second : JsonValue × String × Rearrangement Int} {key key' : String}

theorem key_ne (separate : Separate sys requests) (distinct : i ≠ j)
    (atI : requests[i]? = some first) (atJ : requests[j]? = some second)
    (named : definitionKey first.1 = .ok key) (named' : definitionKey second.1 = .ok key') :
    key ≠ key' := by
  rintro rfl
  obtain ⟨below, rfl⟩ := List.getElem?_eq_some_iff.mp atI
  obtain ⟨below', rfl⟩ := List.getElem?_eq_some_iff.mp atJ
  rcases Nat.lt_or_gt_of_ne distinct with less | greater
  · exact List.pairwise_iff_getElem.mp separate.keys_differ i j below below' less key named named'
  · exact List.pairwise_iff_getElem.mp separate.keys_differ j i below' below greater key named'
      named

/-- Two requests for different definitions have disjoint footprints. -/
theorem disjoint (separate : Separate sys requests) (distinct : i ≠ j)
    (atI : requests[i]? = some first) (atJ : requests[j]? = some second)
    (named : definitionKey first.1 = .ok key) (named' : definitionKey second.1 = .ok key') :
    (requestFootprint sys.store key first.2.1).Disjoint (requestFootprint sys.store key' second.2.1) := by
  have keys := separate.key_ne distinct atI atJ named named'
  refine ⟨keys, fun listId member member' => ?_⟩
  simp only [requestFootprint, List.mem_append, List.mem_map, List.mem_filter, beq_iff_eq,
    List.mem_singleton] at member member'
  have issuedOf : ∀ statusList ∈ sys.store.lists, statusList.id ∈ sys.issued := fun statusList listed =>
    (separate.consistent.list_issued statusList listed).1
  rcases member with ⟨statusList, ⟨listed, defined⟩, rfl⟩ | rfl <;>
    rcases member' with ⟨statusList', ⟨listed', defined'⟩, same⟩ | same
  · obtain rfl := List.inj_on_of_nodup_map separate.consistent.lists_nodup listed' listed same
    exact keys (defined.symm.trans defined')
  · exact (separate.fresh_uuids second (FreshRequests.mem atJ)).2 (same ▸ issuedOf statusList listed)
  · exact (separate.fresh_uuids first (FreshRequests.mem atI)).2 (same ▸ issuedOf statusList' listed')
  · exact distinct (separate.eq_of_uid_eq atI atJ same)

/-- A request of the server, not yet begun, lies within its footprint. -/
theorem within (separate : Separate sys requests) (atI : requests[i]? = some first)
    (named : definitionKey first.1 = .ok key) :
    (EntryTransaction.fresh first.1 first.2.1 first.2.2).Within
      (requestFootprint sys.store key first.2.1) :=
  ⟨by simp [requestFootprint, EntryTransaction.fresh], (separate.fresh_uuids first (FreshRequests.mem atI)).1,
    fun key' named' => (Except.ok.inj (named.symm.trans named')).symm, trivial,
    fun _ member => nomatch member⟩

/-- The store a server starts from is framed for every footprint of a request. -/
theorem framed (separate : Separate sys requests) (key uid : String) :
    (requestFootprint sys.store key uid).Framed sys.store :=
  ⟨fun statusList listed defined => by
      simp only [requestFootprint, List.mem_append, List.mem_map, List.mem_filter, beq_iff_eq]
      exact .inl ⟨statusList, ⟨listed, defined⟩, rfl⟩,
    separate.consistent.entries_keyed⟩

end Separate

/-! ## Runs of the server -/

theorem EntryTransaction.iterate_fresh_of_key_error {committed : Store} {body : JsonValue}
    {uid : String} {shuffle : Rearrangement Int} {cause : PyError}
    (failed : definitionKey body = .error cause) (steps : Nat) :
    ((EntryTransaction.advance committed)^[steps + 1] (.fresh body uid shuffle)).stage =
      .answered (badRequestOnStorage cause) := by
  rw [Function.iterate_succ_apply, Function.iterate_fixed (EntryTransaction.advance_of_answered
    (EntryTransaction.advance_fresh_of_key_error failed))]
  exact EntryTransaction.advance_fresh_of_key_error failed

theorem Stage.saved_of_pending {stage : Stage} (done : stage.pending = 0)
    (unanswered : ∀ response, stage ≠ .answered response) :
    ∃ statusList entry, stage = .saved statusList entry := by
  cases stage <;> simp_all [Stage.pending]

/-- How a server that started from `sys` with `requests` stands: the requests that answered,
in the order `order` they answered, are a run of the handler model from `sys` to `sys'`, whose
store is the committed one; every other request took its steps on the committed store as it is
now and has not answered, and the committed store is framed for its footprint. -/
structure Serialized (sys : System) (requests : List (JsonValue × String × Rearrangement Int))
    (server : Server) (order : List Nat) (sys' : System)
    extends Answered sys requests server order sys' : Prop where
  nodup : order.Nodup
  answered : ∀ i ∈ order, ∃ request ∈ requests[i]?, ∃ txn response,
    server.transactions i = some txn ∧ txn.stage = .answered response ∧
      txn.request = .createStatusListEntry request.1 request.2.1 request.2.2
  pending : ∀ i ∉ order, ∃ steps ≤ 5, server.transactions i = requests[i]?.map fun request =>
    (EntryTransaction.advance server.committed)^[steps] (.fresh request.1 request.2.1 request.2.2)
  unanswered : ∀ i ∉ order, ∀ txn, server.transactions i = some txn →
    ∀ response, txn.stage ≠ .answered response
  framed : ∀ i ∉ order, ∀ request ∈ requests[i]?, ∀ key, definitionKey request.1 = .ok key →
    (requestFootprint sys.store key request.2.1).Framed server.committed

namespace Serialized

variable {sys sys' : System} {requests : List (JsonValue × String × Rearrangement Int)}
  {server : Server} {order : List Nat} {i j : Nat} {txn : EntryTransaction}

/-- No request has answered when the server starts. -/
theorem start (separate : Separate sys requests) :
    Serialized sys requests (Server.start sys.store
      (requests.map fun request => .fresh request.1 request.2.1 request.2.2)) [] sys where
  run := .nil
  committed := rfl
  nodup := List.nodup_nil
  issued := fun _ member => .inl member
  answered := fun _ member => nomatch member
  pending := fun i _ => ⟨0, Nat.zero_le _, by simp [Server.start, List.getElem?_map]⟩
  unanswered := fun i _ txn found response => by
    simp only [Server.start, List.getElem?_map, Option.map_eq_some'] at found
    obtain ⟨request, -, rfl⟩ := found
    exact nofun
  framed := fun _ _ request _ key _ => separate.framed key request.2.1

/-- A request that has not answered stands after some of its first five steps on the committed
store. -/
theorem found_pending (serialized : Serialized sys requests server order sys')
    (unordered : j ∉ order) (found : server.transactions j = some txn) :
    ∃ request ∈ requests[j]?, ∃ steps ≤ 5, txn =
      (EntryTransaction.advance server.committed)^[steps] (.fresh request.1 request.2.1 request.2.2) := by
  obtain ⟨steps, early, pending⟩ := serialized.pending j unordered
  rw [found, eq_comm, Option.map_eq_some'] at pending
  obtain ⟨request, atJ, rfl⟩ := pending
  exact ⟨request, atJ, steps, early, rfl⟩

/-- A request that answers as the handler model answers on the committed store joins the
run, when every other request stands on the new committed store as it stood on the old. -/
theorem answer (serialized : Serialized sys requests server order sys')
    (separate : Separate sys requests) (unordered : j ∉ order)
    {request : JsonValue × String × Rearrangement Int} (atJ : requests[j]? = some request)
    {server' : Server} {txn' : EntryTransaction} {response : Response}
    (updated : server'.transactions = Function.update server.transactions j (some txn'))
    (answered : txn'.stage = .answered response)
    (requested : txn'.request = .createStatusListEntry request.1 request.2.1 request.2.2)
    (handled : createStatusListEntry server.committed request.1 request.2.1 request.2.2 =
      (server'.committed, response))
    (pending' : ∀ i ∉ order, i ≠ j → ∃ steps ≤ 5, server.transactions i =
      requests[i]?.map fun request => (EntryTransaction.advance server'.committed)^[steps]
        (.fresh request.1 request.2.1 request.2.2))
    (framed' : ∀ i ∉ order, i ≠ j → ∀ request ∈ requests[i]?, ∀ key,
      definitionKey request.1 = .ok key →
        (requestFootprint sys.store key request.2.1).Framed server'.committed) :
    Serialized sys requests server' (order ++ [j])
      (handle sys' (.createStatusListEntry request.1 request.2.1 request.2.2)).1 := by
  have kept : ∀ i, i ≠ j → server'.transactions i = server.transactions i := fun i other => by
    rw [updated, Function.update_noteq other]
  have split : ∀ {i}, i ∉ order ++ [j] → i ∉ order ∧ i ≠ j := fun outside =>
    ⟨fun member => outside (List.mem_append_left _ member),
      fun same => outside (List.mem_append_right _ (List.mem_singleton.mpr same))⟩
  refine ⟨serialized.toAnswered.extend separate.toFreshRequests unordered atJ updated answered
    requested handled, serialized.nodup.append (List.nodup_singleton j)
      (List.disjoint_singleton.mpr unordered), fun i member => ?_, fun i outside => ?_,
    fun i outside txn found => ?_, fun i outside => (framed' i (split outside).1 (split outside).2)⟩
  · rcases List.mem_append.mp member with member | same
    · rw [kept i fun (same : i = j) => unordered (same ▸ member)]
      exact serialized.answered i member
    · obtain rfl := List.mem_singleton.mp same
      exact ⟨request, atJ, txn', response, by rw [updated, Function.update_same], answered,
        requested⟩
  · obtain ⟨unordered', other'⟩ := split outside
    rw [kept i other']
    exact pending' i unordered' other'
  · obtain ⟨unordered', other'⟩ := split outside
    rw [kept i other'] at found
    exact serialized.unanswered i unordered' txn found

/-- A request that takes a phase without answering stays in flight on the same committed
store. -/
theorem phase (serialized : Serialized sys requests server order sys') (unordered : j ∉ order)
    {request : JsonValue × String × Rearrangement Int} (atJ : requests[j]? = some request)
    {steps : Nat} (early : steps + 1 ≤ 5) {server' : Server}
    (updated : server'.transactions = Function.update server.transactions j
      (some ((EntryTransaction.advance server.committed)^[steps + 1]
        (.fresh request.1 request.2.1 request.2.2))))
    (same : server'.committed = server.committed)
    (unanswered : ∀ response, ((EntryTransaction.advance server.committed)^[steps + 1]
      (.fresh request.1 request.2.1 request.2.2)).stage ≠ .answered response) :
    Serialized sys requests server' order sys' := by
  have kept : ∀ i, i ≠ j → server'.transactions i = server.transactions i := fun i other => by
    rw [updated, Function.update_noteq other]
  have other : ∀ {i}, i ∈ order → i ≠ j := fun member same => unordered (same ▸ member)
  refine ⟨serialized.toAnswered.keep (fun i member => kept i (other member)) same,
    serialized.nodup, ?_, ?_, ?_, same ▸ serialized.framed⟩
  · intro i member
    rw [kept i (other member)]
    exact serialized.answered i member
  · intro i unordered'
    by_cases stepped : i = j
    · subst stepped
      exact ⟨steps + 1, early, by rw [updated, Function.update_same, atJ, same]; rfl⟩
    · rw [kept i stepped, same]
      exact serialized.pending i unordered'
  · intro i unordered' txn found
    by_cases stepped : i = j
    · subst stepped
      rw [updated, Function.update_same] at found
      cases found
      exact unanswered
    · rw [kept i stepped] at found
      exact serialized.unanswered i unordered' txn found

/-- A commit of a request leaves every other request standing on the new committed store as it
stood on the old, and the new store framed for its footprint: the records it writes lie outside
their footprints. -/
theorem commit_kept (serialized : Serialized sys requests server order sys')
    (separate : Separate sys requests) (unordered : j ∉ order)
    {request : JsonValue × String × Rearrangement Int} (atJ : requests[j]? = some request)
    {steps : Nat} {statusList : StatusList} {entry : StatusListEntry}
    (saved : ((EntryTransaction.advance server.committed)^[steps]
      (.fresh request.1 request.2.1 request.2.2)).stage = .saved statusList entry) :
    let committed' := server.committed.overlay ((EntryTransaction.advance server.committed)^[steps]
      (.fresh request.1 request.2.1 request.2.2)).writes
    (∀ i ∉ order, i ≠ j → ∃ steps ≤ 5, server.transactions i =
      requests[i]?.map fun request => (EntryTransaction.advance committed')^[steps]
        (.fresh request.1 request.2.1 request.2.2)) ∧
    (∀ i ∉ order, i ≠ j → ∀ request ∈ requests[i]?, ∀ key, definitionKey request.1 = .ok key →
      (requestFootprint sys.store key request.2.1).Framed committed') := by
  intro committed'
  cases named : definitionKey request.1 with
  | error cause =>
      exfalso
      cases steps with
      | zero => cases saved
      | succ steps =>
          rw [EntryTransaction.iterate_fresh_of_key_error named] at saved
          cases saved
  | ok key =>
      have owned := ((separate.within atJ named).iterate
        (serialized.framed j unordered request atJ key named) steps).writes
      have outside : ∀ {i}, i ∉ order → i ≠ j → ∀ {request'}, requests[i]? = some request' →
          ∀ {key'}, definitionKey request'.1 = .ok key' →
            (requestFootprint sys.store key' request'.2.1).part committed' =
                (requestFootprint sys.store key' request'.2.1).part server.committed ∧
              (requestFootprint sys.store key' request'.2.1).Framed committed' :=
        fun {_} unordered' other {_} atI {_} named' => Footprint.part_overlay_foreign
          (serialized.framed _ unordered' _ atI _ named') fun saved member =>
            (owned saved member).foreign (separate.disjoint (Ne.symm other) atJ atI named named')
      refine ⟨fun i unordered' other => ?_, fun i unordered' other request' atI key' named' =>
        (outside unordered' other atI named').2⟩
      obtain ⟨steps', early', found⟩ := serialized.pending i unordered'
      refine ⟨steps', early', found.trans ?_⟩
      cases atI : requests[i]? with
      | none => rfl
      | some request' =>
          rw [Option.map_some', Option.map_some']
          cases named' : definitionKey request'.1 with
          | error cause =>
              cases steps' with
              | zero => rfl
              | succ steps' =>
                  rw [atI, Option.map_some'] at found
                  exact absurd (EntryTransaction.iterate_fresh_of_key_error named' steps')
                    (serialized.unanswered i unordered' _ found _)
          | ok key' =>
              obtain ⟨same, framed'⟩ := outside unordered' other atI named'
              exact congrArg some ((separate.within atI named').iterate_advance_congr
                (serialized.framed i unordered' request' atI key' named') framed' same.symm steps')

/-- The requests that answered are the ones in the order. -/
theorem mem_order_iff (serialized : Serialized sys requests server order sys') (i : Nat) :
    i ∈ order ↔ (server.answered i).isSome := by
  by_cases ordered : i ∈ order
  · obtain ⟨request, -, txn, response, found, stage, -⟩ := serialized.answered i ordered
    simp [ordered, Server.answered_of_found found stage]
  · simp [ordered, Server.answered_of_unanswered (serialized.unanswered i ordered)]

/-- Every step of the scheduler keeps the server serialized, the request it steps joining the
order when it answers. -/
theorem step (serialized : Serialized sys requests server order sys')
    (separate : Separate sys requests) (j : Nat) :
    ∃ sys'', Serialized sys requests (server.step j) (order ++ server.newlyAnswered j) sys'' := by
  cases found : server.transactions j with
  | none =>
      have unchanged := Server.step_of_none found
      have silent : server.answered j = none := by simp [Server.answered, found]
      rw [Server.newlyAnswered_of_unanswered silent (by rw [unchanged]; exact silent),
        List.append_nil, unchanged]
      exact ⟨sys', serialized⟩
  | some txn =>
      by_cases ordered : j ∈ order
      · obtain ⟨request, -, txn', response, found', stage, -⟩ := serialized.answered j ordered
        rw [found] at found'
        cases found'
        rw [Server.newlyAnswered_of_answered ((serialized.mem_order_iff j).mp ordered),
          List.append_nil, Server.step_of_answered found stage]
        exact ⟨sys', serialized⟩
      have before : server.answered j = none :=
        Server.answered_of_unanswered (serialized.unanswered j ordered)
      obtain ⟨request, atJ, steps, early, rfl⟩ := serialized.found_pending ordered found
      have unanswered := serialized.unanswered j ordered _ found
      have requested : ∀ steps, ((EntryTransaction.advance server.committed)^[steps]
          (.fresh request.1 request.2.1 request.2.2)).request =
            .createStatusListEntry request.1 request.2.1 request.2.2 :=
        EntryTransaction.request_iterate
      have counted : ((EntryTransaction.advance server.committed)^[steps]
          (.fresh request.1 request.2.1 request.2.2)).stage.pending + steps = 5 := by
        rcases EntryTransaction.pending_iterate_fresh server.committed request.1 request.2.1
          request.2.2 early with counted | ⟨response, answered⟩
        · exact counted
        · exact absurd answered (unanswered response)
      by_cases pending : 0 < ((EntryTransaction.advance server.committed)^[steps]
          (.fresh request.1 request.2.1 request.2.2)).stage.pending
      · have stepped := Server.step_of_pending found pending
        rw [← Function.iterate_succ_apply' (EntryTransaction.advance server.committed)] at stepped
        by_cases answeredNow : ∃ response, ((EntryTransaction.advance server.committed)^[steps + 1]
            (.fresh request.1 request.2.1 request.2.2)).stage = .answered response
        · obtain ⟨response, answered⟩ := answeredNow
          have found' : (server.step j).transactions j = some
              ((EntryTransaction.advance server.committed)^[steps + 1]
                (.fresh request.1 request.2.1 request.2.2)) := by
            rw [stepped]
            exact Function.update_same _ _ _
          rw [Server.newlyAnswered_of_answering before
            (by rw [Server.answered_of_found found' answered]; rfl)]
          refine ⟨_, serialized.answer separate ordered atJ (by rw [stepped]) answered
            (requested _) ?_ ?_ ?_⟩
          · rw [stepped]
            exact EntryTransaction.createStatusListEntry_of_answered (by omega) answered
          · rw [stepped]
            exact fun i unordered' _ => serialized.pending i unordered'
          · rw [stepped]
            exact fun i unordered' _ => serialized.framed i unordered'
        · push_neg at answeredNow
          rw [Server.newlyAnswered_of_unanswered before
            (Server.answered_of_unanswered fun txn' found' response => by
              rw [stepped] at found'
              cases (Function.update_same _ _ _).symm.trans found'
              exact answeredNow response), List.append_nil]
          exact ⟨sys', serialized.phase ordered atJ (by omega) (by rw [stepped]) (by rw [stepped])
            answeredNow⟩
      · obtain ⟨statusList, entry, saved⟩ := Stage.saved_of_pending (by omega) unanswered
        have stepped := Server.step_of_saved found saved
        have updated : (server.step j).transactions = Function.update server.transactions j
            (some { (EntryTransaction.advance server.committed)^[steps]
              (.fresh request.1 request.2.1 request.2.2) with
                writes := [], stage := .answered (entryResponse statusList entry) }) := by
          rw [stepped]
        obtain ⟨pending', framed'⟩ := serialized.commit_kept separate ordered atJ saved
        have found' : (server.step j).transactions j = some
            { (EntryTransaction.advance server.committed)^[steps]
              (.fresh request.1 request.2.1 request.2.2) with
                writes := [], stage := .answered (entryResponse statusList entry) } := by
          rw [updated, Function.update_same]
        rw [Server.newlyAnswered_of_answering before
          (by rw [Server.answered_of_found found' rfl]; rfl)]
        refine ⟨_, serialized.answer separate ordered atJ updated rfl
          (requested _) ?_ (by rw [stepped]; exact pending')
          (by rw [stepped]; exact framed')⟩
        rw [stepped]
        exact EntryTransaction.createStatusListEntry_of_saved early saved

/-- Every schedule keeps the server serialized, the requests joining the order as they
answer. -/
theorem run_schedule (serialized : Serialized sys requests server order sys')
    (separate : Separate sys requests) (schedule : List Nat) :
    ∃ sys'', Serialized sys requests (server.run schedule)
      (order ++ server.answerOrder schedule) sys'' := by
  induction schedule generalizing server order sys' with
  | nil => exact ⟨sys', by simpa [Server.answerOrder] using serialized⟩
  | cons j schedule inductionHypothesis =>
      obtain ⟨sys'', stepped⟩ := serialized.step separate j
      rw [Server.answerOrder, ← List.append_assoc]
      exact inductionHypothesis stepped

end Serialized

/-- Requests of `create_status_list_entry` for pairwise different definitions, each with a fresh
uuid of its own, sent together to a reachable state: whatever the order in which the scheduler
interleaves their phases and commits, the requests that answered, taken in the order the
schedule made them answer, with the answers they got, are a run of the handler model from that
state, one request after another, and that run leaves exactly the store the server
committed. -/
theorem allocations_serialize_across_definitions {allowed : Request → Prop} {sys : System}
    (reachable : Reachable allowed sys)
    {requests : List (JsonValue × String × Rearrangement Int)}
    (uuids : ∀ request ∈ requests, isUuid request.2.1 = true ∧ request.2.1 ∉ sys.issued)
    (distinctUuids : (requests.map (·.2.1)).Nodup)
    (distinctDefinitions : requests.Pairwise fun first second =>
      ∀ key, definitionKey first.1 = .ok key → definitionKey second.1 ≠ .ok key)
    (schedule : List Nat) :
    let start := Server.start sys.store
      (requests.map fun request => .fresh request.1 request.2.1 request.2.2)
    let server := start.run schedule
    let order := start.answerOrder schedule
    order.Nodup ∧ (∀ i, i ∈ order ↔ (server.answered i).isSome) ∧
      ∃ sys', Run (fun _ => True) sys (order.filterMap server.answered) sys' ∧
        sys'.store = server.committed := by
  intro start server order
  have separate : Separate sys requests :=
    ⟨⟨uuids, distinctUuids⟩, reachable.consistent, distinctDefinitions⟩
  obtain ⟨sys', serialized⟩ := (Serialized.start separate).run_schedule separate schedule
  rw [List.nil_append] at serialized
  exact ⟨serialized.nodup, serialized.mem_order_iff, sys', serialized.run, serialized.committed⟩

theorem two_definitions_allocations_serialize :
    let defined := (handle (handle System.initial (.createStatusListDef unitSizes firstUuid)).1
      (.createStatusListDef unitSizes secondUuid)).1
    let requests := [(entryRequestBody firstUuid, thirdUuid, reversal),
      (entryRequestBody secondUuid, fourthUuid, reversal)]
    let start := Server.start defined.store
      (requests.map fun request => .fresh request.1 request.2.1 request.2.2)
    let schedule := [0, 1, 1, 0, 0, 1, 0, 1, 1, 0, 1, 0]
    let server := start.run schedule
    let order := start.answerOrder schedule
    Reachable (fun _ => True) defined ∧
      (∀ request ∈ requests, isUuid request.2.1 = true ∧ request.2.1 ∉ defined.issued) ∧
      (requests.map (·.2.1)).Nodup ∧
      requests.Pairwise (fun first second =>
        ∀ key, definitionKey first.1 = .ok key → definitionKey second.1 ≠ .ok key) ∧
      order = [1, 0] ∧
      (order.Nodup ∧ (∀ i, i ∈ order ↔ (server.answered i).isSome) ∧
        ∃ sys', Run (fun _ => True) defined (order.filterMap server.answered) sys' ∧
          sys'.store = server.committed) := by
  intro defined requests start schedule server order
  have reachable : Reachable (fun _ => True) defined :=
    ⟨_, .step (.step .nil trivial (by rintro uid ⟨⟩; decide)) trivial (by rintro uid ⟨⟩; decide)⟩
  have uuids : ∀ request ∈ requests, isUuid request.2.1 = true ∧ request.2.1 ∉ defined.issued := by
    decide
  have distinctUuids : (requests.map (·.2.1)).Nodup := by decide
  have distinctDefinitions : requests.Pairwise (fun first second =>
      ∀ key, definitionKey first.1 = .ok key → definitionKey second.1 ≠ .ok key) := by
    have first : definitionKey (entryRequestBody firstUuid) = .ok firstUuid := rfl
    have second : definitionKey (entryRequestBody secondUuid) = .ok secondUuid := rfl
    have differ : firstUuid ≠ secondUuid := by decide
    refine List.pairwise_pair.mpr fun key named same => differ ?_
    have keys : (Except.ok firstUuid : Except PyError String) = .ok secondUuid := by
      rw [← first, ← second]
      exact named.trans same.symm
    exact Except.ok.inj keys
  have answered : order = [1, 0] := by
    simp only [order, start, schedule, defined, requests]
    decide
  exact ⟨reachable, uuids, distinctUuids, distinctDefinitions, answered,
    allocations_serialize_across_definitions reachable uuids distinctUuids distinctDefinitions _⟩

/-- Requests of `create_status_list_entry` for pairwise different definitions, each with a fresh
uuid of its own, sent together to a reachable state: whatever the order in which the scheduler
interleaves their phases and commits, no two requests answer with one slot, and the committed
store holds at most one list per definition and sequence. -/
theorem different_definitions_hand_out_slots_once {allowed : Request → Prop} {sys : System}
    (reachable : Reachable allowed sys)
    {requests : List (JsonValue × String × Rearrangement Int)}
    (uuids : ∀ request ∈ requests, isUuid request.2.1 = true ∧ request.2.1 ∉ sys.issued)
    (distinctUuids : (requests.map (·.2.1)).Nodup)
    (distinctDefinitions : requests.Pairwise fun first second =>
      ∀ key, definitionKey first.1 = .ok key → definitionKey second.1 ≠ .ok key)
    (schedule : List Nat) :
    let server := (Server.start sys.store
      (requests.map fun request => .fresh request.1 request.2.1 request.2.2)).run schedule
    (∀ i j slot, server.slot? i = some slot → server.slot? j = some slot → i = j) ∧
      (server.committed.lists.map fun statusList =>
        (statusList.definition_id, statusList.sequence)).Nodup := by
  intro server
  have separate : Separate sys requests :=
    ⟨⟨uuids, distinctUuids⟩, reachable.consistent, distinctDefinitions⟩
  obtain ⟨sys', serialized⟩ := (Serialized.start separate).run_schedule separate schedule
  exact serialized.slots_once reachable fun i handed =>
    (serialized.mem_order_iff i).mpr (Server.answered_of_slot handed)

theorem two_definitions_slots_handed_out_once :
    let defined := (handle (handle System.initial (.createStatusListDef unitSizes firstUuid)).1
      (.createStatusListDef unitSizes secondUuid)).1
    let requests := [(entryRequestBody firstUuid, thirdUuid, reversal),
      (entryRequestBody secondUuid, fourthUuid, reversal)]
    let server := (Server.start defined.store
      (requests.map fun request => .fresh request.1 request.2.1 request.2.2)).run
        [0, 1, 1, 0, 0, 1, 0, 1, 1, 0]
    Reachable (fun _ => True) defined ∧
      (∀ request ∈ requests, isUuid request.2.1 = true ∧ request.2.1 ∉ defined.issued) ∧
      (requests.map (·.2.1)).Nodup ∧
      requests.Pairwise (fun first second =>
        ∀ key, definitionKey first.1 = .ok key → definitionKey second.1 ≠ .ok key) ∧
      (∀ i j slot, server.slot? i = some slot → server.slot? j = some slot → i = j) ∧
      (server.committed.lists.map fun statusList =>
        (statusList.definition_id, statusList.sequence)).Nodup := by
  intro defined requests server
  have reachable : Reachable (fun _ => True) defined :=
    ⟨_, .step (.step .nil trivial (by rintro uid ⟨⟩; decide)) trivial (by rintro uid ⟨⟩; decide)⟩
  have uuids : ∀ request ∈ requests, isUuid request.2.1 = true ∧ request.2.1 ∉ defined.issued := by
    decide
  have distinctUuids : (requests.map (·.2.1)).Nodup := by decide
  have distinctDefinitions : requests.Pairwise (fun first second =>
      ∀ key, definitionKey first.1 = .ok key → definitionKey second.1 ≠ .ok key) := by
    have first : definitionKey (entryRequestBody firstUuid) = .ok firstUuid := rfl
    have second : definitionKey (entryRequestBody secondUuid) = .ok secondUuid := rfl
    refine List.pairwise_pair.mpr fun key named same =>
      absurd ?_ (by decide : firstUuid ≠ secondUuid)
    exact Except.ok.inj (first.symm.trans (named.trans (same.symm.trans second)))
  exact ⟨reachable, uuids, distinctUuids, distinctDefinitions,
    different_definitions_hand_out_slots_once reachable uuids distinctUuids distinctDefinitions _⟩

end StatusListPlugin
