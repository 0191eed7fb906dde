import StatusListPlugin.Serializable

/-!
# Allocations one at a time

The `with threading.Lock()` of `create_status_list_entry` builds a new lock on every call, so it
holds no other request back, and two requests for one definition can conflict
(`overlapping_allocations_conflict`). A lock that all requests shared would let each request run
its transaction from its first read to its commit before the next one begins: a schedule made of
one block of six steps per request. Under such a schedule the requests, for any definitions,
answer in the order of their blocks exactly as the handler model answers them one after another,
and the server commits the store that run leaves. So a shared lock would hand out each slot
once, as `overlapping_allocations_conflict` shows the code does not
(`shared_lock_hands_out_slots_once`).
-/

namespace StatusListPlugin

namespace Server

variable {server : Server} {j : Nat}

/-- The steps of a schedule in two parts are the steps of the first part, then of the second. -/
theorem run_append (first second : List Nat) :
    server.run (first ++ second) = (server.run first).run second :=
  List.foldl_append _ _ _ _

theorem run_replicate_of_none (missing : server.transactions j = none) (steps : Nat) :
    server.run (List.replicate steps j) = server := by
  induction steps with
  | zero => rfl
  | succ steps inductionHypothesis =>
      rw [List.replicate_succ', run_append, inductionHypothesis]
      exact step_of_none missing

/-- The scheduler never makes up a request. -/
theorem transactions_run_of_none {i : Nat} (missing : server.transactions i = none)
    (schedule : List Nat) : (server.run schedule).transactions i = none := by
  induction schedule generalizing server with
  | nil => exact missing
  | cons j schedule inductionHypothesis =>
      refine inductionHypothesis ?_
      by_cases same : i = j
      · subst same
        rw [step_of_none missing]
        exact missing
      · unfold step
        split
        · exact missing
        · exact (Function.update_noteq same _ _).trans missing

/-- A request that has not begun, given six steps in a row, commits the store
`create_status_list_entry` leaves and answers as it answers; the other requests stand as they
stood. -/
theorem run_block {body : JsonValue} {uid : String} {shuffle : Rearrangement Int}
    (found : server.transactions j = some (.fresh body uid shuffle)) :
    ∃ txn, server.run (List.replicate 6 j) =
        ⟨(createStatusListEntry server.committed body uid shuffle).1,
          Function.update server.transactions j (some txn)⟩ ∧
      txn.stage = .answered (createStatusListEntry server.committed body uid shuffle).2 ∧
      txn.request = .createStatusListEntry body uid shuffle := by
  set prepared := (EntryTransaction.advance server.committed)^[5] (.fresh body uid shuffle)
  have read : server.run (List.replicate 5 j) =
      ⟨server.committed, Function.update server.transactions j (some prepared)⟩ := by
    have absent : ∀ i, i ≠ j → (List.replicate 5 j).count i = 0 := fun i same =>
      List.count_eq_zero.mpr fun member => same (List.mem_replicate.mp member).2
    refine (run_of_reads fun i txn found' => ?_).trans (congrArg _ (funext fun i => ?_))
    · by_cases same : i = j
      · subst same
        rw [found] at found'
        cases found'
        exact .inl (by simp [EntryTransaction.fresh, Stage.pending])
      · exact .inl (by rw [absent i same]; exact Nat.zero_le _)
    · by_cases same : i = j
      · subst same
        simp [found, prepared]
      · rw [Function.update_noteq same, absent i same]
        cases server.transactions i <;> rfl
  have found' : (server.run (List.replicate 5 j)).transactions j = some prepared := by
    rw [read]
    exact Function.update_same _ _ _
  have last : server.run (List.replicate 6 j) = (server.run (List.replicate 5 j)).step j :=
    run_append (List.replicate 5 j) [j]
  have requested : prepared.request = .createStatusListEntry body uid shuffle :=
    EntryTransaction.request_iterate 5
  by_cases answeredEarly : ∃ response, prepared.stage = .answered response
  · obtain ⟨response, answered⟩ := answeredEarly
    have handled := EntryTransaction.createStatusListEntry_of_answered le_rfl answered
    refine ⟨prepared, ?_, by rw [answered, handled], requested⟩
    rw [last, step_of_answered found' answered, read, handled]
  · push_neg at answeredEarly
    have done : prepared.stage.pending = 0 := by
      rcases EntryTransaction.pending_iterate_fresh server.committed body uid shuffle le_rfl with
        counted | ⟨response, answered⟩
      · have counted : prepared.stage.pending + 5 = 5 := counted
        omega
      · exact absurd answered (answeredEarly response)
    obtain ⟨statusList, entry, saved⟩ := Stage.saved_of_pending done answeredEarly
    have handled := EntryTransaction.createStatusListEntry_of_saved le_rfl saved
    refine ⟨{ prepared with writes := [], stage := .answered (entryResponse statusList entry) },
      ?_, by rw [handled], requested⟩
    rw [last, step_of_saved found' saved, handled, read]
    simp only [Function.update_idem]

end Server

/-- How a server that started from `sys` with `requests` stands after the blocks of the requests
`done`: those requests answered, in that order, as a run of the handler model from `sys` to
`sys'`, and every other request has not begun. -/
structure Serial (sys : System) (requests : List (JsonValue × String × Rearrangement Int))
    (server : Server) (done : List Nat) (sys' : System)
    extends Answered sys requests server done sys' : Prop where
  answered : ∀ i ∈ done, i < requests.length → (server.answered i).isSome
  waiting : ∀ i ∉ done, server.transactions i =
    requests[i]?.map fun request => .fresh request.1 request.2.1 request.2.2

namespace Serial

variable {sys sys' : System} {requests : List (JsonValue × String × Rearrangement Int)}
  {server : Server} {done : List Nat} {j : Nat}

theorem start : Serial sys requests (Server.start sys.store
    (requests.map fun request => .fresh request.1 request.2.1 request.2.2)) [] sys where
  run := .nil
  committed := rfl
  issued := fun _ member => .inl member
  answered := fun _ member => nomatch member
  waiting := fun i _ => by simp [Server.start, List.getElem?_map]

/-- The block of a request that has not begun keeps the server serial. -/
theorem block (serial : Serial sys requests server done sys') (fresh : FreshRequests sys requests)
    (unordered : j ∉ done) :
    ∃ sys'', Serial sys requests (server.run (List.replicate 6 j)) (done ++ [j]) sys'' := by
  have split : ∀ {i}, i ∉ done ++ [j] → i ∉ done ∧ i ≠ j := fun outside =>
    ⟨fun member => outside (List.mem_append_left _ member),
      fun same => outside (List.mem_append_right _ (List.mem_singleton.mpr same))⟩
  have waiting := serial.waiting j unordered
  cases atJ : requests[j]? with
  | none =>
      rw [atJ, Option.map_none'] at waiting
      have missing : server.answered j = none := by simp [Server.answered, waiting]
      refine ⟨sys', ?_⟩
      rw [Server.run_replicate_of_none waiting]
      refine ⟨⟨?_, serial.committed, fun uid issued => ?_⟩, fun i member below => ?_,
        fun i outside => serial.waiting i (split outside).1⟩
      · simpa [List.filterMap_append, missing] using serial.run
      · rcases serial.issued uid issued with old | ⟨i, member, rest⟩
        · exact .inl old
        · exact .inr ⟨i, List.mem_append_left _ member, rest⟩
      · rcases List.mem_append.mp member with member | same
        · exact serial.answered i member below
        · obtain rfl := List.mem_singleton.mp same
          exact absurd (List.getElem?_eq_none_iff.mp atJ) (Nat.not_le.mpr below)
  | some request =>
      rw [atJ, Option.map_some'] at waiting
      obtain ⟨txn, ran, answered, requested⟩ := Server.run_block waiting
      have updated : (server.run (List.replicate 6 j)).transactions =
          Function.update server.transactions j (some txn) := by rw [ran]
      have kept : ∀ i, i ≠ j → (server.run (List.replicate 6 j)).transactions i =
          server.transactions i := fun i other => by rw [updated, Function.update_noteq other]
      have found : (server.run (List.replicate 6 j)).transactions j = some txn := by
        rw [updated, Function.update_same]
      refine ⟨_, serial.toAnswered.extend fresh unordered atJ updated answered requested
        (by rw [ran]), fun i member below => ?_, fun i outside => ?_⟩
      · rcases List.mem_append.mp member with member | same
        · rw [Server.answered, kept i fun (same : i = j) => unordered (same ▸ member)]
          exact serial.answered i member below
        · rw [List.mem_singleton.mp same, Server.answered_of_found found answered]
          rfl
      · obtain ⟨unordered', other⟩ := split outside
        rw [kept i other]
        exact serial.waiting i unordered'

/-- Blocks of requests that have not begun, one after another, keep the server serial. -/
theorem blocks (serial : Serial sys requests server done sys') (fresh : FreshRequests sys requests)
    {order : List Nat} (distinct : order.Nodup) (unordered : ∀ i ∈ order, i ∉ done) :
    ∃ sys'', Serial sys requests (server.run (order.flatMap fun i => List.replicate 6 i))
      (done ++ order) sys'' := by
  induction order generalizing server done sys' with
  | nil => exact ⟨sys', by simpa using serial⟩
  | cons j order inductionHypothesis =>
      obtain ⟨sys'', stepped⟩ := serial.block fresh (unordered j (List.mem_cons_self j order))
      obtain ⟨fresh', distinct'⟩ := List.nodup_cons.mp distinct
      have outside : ∀ i ∈ order, i ∉ done ++ [j] := fun i member member' => by
        rcases List.mem_append.mp member' with old | same
        · exact unordered i (List.mem_cons_of_mem j member) old
        · exact fresh' (List.mem_singleton.mp same ▸ member)
      rw [List.flatMap_cons, Server.run_append]
      simpa using inductionHypothesis stepped distinct' outside

/-- A request has answered exactly when its block has run. -/
theorem answered_iff (serial : Serial sys requests server done sys')
    (beyond : ∀ i, requests.length ≤ i → server.transactions i = none) (i : Nat) :
    (server.answered i).isSome ↔ i ∈ done ∧ i < requests.length := by
  by_cases member : i ∈ done
  · by_cases below : i < requests.length
    · simp [member, below, serial.answered i member below]
    · simp [member, below, Server.answered, beyond i (Nat.not_lt.mp below)]
  · have waiting := serial.waiting i member
    cases atI : requests[i]? with
    | none => simp [member, Server.answered, waiting, atI]
    | some request =>
        rw [atI, Option.map_some'] at waiting
        simp [member, Server.answered, waiting, EntryTransaction.fresh]

end Serial

/-- Requests of `create_status_list_entry`, each with a fresh uuid of its own and for any
definitions, one for the same definition as another included, whose transactions run one at a
time in the order `order`, each from its first read to its commit: the requests of `order`
answer, in that order and with those answers, as the handler model answers them one after
another from the state they were sent to, and that run leaves exactly the store the server
committed. -/
theorem allocations_one_at_a_time_follow_handler {sys : System}
    {requests : List (JsonValue × String × Rearrangement Int)}
    (uuids : ∀ request ∈ requests, isUuid request.2.1 = true ∧ request.2.1 ∉ sys.issued)
    (distinctUuids : (requests.map (·.2.1)).Nodup) {order : List Nat} (distinct : order.Nodup) :
    let server := (Server.start sys.store
      (requests.map fun request => .fresh request.1 request.2.1 request.2.2)).run
        (order.flatMap fun i => List.replicate 6 i)
    (∀ i, (server.answered i).isSome ↔ i ∈ order ∧ i < requests.length) ∧
      ∃ sys' : System, Run (fun _ => True) sys (order.filterMap server.answered) sys' ∧
        sys'.store = server.committed := by
  intro server
  obtain ⟨sys', serial⟩ := Serial.start.blocks ⟨uuids, distinctUuids⟩ distinct
    fun i _ member => nomatch member
  rw [List.nil_append] at serial
  refine ⟨serial.answered_iff fun i beyond => Server.transactions_run_of_none ?_ _, sys',
    serial.run, serial.committed⟩
  simpa [Server.start] using beyond

theorem same_definition_allocations_one_at_a_time :
    let defined := (handle System.initial (.createStatusListDef unitSizes firstUuid)).1
    let requests := [(entryRequestBody firstUuid, secondUuid, reversal),
      (entryRequestBody firstUuid, thirdUuid, reversal)]
    let server := (Server.start defined.store
      (requests.map fun request => .fresh request.1 request.2.1 request.2.2)).run
        ([1, 0].flatMap fun i => List.replicate 6 i)
    (∀ request ∈ requests, isUuid request.2.1 = true ∧ request.2.1 ∉ defined.issued) ∧
      (requests.map (·.2.1)).Nodup ∧ [1, 0].Nodup ∧
      (∀ i, (server.answered i).isSome ↔ i ∈ [1, 0] ∧ i < requests.length) ∧
      ∃ sys' : System, Run (fun _ => True) defined ([1, 0].filterMap server.answered) sys' ∧
        sys'.store = server.committed := by
  intro defined requests server
  have uuids : ∀ request ∈ requests, isUuid request.2.1 = true ∧ request.2.1 ∉ defined.issued := by
    decide
  have distinctUuids : (requests.map (·.2.1)).Nodup := by decide
  have distinct : [1, 0].Nodup := by decide
  exact ⟨uuids, distinctUuids, distinct,
    allocations_one_at_a_time_follow_handler uuids distinctUuids distinct⟩

/-- With a lock that all requests shared, requests of `create_status_list_entry` for any
definitions, several for one definition included, each with a fresh uuid of its own, sent
together to a reachable state and run one at a time in any order: no two requests answer with
one slot, and the committed store holds at most one list per definition and sequence. -/
theorem shared_lock_hands_out_slots_once {allowed : Request → Prop} {sys : System}
    (reachable : Reachable allowed sys)
    {requests : List (JsonValue × String × Rearrangement Int)}
    (uuids : ∀ request ∈ requests, isUuid request.2.1 = true ∧ request.2.1 ∉ sys.issued)
    (distinctUuids : (requests.map (·.2.1)).Nodup) {order : List Nat} (distinct : order.Nodup) :
    let server := (Server.start sys.store
      (requests.map fun request => .fresh request.1 request.2.1 request.2.2)).run
        (order.flatMap fun i => List.replicate 6 i)
    (∀ i j slot, server.slot? i = some slot → server.slot? j = some slot → i = j) ∧
      (server.committed.lists.map fun statusList =>
        (statusList.definition_id, statusList.sequence)).Nodup := by
  intro server
  obtain ⟨sys', serial⟩ := Serial.start.blocks ⟨uuids, distinctUuids⟩ distinct
    fun i _ member => nomatch member
  rw [List.nil_append] at serial
  have beyond : ∀ i, requests.length ≤ i → server.transactions i = none := fun i beyond =>
    Server.transactions_run_of_none (by simpa [Server.start] using beyond) _
  exact serial.slots_once reachable fun i handed =>
    ((serial.answered_iff beyond i).mp (Server.answered_of_slot handed)).1

theorem same_definition_slots_handed_out_once :
    let defined := (handle System.initial (.createStatusListDef unitSizes firstUuid)).1
    let requests := [(entryRequestBody firstUuid, secondUuid, reversal),
      (entryRequestBody firstUuid, thirdUuid, reversal)]
    let server := (Server.start defined.store
      (requests.map fun request => .fresh request.1 request.2.1 request.2.2)).run
        ([1, 0].flatMap fun i => List.replicate 6 i)
    Reachable (fun _ => True) defined ∧
      (∀ request ∈ requests, isUuid request.2.1 = true ∧ request.2.1 ∉ defined.issued) ∧
      (requests.map (·.2.1)).Nodup ∧ [1, 0].Nodup ∧
      (∀ i j slot, server.slot? i = some slot → server.slot? j = some slot → i = j) ∧
      (server.committed.lists.map fun statusList =>
        (statusList.definition_id, statusList.sequence)).Nodup := by
  intro defined requests server
  have reachable : Reachable (fun _ => True) defined :=
    ⟨_, .step .nil trivial (by rintro uid ⟨⟩; decide)⟩
  have uuids : ∀ request ∈ requests, isUuid request.2.1 = true ∧ request.2.1 ∉ defined.issued := by
    decide
  have distinctUuids : (requests.map (·.2.1)).Nodup := by decide
  have distinct : [1, 0].Nodup := by decide
  exact ⟨reachable, uuids, distinctUuids, distinct,
    shared_lock_hands_out_slots_once reachable uuids distinctUuids distinct⟩

end StatusListPlugin
