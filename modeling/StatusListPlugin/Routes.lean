import StatusListPlugin.Controllers.Definition
import StatusListPlugin.Controllers.Entry
import StatusListPlugin.Controllers.StatusList

/-!
# Requests and runs

The requests `routes.py` dispatches to the modelled handlers, and the runs of the plugin: the
requests handled one after another against the record store. Each request carries the
choices the environment makes for it: the uuid a `save` of a new record draws, and the
outcome of `random.shuffle`. A run only draws uuids in the form `uuid4` gives, and never one
it drew before.
-/

namespace StatusListPlugin

/-- The record store together with the uuids drawn so far. -/
structure System where
  store : Store
  issued : List String

/-- The empty store, before any uuid was drawn. -/
def System.initial : System := ⟨Store.empty, []⟩

/-- A request of the runs the plugin is studied under, with the environment's choices for it:
the handlers `routes.py` routes, but for the `PATCH` handlers `update_status_list_def` and
`update_status_list`, and with `update_status_list_entry` bodies of the form
`{"status": status}`. The route of `create_status_list` is commented out. The `PATCH` handlers
with every body the model covers are `updateStatusListDef`, `updateStatusList` and
`updateStatusListEntry`; `Patching` says what they do to these runs' invariants. -/
inductive Request
  | createStatusListDef (body : JsonValue) (uid : String)
  | createStatusListEntry (body : JsonValue) (uid : String) (shuffle : Rearrangement Int)
  | updateStatusListEntry (status_list_id index : String) (status : JsonValue)
  | recycleStatusListEntry (status_list_id index : String)
  | deleteStatusList (id : String)
  | deleteStatusListDef (id : String)

namespace Request

/-- The uuid a request draws when it saves a new record. -/
def uuid? : Request → Option String
  | .createStatusListDef _ uid => some uid
  | .createStatusListEntry _ uid _ => some uid
  | _ => none

/-- A request the environment can send in state `sys`: its uuid has the form of `uuid4` and
was not drawn before. -/
def Admissible (sys : System) (request : Request) : Prop :=
  ∀ uid, request.uuid? = some uid → isUuid uid = true ∧ uid ∉ sys.issued

end Request

/-- The handler `routes.py` maps the request to, run on the store. -/
def handleStore (txn : Store) : Request → Store × Response
  | .createStatusListDef body uid => createStatusListDef txn body uid
  | .createStatusListEntry body uid shuffle => createStatusListEntry txn body uid shuffle
  | .updateStatusListEntry status_list_id index status =>
      updateStatusListEntry txn status_list_id index [.status status]
  | .recycleStatusListEntry status_list_id index =>
      recycleStatusListEntry txn status_list_id index
  | .deleteStatusList id => deleteStatusList txn id
  | .deleteStatusListDef id => deleteStatusListDef txn id

/-- One request handled: the store as the handler leaves it, and the request's uuid drawn. -/
def handle (sys : System) (request : Request) : System × Response :=
  (⟨(handleStore sys.store request).1, request.uuid?.toList ++ sys.issued⟩,
    (handleStore sys.store request).2)

/-- Only `create_status_list_entry` hands out slots. -/
theorem handleStore_slot {txn : Store} {request : Request} {slot : String × String}
    (handed : (handleStore txn request).2.slot? = some slot) :
    ∃ body uid shuffle, request = .createStatusListEntry body uid shuffle := by
  cases request
  case createStatusListEntry body uid shuffle => exact ⟨body, uid, shuffle, rfl⟩
  all_goals
    simp only [handleStore, createStatusListDef, updateStatusListEntry, patchRecord,
      recycleStatusListEntry, deleteStatusList, deleteStatusListDef] at handed
    repeat' split at handed
    all_goals first
      | cases handed
      | simp only [slot?_badRequestOnStorage, slot?_notFoundOrBadRequest, reduceCtorEq] at handed

/-- The runs of the plugin from `start`: requests that `allowed` admits, handled one after
another, each admissible when it arrives. The trace pairs each request with its response. -/
inductive Run (allowed : Request → Prop) (start : System) :
    List (Request × Response) → System → Prop
  | nil : Run allowed start [] start
  | step {trace : List (Request × Response)} {sys : System} {request : Request} :
      Run allowed start trace sys → allowed request → request.Admissible sys →
      Run allowed start (trace ++ [(request, (handle sys request).2)]) (handle sys request).1

/-- The states some run from the empty store reaches. -/
def Reachable (allowed : Request → Prop) (sys : System) : Prop :=
  ∃ trace, Run allowed System.initial trace sys

namespace Run

variable {allowed allowed' : Request → Prop} {start mid sys : System}
  {trace trace' : List (Request × Response)}

/-- A run from the state another run reached continues that run. -/
theorem append (earlier : Run allowed start trace mid) (later : Run allowed mid trace' sys) :
    Run allowed start (trace ++ trace') sys := by
  induction later with
  | nil => rwa [List.append_nil]
  | step _ permitted admissible inductionHypothesis =>
      rw [← List.append_assoc]
      exact .step inductionHypothesis permitted admissible

theorem mono (weaker : ∀ request, allowed request → allowed' request)
    (run : Run allowed start trace sys) : Run allowed' start trace sys := by
  induction run with
  | nil => exact .nil
  | step _ permitted admissible inductionHypothesis =>
      exact .step inductionHypothesis (weaker _ permitted) admissible

end Run

/-- A run from a reachable state ends in a reachable state. -/
theorem Reachable.run {allowed : Request → Prop} {sys sys' : System}
    {trace : List (Request × Response)} (reachable : Reachable allowed sys)
    (run : Run (fun _ => True) sys trace sys') :
    ∃ earlier, Run (fun _ => True) System.initial (earlier ++ trace) sys' := by
  obtain ⟨earlier, reached⟩ := reachable
  exact ⟨earlier, (reached.mono fun _ _ => trivial).append run⟩

end StatusListPlugin
