import Mathlib.Data.List.Basic
import Vertice.Go

/-!
# Dispatching queue messages: `coordinator/coordinator.go`

`NewCoordinator` hands a `cloudstandup` message to `requestHandler` and an
`events` message to `eventsHandler`. `requestHandler` decodes the message, looks
up its request and, for a `create` request, starts `app.LaunchApp` and
`pluginAdministrator` for each listed assembly id longer than one byte; for a
`delete` request it starts `app.DeleteApp`. The model returns the goroutines
started and the calls made, in order; what they do is outside the repository.

A decoding or lookup error is logged and ends the handler: in a `create` request
it stops the loop, with the assemblies before it already launched
(`create_request_launches`). The decoders and the Riak lookups are parameters
(`Store`). A JSON `null` decodes to a nil pointer and a lookup may return one, so
they return `Option` values; reading a field through a nil one panics
(`requestHandler_eq_error`).
-/
namespace Vertice.Coordinator

/-- `global.Message`. -/
structure Message where
  id : String

/-- `global.Request`: the fields `requestHandler` reads. -/
structure Request where
  reqType : String
  assembliesId : String

/-- `global.Assemblies`. -/
structure Assemblies where
  assemblies : List String
  accountsId : String

/-- `global.AssemblyWithComponents`, passed on without being read. -/
structure AssemblyWithComponents where
  id : String
  deriving DecidableEq

/-- `global.EventMessage`. -/
structure EventMessage where
  event : String
  deriving DecidableEq

/-- A goroutine the handlers start, or a call they make. -/
inductive Effect where
  | launchApp (asm : Option AssemblyWithComponents) (msgId accountsId : String)
  | pluginAdministrator (asm : Option AssemblyWithComponents) (accountsId : String)
  | deleteApp (asm : Option AssemblyWithComponents) (msgId : String)
  | notify (m : EventMessage)
  deriving DecidableEq

/-- `json.Unmarshal` into the two message types and the Riak lookups. -/
structure Store where
  unmarshalMessage : List UInt8 → Except GoError (Option Message)
  requestGet : String → Except GoError (Option Request)
  assembliesGet : String → Except GoError (Option Assemblies)
  getAssemblyWithComponents : String → Except GoError (Option AssemblyWithComponents)
  unmarshalEvent : List UInt8 → Except GoError (Option EventMessage)

/-! ## The handlers, coordinator.go:49-145 -/

/-- The `create` loop over the listed assembly ids; a lookup error returns. -/
def createLoop (store : Store) (msgId accountsId : String) : List String → List Effect
  | [] => []
  | id :: rest =>
    if id.utf8ByteSize > 1 then
      match store.getAssemblyWithComponents id with
      | .error _ => []
      | .ok res =>
        .launchApp res msgId accountsId :: .pluginAdministrator res accountsId ::
          createLoop store msgId accountsId rest
    else createLoop store msgId accountsId rest

def requestHandler (store : Store) (chann : List UInt8) : Go (List Effect) :=
  match store.unmarshalMessage chann with
  | .error _ => pure []
  | .ok m => do
    let m ← deref m
    match store.requestGet m.id with
    | .error _ => pure []
    | .ok req => do
      let req ← deref req
      match req.reqType with
      | "create" =>
        match store.assembliesGet req.assembliesId with
        | .error _ => pure []
        | .ok asm => do
          let asm ← deref asm
          pure (createLoop store m.id asm.accountsId asm.assemblies)
      | "delete" =>
        match store.getAssemblyWithComponents req.assembliesId with
        | .error _ => pure []
        | .ok res => pure [.deleteApp res m.id]
      | _ => pure []

/-- `eventsHandler`: a failed `plugins.Notify` is only logged. -/
def eventsHandler (store : Store) (chann : List UInt8) : Go (List Effect) :=
  match store.unmarshalEvent chann with
  | .error _ => pure []
  | .ok m => do
    let m ← deref m
    match m.event with
    | "notify" => pure [.notify m]
    | _ => pure []

def newCoordinator (store : Store) (chann : List UInt8) (queue : String) : Go (List Effect) :=
  match queue with
  | "cloudstandup" => requestHandler store chann
  | "events" => eventsHandler store chann
  | _ => pure []

/-! ## What a `create` request starts -/

/-- The goroutines started for `ids` when every listed id longer than one byte is
found: `app.LaunchApp`, then `pluginAdministrator`, for each of them in order. -/
def launchesFor (store : Store) (msgId accountsId : String) (ids : List String) : List Effect :=
  ((ids.filter fun id => 1 < id.utf8ByteSize).filterMap fun id =>
    (store.getAssemblyWithComponents id).toOption).flatMap fun res =>
      [.launchApp res msgId accountsId, .pluginAdministrator res accountsId]

section Launches

variable (store : Store) (msgId accountsId : String)

/-- The loop runs through the longest prefix whose long ids are all found, and stops
at the first long id whose lookup fails. -/
theorem createLoop_split (ids : List String) :
    ∃ pre rest, ids = pre ++ rest ∧
      (∀ id ∈ pre, 1 < id.utf8ByteSize → ∃ res, store.getAssemblyWithComponents id = .ok res) ∧
      (rest = [] ∨ ∃ id e rest', rest = id :: rest' ∧ 1 < id.utf8ByteSize ∧
        store.getAssemblyWithComponents id = .error e) ∧
      createLoop store msgId accountsId ids = launchesFor store msgId accountsId pre := by
  induction ids with
  | nil => exact ⟨[], [], rfl, by simp, .inl rfl, rfl⟩
  | cons id ids ih =>
    obtain ⟨pre, rest, rfl, found, stop, run⟩ := ih
    by_cases long : 1 < id.utf8ByteSize
    · cases lookup : store.getAssemblyWithComponents id with
      | error e =>
        exact ⟨[], id :: (pre ++ rest), rfl, by simp, .inr ⟨id, e, _, rfl, long, lookup⟩,
          by simp [createLoop, long, lookup, launchesFor]⟩
      | ok res =>
        refine ⟨id :: pre, rest, rfl, ?_, stop, ?_⟩
        · exact List.forall_mem_cons.mpr ⟨fun _ => ⟨res, lookup⟩, found⟩
        · simp [createLoop, launchesFor, List.filter_cons, long, lookup, run, Except.toOption]
    · refine ⟨id :: pre, rest, rfl, ?_, stop, ?_⟩
      · exact List.forall_mem_cons.mpr ⟨fun short => absurd short long, found⟩
      · simp [createLoop, launchesFor, List.filter_cons, long, run]

end Launches

/-- A `create` request launches, in order, each listed assembly up to the first long
id whose lookup fails; nothing is started for that id or after it. -/
theorem create_request_launches (store : Store) (chann : List UInt8) (m : Message)
    (req : Request) (asm : Assemblies)
    (decoded : store.unmarshalMessage chann = .ok (some m))
    (requested : store.requestGet m.id = .ok (some req)) (create : req.reqType = "create")
    (listed : store.assembliesGet req.assembliesId = .ok (some asm)) :
    ∃ pre rest, asm.assemblies = pre ++ rest ∧
      (∀ id ∈ pre, 1 < id.utf8ByteSize → ∃ res, store.getAssemblyWithComponents id = .ok res) ∧
      (rest = [] ∨ ∃ id e rest', rest = id :: rest' ∧ 1 < id.utf8ByteSize ∧
        store.getAssemblyWithComponents id = .error e) ∧
      requestHandler store chann = .ok (launchesFor store m.id asm.accountsId pre) := by
  obtain ⟨pre, rest, split, found, stop, run⟩ :=
    createLoop_split store m.id asm.accountsId asm.assemblies
  refine ⟨pre, rest, split, found, stop, ?_⟩
  simp [requestHandler, decoded, requested, create, listed, run]

/-- A store whose second long assembly id is missing from Riak. -/
def sampleStore : Store where
  unmarshalMessage _ := .ok (some ⟨"RQT1"⟩)
  requestGet _ := .ok (some ⟨"create", "AMS1"⟩)
  assembliesGet _ := .ok (some ⟨["ASM1", "", "ASM2", "ASM3"], "ACT1"⟩)
  getAssemblyWithComponents id := if id = "ASM2" then .error ⟨"not found"⟩ else .ok (some ⟨id⟩)
  unmarshalEvent _ := .ok none

theorem create_request_launches_sample :
    sampleStore.unmarshalMessage [] = .ok (some ⟨"RQT1"⟩) ∧
      sampleStore.requestGet "RQT1" = .ok (some ⟨"create", "AMS1"⟩) ∧
      sampleStore.assembliesGet "AMS1" = .ok (some ⟨["ASM1", "", "ASM2", "ASM3"], "ACT1"⟩) ∧
      ∃ pre rest, ["ASM1", "", "ASM2", "ASM3"] = pre ++ rest ∧
        (∀ id ∈ pre, 1 < id.utf8ByteSize →
          ∃ res, sampleStore.getAssemblyWithComponents id = .ok res) ∧
        (rest = [] ∨ ∃ id e rest', rest = id :: rest' ∧ 1 < id.utf8ByteSize ∧
          sampleStore.getAssemblyWithComponents id = .error e) ∧
        requestHandler sampleStore [] = .ok (launchesFor sampleStore "RQT1" "ACT1" pre) :=
  ⟨rfl, rfl, rfl, create_request_launches sampleStore [] ⟨"RQT1"⟩ ⟨"create", "AMS1"⟩
    ⟨["ASM1", "", "ASM2", "ASM3"], "ACT1"⟩ rfl rfl rfl rfl⟩

example : requestHandler sampleStore [] =
    .ok [.launchApp (some ⟨"ASM1"⟩) "RQT1" "ACT1", .pluginAdministrator (some ⟨"ASM1"⟩) "ACT1"] :=
  rfl

/-! ## When the handlers panic -/

/-- The decoded message, its request, or the assemblies of a `create` request is nil. -/
def RequestReadsNil (store : Store) (chann : List UInt8) : Prop :=
  store.unmarshalMessage chann = .ok none ∨ ∃ m, store.unmarshalMessage chann = .ok (some m) ∧
    (store.requestGet m.id = .ok none ∨ ∃ req, store.requestGet m.id = .ok (some req) ∧
      req.reqType = "create" ∧ store.assembliesGet req.assembliesId = .ok none)

theorem requestHandler_eq_error (store : Store) (chann : List UInt8) (p : Panic) :
    requestHandler store chann = .error p ↔
      p = .nilDereference ∧ RequestReadsNil store chann := by
  unfold requestHandler RequestReadsNil
  cases decoded : store.unmarshalMessage chann with
  | error e => simp
  | ok m =>
    cases m with
    | none => simp [eq_comm]
    | some m =>
      cases requested : store.requestGet m.id with
      | error e => simp [requested]
      | ok req =>
        cases req with
        | none => simp [requested, eq_comm]
        | some req =>
          by_cases create : req.reqType = "create"
          · cases listed : store.assembliesGet req.assembliesId with
            | error e => simp [requested, create, listed]
            | ok asm => cases asm <;> simp [requested, create, listed, eq_comm]
          · -- `delete` and the default case read no pointer after the request
            simp only [ok_bind, deref_some, requested, create]
            split
            · exact absurd ‹_› create
            · split <;> simp_all
            · simp_all

theorem eventsHandler_eq_error (store : Store) (chann : List UInt8) (p : Panic) :
    eventsHandler store chann = .error p ↔
      p = .nilDereference ∧ store.unmarshalEvent chann = .ok none := by
  unfold eventsHandler
  cases store.unmarshalEvent chann with
  | error e => simp
  | ok m =>
    cases m with
    | none => simp [eq_comm]
    | some m => simp only [ok_bind, deref_some]; split <;> simp

/-- The coordinator panics exactly when a handler reads a field through a nil
pointer: a JSON `null` message, a nil request or nil assemblies. A message from any
other queue starts nothing. -/
theorem newCoordinator_eq_error (store : Store) (chann : List UInt8) (queue : String) (p : Panic) :
    (newCoordinator store chann queue = .error p ↔ p = .nilDereference ∧
      (queue = "cloudstandup" ∧ RequestReadsNil store chann ∨
        queue = "events" ∧ store.unmarshalEvent chann = .ok none)) ∧
    (queue ≠ "cloudstandup" → queue ≠ "events" → newCoordinator store chann queue = .ok []) := by
  unfold newCoordinator
  split
  · simp [requestHandler_eq_error]
  · simp [eventsHandler_eq_error]
  · simp_all

end Vertice.Coordinator
