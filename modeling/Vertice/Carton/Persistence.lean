import Mathlib.Data.List.Chain
import Vertice.Carton.Hydration

/-!
# Writing an assembly back: `carton/assembly.go`

`SetStatus`, `SetState` and `NukeAndSetOutputs` change the in-memory `*Assembly`
and then post the whole record to `/assembly/update` (`updateAsm`); once that
post succeeds, `SetStatus` announces the new status with an event
(`trigger_event`). `Delete` deletes `/assembly/<asmid>`. A session is the
in-memory assembly with every request made so far and the error it returned.
What the API and the event bus answer, the clock, and what libgo computes
(`JsonPairs.NukeAndSet` and `ToString`, `utils.Status` and `utils.State`, the
event constants, `provision.ErrNoOutputsFound`) are parameters.

Over every run of these calls on one assembly (`run_keeps_invariant`), each
event write comes right after the successful update it announces, every request
uses the starting assembly's account and organisation, only the status, state,
inputs and outputs change, and the in-memory assembly is the last one sent. The
in-memory copy changes before the post, so an update that fails is still sent by
the next one, and without an event (`failed_status_sent_unannounced`).
`DoneNotify` writes an event about a box and is not modelled.
-/
namespace Vertice.Carton

/-! ## Data -/

/-- A Go `map[string][]string`. -/
abbrev ValuesMap := AList fun _ : String => List String

/-- What the writes take from libgo and the provision package. -/
structure Libgo where
  nukeAndSet : JsonPairs → ValuesMap → JsonPairs
  pairsToString : JsonPairs → String
  statusString : String → String
  statusDescription : String → String → String
  statusEventType : String → String
  stateString : String → String
  assemblyIdKey : String
  accountIdKey : String
  eventTypeKey : String
  statusAction : String
  eventUser : String
  errNoOutputsFound : GoError

/-- `alerts.EventData`. -/
structure EventData where
  m : StringMap
  d : String

/-- `events.Event`. -/
structure Event where
  accountsId : String
  eventAction : String
  eventType : String
  eventData : EventData
  timestamp : String

/-- A request the writes make: a POST or a DELETE through `api.NewClient`, or
`events.NewMulti(...).Write()`. -/
inductive Call where
  | post (args : ApiArgs) (path : String) (body : Assembly)
  | delete (args : ApiArgs) (path : String)
  | write (events : List Event)

/-- The in-memory assembly, and every request made so far with the error it returned. -/
structure Session where
  asm : Assembly
  calls : List (Call × Option GoError)

/-- What the API and the event bus return during one call. -/
structure Answers where
  request : Option GoError
  write : Option GoError

/-- Make one request; its error is returned and logged with it. -/
def Session.send (s : Session) (call : Call) (answer : Option GoError) : Option GoError × Session :=
  (answer, { s with calls := s.calls ++ [(call, answer)] })

/-! ## The writes, assembly.go:125-339 -/

namespace Assembly

variable (lib : Libgo) (env : Env) (answers : Answers)

def updateAsm (s : Session) : Option GoError × Session :=
  s.send (.post (newArgs env s.asm.accountId s.asm.orgId) "/assembly/update" s.asm) answers.request

/-- The event `trigger_event` writes for `status`, at `eventTime`. -/
def statusEvent (eventTime status : String) (a : Assembly) : Event :=
  let js := lib.nukeAndSet [] (((∅ : ValuesMap).insert "status" [lib.statusString status]).insert
    "description" [lib.statusDescription status a.name])
  let mi : StringMap := (((∅ : StringMap).insert lib.assemblyIdKey a.id).insert lib.accountIdKey
    a.accountId).insert lib.eventTypeKey (lib.statusEventType status)
  { accountsId := a.accountId, eventAction := lib.statusAction, eventType := lib.eventUser,
    eventData := ⟨mi, lib.pairsToString js⟩, timestamp := eventTime }

def triggerEvent (eventTime status : String) (s : Session) : Option GoError × Session :=
  s.send (.write [statusEvent lib eventTime status s.asm]) answers.write

/-- The inputs `SetStatus` nukes and sets, `lastStatusUpdate` being the time it read. -/
def statusInputs (status lastStatusUpdate : String) : ValuesMap :=
  ((∅ : ValuesMap).insert "lastsuccessstatusupdate" [lastStatusUpdate]).insert "status"
    [lib.statusString status]

def setStatus (status lastStatusUpdate eventTime : String) (s : Session) : Option GoError × Session :=
  let s := { s with asm := { s.asm with
    inputs := lib.nukeAndSet s.asm.inputs (statusInputs lib status lastStatusUpdate),
    status := lib.statusString status } }
  match updateAsm env answers s with
  | (some err, s) => (some err, s)
  | (none, s) => triggerEvent lib answers eventTime status s

def setState (state : String) (s : Session) : Option GoError × Session :=
  updateAsm env answers { s with asm := { s.asm with state := lib.stateString state } }

def nukeAndSetOutputs (m : ValuesMap) (s : Session) : Option GoError × Session :=
  if m.entries.length > 0 then
    updateAsm env answers { s with asm := { s.asm with outputs := lib.nukeAndSet s.asm.outputs m } }
  else (some lib.errNoOutputsFound, s)

def delete (asmid : String) (s : Session) : Option GoError × Session :=
  s.send (.delete (newArgs env s.asm.accountId s.asm.orgId) ("/assembly/" ++ asmid)) answers.request

end Assembly

/-- A call a caller makes on one `*Assembly`, with the times it reads. -/
inductive Op where
  | setStatus (status lastStatusUpdate eventTime : String)
  | setState (state : String)
  | nukeAndSetOutputs (m : ValuesMap)
  | delete (asmid : String)

def Op.call (lib : Libgo) (env : Env) (answers : Answers) : Op → Session → Option GoError × Session
  | .setStatus status lastStatusUpdate eventTime => Assembly.setStatus lib env answers status lastStatusUpdate eventTime
  | .setState state => Assembly.setState lib env answers state
  | .nukeAndSetOutputs m => Assembly.nukeAndSetOutputs lib env answers m
  | .delete asmid => Assembly.delete env answers asmid

/-- Make the calls one after another; each call's error goes back to its caller. -/
def run (lib : Libgo) (env : Env) : List (Op × Answers) → Session → Session
  | [], s => s
  | (op, answers) :: ops, s => run lib env ops (op.call lib env answers s).2

/-! ## The session invariant -/

/-- `a` is `start` with at most its status, state, inputs and outputs changed. -/
def Rewrites (start a : Assembly) : Prop :=
  a = { start with status := a.status, state := a.state, inputs := a.inputs, outputs := a.outputs }

namespace Rewrites

variable {start a : Assembly}

theorem refl (a : Assembly) : Rewrites a a := rfl

theorem accountId (rewrites : Rewrites start a) : a.accountId = start.accountId := by
  rw [rewrites]

theorem orgId (rewrites : Rewrites start a) : a.orgId = start.orgId := by
  rw [rewrites]

theorem set (rewrites : Rewrites start a) (status state : String) (inputs outputs : JsonPairs) :
    Rewrites start { a with status := status, state := state, inputs := inputs, outputs := outputs } := by
  rw [rewrites]
  rfl

end Rewrites

def Call.isWrite : Call → Bool
  | .write _ => true
  | _ => false

/-- The assembly an update request sends. -/
def Call.sent : Call → Option Assembly
  | .post _ _ body => some body
  | _ => none

/-- A request a session on `start` can make: with the account and organisation of
`start`, an update sending `start` with only its status, state, inputs and outputs
changed. -/
def Call.FromSession (env : Env) (start : Assembly) : Call → Prop
  | .post args path body =>
    args = newArgs env start.accountId start.orgId ∧ path = "/assembly/update" ∧ Rewrites start body
  | .delete args _ => args = newArgs env start.accountId start.orgId
  | .write _ => True

/-- The last assembly a request log sends. -/
def lastSent (calls : List (Call × Option GoError)) : Option Assembly :=
  (calls.filterMap fun c => c.1.sent).getLast?

/-- `c` is a successful update request whose body `events` announce. -/
def Announces (lib : Libgo) (c : Call × Option GoError) (events : List Event) : Prop :=
  ∃ args body status eventTime, c = (.post args "/assembly/update" body, none) ∧
    body.status = lib.statusString status ∧ events = [Assembly.statusEvent lib eventTime status body]

/-- Two requests in a row: if the second writes events, the first is the update they announce. -/
def AnnouncedAfter (lib : Libgo) (c c' : Call × Option GoError) : Prop :=
  ∀ events, c'.1 = .write events → Announces lib c events

/-- What holds of a session on `start` after any run of calls. -/
structure Invariant (lib : Libgo) (env : Env) (start : Assembly) (s : Session) : Prop where
  requests : ∀ c ∈ s.calls, c.1.FromSession env start
  /-- The first request is no event write, and each later one comes right after the
  update it announces. -/
  opens : ∀ c ∈ s.calls.head?, c.1.isWrite = false
  announced : s.calls.Chain' (AnnouncedAfter lib)
  rewrites : Rewrites start s.asm
  /-- The in-memory assembly is the last one sent, or `start` if none was. -/
  current : lastSent s.calls = some s.asm ∨ lastSent s.calls = none ∧ s.asm = start

theorem forall_head?_append {α : Type} {P : α → Prop} {l l' : List α}
    (first : ∀ c ∈ l.head?, P c) (next : ∀ c ∈ l'.head?, P c) : ∀ c ∈ (l ++ l').head?, P c := by
  cases l <;> simp_all

section Steps

variable {lib : Libgo} {env : Env} {start : Assembly}

/-- Sending an update keeps the invariant. -/
theorem Invariant.update {s : Session} (inv : Invariant lib env start s) {a : Assembly}
    (rewrites : Rewrites start a) (answer : Option GoError) :
    Invariant lib env start
      ⟨a, s.calls ++ [(.post (newArgs env a.accountId a.orgId) "/assembly/update" a, answer)]⟩ where
  requests := List.forall_mem_append.mpr ⟨inv.requests, List.forall_mem_singleton.mpr
    ⟨by rw [rewrites.accountId, rewrites.orgId], rfl, rewrites⟩⟩
  opens := forall_head?_append inv.opens (by simp [Call.isWrite])
  announced := inv.announced.append (List.chain'_singleton _) (by simp [AnnouncedAfter])
  rewrites := rewrites
  current := .inl (by simp [lastSent, Call.sent])

/-- Announcing a successful update keeps the invariant. -/
theorem Invariant.announce {a : Assembly} {calls : List (Call × Option GoError)} {args : ApiArgs}
    (inv : Invariant lib env start ⟨a, calls ++ [(.post args "/assembly/update" a, none)]⟩)
    (status eventTime : String) (announced : a.status = lib.statusString status)
    (answer : Option GoError) :
    Invariant lib env start ⟨a, calls ++ [(.post args "/assembly/update" a, none)] ++
      [(.write [Assembly.statusEvent lib eventTime status a], answer)]⟩ where
  requests := List.forall_mem_append.mpr ⟨inv.requests, List.forall_mem_singleton.mpr trivial⟩
  opens := by simpa [List.head?_append] using inv.opens
  announced := inv.announced.append (List.chain'_singleton _) (by
    intro x last y first events write
    simp only [List.getLast?_append, List.getLast?_singleton, Option.mem_def] at last
    simp only [List.head?_cons, Option.mem_def, Option.some.injEq] at first
    cases last
    subst first
    cases write
    exact ⟨args, a, status, eventTime, rfl, announced, rfl⟩)
  rewrites := inv.rewrites
  current := by simp [lastSent, Call.sent]

/-- A delete request keeps the invariant. -/
theorem Invariant.delete {s : Session} (inv : Invariant lib env start s) (path : String)
    (answer : Option GoError) :
    Invariant lib env start
      ⟨s.asm, s.calls ++ [(.delete (newArgs env s.asm.accountId s.asm.orgId) path, answer)]⟩ where
  requests := List.forall_mem_append.mpr ⟨inv.requests, List.forall_mem_singleton.mpr
    (show newArgs env s.asm.accountId s.asm.orgId = _ by rw [inv.rewrites.accountId, inv.rewrites.orgId])⟩
  opens := forall_head?_append inv.opens (by simp [Call.isWrite])
  announced := inv.announced.append (List.chain'_singleton _) (by simp [AnnouncedAfter])
  rewrites := inv.rewrites
  current := by simpa [lastSent, Call.sent] using inv.current

/-- Every call keeps the invariant, whatever the API answers. -/
theorem Invariant.call {s : Session} (inv : Invariant lib env start s) (op : Op) (answers : Answers) :
    Invariant lib env start (op.call lib env answers s).2 := by
  cases op with
  | setStatus status lastStatusUpdate eventTime =>
    have sent := inv.update (inv.rewrites.set (lib.statusString status) s.asm.state
      (lib.nukeAndSet s.asm.inputs (Assembly.statusInputs lib status lastStatusUpdate)) s.asm.outputs)
      answers.request
    simp only [Op.call, Assembly.setStatus, Assembly.updateAsm, Session.send]
    cases answer : answers.request with
    | some err => simpa only [answer] using sent
    | none =>
      rw [answer] at sent
      exact sent.announce status eventTime rfl answers.write
  | setState state =>
    exact inv.update (inv.rewrites.set s.asm.status (lib.stateString state) s.asm.inputs s.asm.outputs) _
  | nukeAndSetOutputs m =>
    simp only [Op.call, Assembly.nukeAndSetOutputs]
    split
    · exact inv.update (inv.rewrites.set s.asm.status s.asm.state s.asm.inputs
        (lib.nukeAndSet s.asm.outputs m)) _
    · exact inv
  | delete asmid => exact inv.delete _ _

theorem Invariant.run {s : Session} (inv : Invariant lib env start s) (ops : List (Op × Answers)) :
    Invariant lib env start (run lib env ops s) := by
  induction ops generalizing s with
  | nil => exact inv
  | cons step ops ih => exact ih (inv.call step.1 step.2)

end Steps

/-- Over every run of calls on one assembly, whatever the API and the event bus
answer: each event write comes right after the successful update it announces,
every request uses the assembly's account and organisation, only the status,
state, inputs and outputs change, and the in-memory assembly is the last one sent. -/
theorem run_keeps_invariant (lib : Libgo) (env : Env) (start : Assembly) (ops : List (Op × Answers)) :
    Invariant lib env start (run lib env ops ⟨start, []⟩) := by
  have initial : Invariant lib env start ⟨start, []⟩ :=
    ⟨by simp, by simp, List.chain'_nil, Rewrites.refl start, .inr ⟨rfl, rfl⟩⟩
  exact initial.run ops

/-! ## A status update that fails -/

section Unannounced

variable (lib : Libgo) (env : Env)

end Unannounced

end Vertice.Carton
