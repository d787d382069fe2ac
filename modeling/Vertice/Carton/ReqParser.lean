import Mathlib.Data.List.Basic

/-!
# Request classification: `carton/req_parser.go`

`ReqParser.ParseRequest` switches on the category into one of seven handlers, and
each handler switches on the action. A Go `switch` over string literals is its
case table read in order, the first equal label winning, with `default` as the
`none` arm of `List.lookup`. Every handler is `switchAction` applied to its own
case table and to the `found` category and `expected` list its `default` branch
writes, verbatim: the handlers differ only in this data.

The variant structs are declared in other files of the package; the model keeps
the fields `ParseRequest` sets (`Name`, and `Hard` for stop and restart).
`Requests.String` (YAML rendering) and the request fields that `ParseRequest`
does not read are left out.
-/
namespace Vertice.Carton

/-! ## Category and action literals, req_parser.go:25-70 -/

def state : String := "state"
def create : String := "create"
def bootstrapped : String := "bootstrapped"
def destroy : String := "destroy"
def stateup : String := "stateup"
def statedown : String := "statedown"

def done : String := "done"
def running : String := "running"
def failure : String := "failure"

def control : String := "control"
def stop : String := "stop"
def start : String := "start"
def restart : String := "restart"
def hardRestart : String := "hard-restart"
def hardStop : String := "hard-stop"
def suspend : String := "suspend"

def operations : String := "operations"
def upgrade : String := "upgrade"

def snapshot : String := "snapshot"
def snapcreate : String := "snapcreate"
def snaprestore : String := "snaprestore"
def snapdelete : String := "snapremove"
def snapsave : String := "snapsave"

def backups : String := "backup"
def imagecreate : String := "backupcreate"
def imagedestroy : String := "backupremove"

def networkUpdate : String := "assembly.network.update"

def disks : String := "disks"
def attachdisk : String := "attachdisk"
def detachdisk : String := "detachdisk"

/-! ## Processes and errors -/

/-- The `MegdProcessor` values the parser builds, one constructor per struct. -/
inductive MegdProcessor where
  | createProcess (name : String)
  | destroyProcess (name : String)
  | stateupProcess (name : String)
  | startProcess (name : String)
  | stopProcess (name : String) (hard : Bool)
  | suspendProcess (name : String)
  | restartProcess (name : String) (hard : Bool)
  | upgradeProcess (name : String)
  | updateNetworkProcess (name : String)
  | runningProcess (name : String)
  | failureProcess (name : String)
  | imageCreateProcess (name : String)
  | imageDestroyProcess (name : String)
  | snapCreateProcess (name : String)
  | snapRestoreProcess (name : String)
  | snapDestroyProcess (name : String)
  | snapSaveAsProcess (name : String)
  | diskAttachProcess (name : String)
  | diskDetachProcess (name : String)
  deriving DecidableEq, Repr

namespace MegdProcessor

/-- The `Name` field every variant carries. -/
def name : MegdProcessor → String
  | createProcess n | destroyProcess n | stateupProcess n | startProcess n
  | stopProcess n _ | suspendProcess n | restartProcess n _ | upgradeProcess n
  | updateNetworkProcess n | runningProcess n | failureProcess n
  | imageCreateProcess n | imageDestroyProcess n | snapCreateProcess n
  | snapRestoreProcess n | snapDestroyProcess n | snapSaveAsProcess n
  | diskAttachProcess n | diskDetachProcess n => n

/-- The `Hard` field of the stop and restart structs; the others have none. -/
def hard : MegdProcessor → Bool
  | stopProcess _ h | restartProcess _ h => h
  | _ => false

end MegdProcessor

structure ParseError where
  found : String
  expected : List String
  deriving DecidableEq, Repr

def newParseError (found expected : List String) : ParseError :=
  { found := String.intercalate "," found, expected := expected }

/-- `(*ParseError).Error`. -/
def ParseError.error (e : ParseError) : String :=
  "found " ++ e.found ++ ", expected " ++ String.intercalate ", " e.expected

@[simp] theorem newParseError_found (c a : String) (expected : List String) :
    (newParseError [c, a] expected).found = c ++ "," ++ a := by
  simp [newParseError, String.intercalate, String.intercalate.go]

@[simp] theorem newParseError_expected (found expected : List String) :
    (newParseError found expected).expected = expected := rfl

/-! ## The parser, req_parser.go:72-248 -/

structure ReqParser where
  name : String

def newReqParser (n : String) : ReqParser := ⟨n⟩

/-- One handler's `switch action`: the first case labelled `action` gives its
process; `default` reports `found,action` and the handler's `expected` list. -/
def switchAction (cases : List (String × MegdProcessor)) (found : String)
    (expected : List String) (action : String) : Except ParseError MegdProcessor :=
  match cases.lookup action with
  | some process => .ok process
  | none => .error (newParseError [found, action] expected)

namespace ReqParser

def parseState (p : ReqParser) (action : String) : Except ParseError MegdProcessor :=
  switchAction [(create, .createProcess p.name), (destroy, .destroyProcess p.name),
      (bootstrapped, .stateupProcess p.name), (statedown, .stateupProcess p.name)]
    state [create, destroy, stateup, statedown] action

def parseControl (p : ReqParser) (action : String) : Except ParseError MegdProcessor :=
  switchAction [(start, .startProcess p.name), (stop, .stopProcess p.name false),
      (suspend, .suspendProcess p.name), (restart, .restartProcess p.name false),
      (hardStop, .stopProcess p.name true), (hardRestart, .restartProcess p.name true)]
    control [start, stop, restart] action

def parseOperations (p : ReqParser) (action : String) : Except ParseError MegdProcessor :=
  switchAction [(upgrade, .upgradeProcess p.name), (networkUpdate, .updateNetworkProcess p.name)]
    operations [upgrade] action

def parseDone (p : ReqParser) (action : String) : Except ParseError MegdProcessor :=
  switchAction [(running, .runningProcess p.name), (failure, .failureProcess p.name)]
    operations [upgrade] action

def parseBackups (p : ReqParser) (action : String) : Except ParseError MegdProcessor :=
  switchAction [(imagecreate, .imageCreateProcess p.name),
      (imagedestroy, .imageDestroyProcess p.name)]
    backups [imagecreate, imagedestroy] action

def parseSnapshot (p : ReqParser) (action : String) : Except ParseError MegdProcessor :=
  switchAction [(snapcreate, .snapCreateProcess p.name), (snaprestore, .snapRestoreProcess p.name),
      (snapdelete, .snapDestroyProcess p.name), (snapsave, .snapSaveAsProcess p.name)]
    snapshot [snapcreate, snapdelete] action

def parseDisks (p : ReqParser) (action : String) : Except ParseError MegdProcessor :=
  switchAction [(attachdisk, .diskAttachProcess p.name), (detachdisk, .diskDetachProcess p.name)]
    snapshot [attachdisk, detachdisk] action

/-- The category handlers in the order of the `switch category` cases. -/
def categoryCases (p : ReqParser) : List (String × (String → Except ParseError MegdProcessor)) :=
  [(state, p.parseState), (control, p.parseControl), (operations, p.parseOperations),
    (backups, p.parseBackups), (snapshot, p.parseSnapshot), (disks, p.parseDisks),
    (done, p.parseDone)]

def parseRequest (p : ReqParser) (category action : String) : Except ParseError MegdProcessor :=
  match p.categoryCases.lookup category with
  | some handler => handler action
  | none => .error (newParseError [category, action]
      [state, control, operations, snapshot, disks, backups])

end ReqParser

/-- The fields of `Requests` that `ParseRequest` reads. -/
structure Requests where
  catId : String
  action : String
  category : String
  deriving DecidableEq, Repr

def parseRequest (r : Requests) : Except ParseError MegdProcessor :=
  (newReqParser r.catId).parseRequest r.category r.action

/-! ## Spec lemmas of the two switches -/

/-- Reading a case table with distinct labels finds exactly its entries. -/
theorem lookup_eq_some_iff {β : Type} {cases : List (String × β)}
    (distinct : (cases.map Prod.fst).Nodup) {key : String} {value : β} :
    cases.lookup key = some value ↔ (key, value) ∈ cases := by
  induction cases with
  | nil => simp
  | cons head tail ih =>
    obtain ⟨label, v⟩ := head
    simp only [List.map_cons, List.nodup_cons, List.mem_map] at distinct
    by_cases h : key = label
    · subst h
      simp only [List.lookup_cons, beq_self_eq_true, Option.some.injEq, List.mem_cons,
        Prod.mk.injEq, true_and]
      exact ⟨fun h => .inl h.symm, fun h => h.elim Eq.symm fun h' => absurd ⟨_, h', rfl⟩ distinct.1⟩
    · simp [List.lookup_cons, beq_eq_false_iff_ne.mpr h, h, ih distinct.2]

theorem switchAction_eq_ok {cases : List (String × MegdProcessor)} {found : String}
    {expected : List String} {action : String} {process : MegdProcessor}
    (distinct : (cases.map Prod.fst).Nodup) :
    switchAction cases found expected action = .ok process ↔ (action, process) ∈ cases := by
  rw [← lookup_eq_some_iff distinct]
  unfold switchAction
  cases cases.lookup action <;> simp

theorem switchAction_error {cases : List (String × MegdProcessor)} {found : String}
    {expected : List String} {action : String} {e : ParseError} :
    switchAction cases found expected action = .error e ↔
      cases.lookup action = none ∧ e = newParseError [found, action] expected := by
  unfold switchAction
  cases cases.lookup action <;> simp [eq_comm]

namespace ReqParser

theorem categoryCases_labels (p : ReqParser) :
    p.categoryCases.map Prod.fst = [state, control, operations, backups, snapshot, disks, done] :=
  rfl

/-- The outer switch: success is success of the handler of a listed category. -/
theorem parseRequest_eq_ok (p : ReqParser) (category action : String) (process : MegdProcessor) :
    p.parseRequest category action = .ok process ↔
      ∃ handler, (category, handler) ∈ p.categoryCases ∧ handler action = .ok process := by
  rw [← exists_congr fun _ => and_congr_left' (lookup_eq_some_iff
    (by rw [categoryCases_labels]; decide))]
  unfold parseRequest
  cases p.categoryCases.lookup category <;> simp

/-- The outer switch: an error is a listed category's handler error, or the top-level
report for a category that is not listed. -/
theorem parseRequest_eq_error (p : ReqParser) (category action : String) (e : ParseError) :
    p.parseRequest category action = .error e ↔
      (∃ handler, (category, handler) ∈ p.categoryCases ∧ handler action = .error e) ∨
      (category ∉ p.categoryCases.map Prod.fst ∧
        e = newParseError [category, action] [state, control, operations, snapshot, disks, backups]) := by
  have distinct : (p.categoryCases.map Prod.fst).Nodup := by rw [categoryCases_labels]; decide
  unfold parseRequest
  cases found : p.categoryCases.lookup category with
  | some handler =>
    have member := (lookup_eq_some_iff distinct).mp found
    simp only [List.mem_map_of_mem Prod.fst member, not_true_eq_false, false_and, or_false]
    exact ⟨fun h => ⟨handler, member, h⟩, fun ⟨handler', member', h⟩ => by
      rwa [Option.some.inj (found.symm.trans ((lookup_eq_some_iff distinct).mpr member'))]⟩
  | none =>
    have absent : category ∉ p.categoryCases.map Prod.fst := fun present => by
      obtain ⟨⟨label, handler⟩, member, rfl⟩ := List.mem_map.mp present
      simp [(lookup_eq_some_iff distinct).mpr member] at found
    simp only [absent, not_false_eq_true, true_and]
    constructor
    · exact fun h => .inr (Except.error.inj h).symm
    · rintro (⟨handler, member, -⟩ | rfl)
      · exact absurd (List.mem_map_of_mem Prod.fst member) absent
      · rfl

end ReqParser

end Vertice.Carton
