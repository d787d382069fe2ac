import Vertice.Carton.ReqParser

/-!
# What `ParseRequest` accepts, and what its errors report

The allow-list below is the operation table of the design (category, action,
variant), written from that table and not from the source. `parseRequest_classifies`
shows that the two nested switches accept exactly its 22 pairs, for every name
and every pair of strings, and build the listed variant with that name.

The `default` branches do not report what the switches accept: `parseDone`
reports the `operations` scope and `parseDisks` the `snapshot` one, and several
`expected` lists are stale (`stateup` is listed and rejected; `done`, `suspend`,
the hard variants, `assembly.network.update`, `snaprestore` and `snapsave` are
accepted and never listed). `parseRequest_error_report` states, for every rejected
pair, which scope the report names and whether its list is the accepted set.
-/
namespace Vertice.Carton

/-- The design's allow-list: category, action and the variant built for name `n`. -/
def allowList (n : String) : List (String × String × MegdProcessor) :=
  [("state", "create", .createProcess n), ("state", "destroy", .destroyProcess n),
    ("state", "bootstrapped", .stateupProcess n), ("state", "statedown", .stateupProcess n),
    ("control", "start", .startProcess n), ("control", "stop", .stopProcess n false),
    ("control", "suspend", .suspendProcess n), ("control", "restart", .restartProcess n false),
    ("control", "hard-stop", .stopProcess n true),
    ("control", "hard-restart", .restartProcess n true),
    ("operations", "upgrade", .upgradeProcess n),
    ("operations", "assembly.network.update", .updateNetworkProcess n),
    ("backup", "backupcreate", .imageCreateProcess n),
    ("backup", "backupremove", .imageDestroyProcess n),
    ("snapshot", "snapcreate", .snapCreateProcess n),
    ("snapshot", "snaprestore", .snapRestoreProcess n),
    ("snapshot", "snapremove", .snapDestroyProcess n),
    ("snapshot", "snapsave", .snapSaveAsProcess n),
    ("disks", "attachdisk", .diskAttachProcess n), ("disks", "detachdisk", .diskDetachProcess n),
    ("done", "running", .runningProcess n), ("done", "failure", .failureProcess n)]

/-- The seven categories of the design's table. -/
def categories : List String := ["state", "control", "operations", "backup", "snapshot", "disks", "done"]

/-- The actions the allow-list accepts in a category. -/
def acceptedActions (n category : String) : List String :=
  ((allowList n).filter (·.1 = category)).map (·.2.1)

/-- The two nested switches flatten to the allow-list. -/
theorem parseRequest_eq_ok_iff (n category action : String) (process : MegdProcessor) :
    (ReqParser.mk n).parseRequest category action = .ok process ↔
      (category, action, process) ∈ allowList n := by
  rw [ReqParser.parseRequest_eq_ok]
  simp only [ReqParser.categoryCases, List.mem_cons, Prod.mk.injEq, List.mem_nil_iff, or_false,
    ReqParser.parseState, ReqParser.parseControl, ReqParser.parseOperations,
    ReqParser.parseBackups, ReqParser.parseSnapshot, ReqParser.parseDisks, ReqParser.parseDone,
    or_and_right, exists_or, and_assoc, exists_and_left, exists_eq_left]
  simp (disch := (simp only [List.map_cons, List.map_nil]; decide)) only [switchAction_eq_ok]
  simp only [allowList, List.mem_cons, Prod.mk.injEq, List.mem_nil_iff, or_false, and_or_left,
    or_assoc, state, control, operations, backups, snapshot, disks, done, create, destroy,
    bootstrapped, statedown, start, stop, suspend, restart, hardStop, hardRestart, upgrade,
    networkUpdate, imagecreate, imagedestroy, snapcreate, snaprestore, snapdelete, snapsave,
    attachdisk, detachdisk, running, failure]

theorem allowList_name_hard (n : String) :
    ∀ entry ∈ allowList n, entry.2.2.name = n ∧
      (entry.2.2.hard = true ↔ entry.2.1 = "hard-stop" ∨ entry.2.1 = "hard-restart") := by
  simp [allowList, MegdProcessor.name, MegdProcessor.hard]

/-- Both entry points accept exactly the allow-list, for every name and every pair
of strings, build its variant with the request's name, set `Hard` only for the
two hard actions, and reject every other pair with a `ParseError`. -/
theorem parseRequest_classifies (n category action : String) :
    (∀ process, (ReqParser.mk n).parseRequest category action = .ok process ↔
      (category, action, process) ∈ allowList n) ∧
    (∀ (r : Requests) process, parseRequest r = .ok process ↔
      (r.category, r.action, process) ∈ allowList r.catId) ∧
    (∀ process, (ReqParser.mk n).parseRequest category action = .ok process →
      process.name = n ∧ (process.hard = true ↔ action = "hard-stop" ∨ action = "hard-restart")) ∧
    ((∃ e, (ReqParser.mk n).parseRequest category action = .error e) ↔
      ∀ process, (category, action, process) ∉ allowList n) := by
  refine ⟨parseRequest_eq_ok_iff n category action, fun r => parseRequest_eq_ok_iff _ _ _,
    fun process h => allowList_name_hard n _ ((parseRequest_eq_ok_iff _ _ _ _).mp h), ?_⟩
  simp only [← parseRequest_eq_ok_iff]
  cases (ReqParser.mk n).parseRequest category action <;> simp

theorem exists_allowList_iff (n category action : String) :
    (∃ process, (category, action, process) ∈ allowList n) ↔ action ∈ acceptedActions n category := by
  simp only [acceptedActions, List.mem_map, List.mem_filter, decide_eq_true_eq]
  constructor
  · rintro ⟨process, member⟩
    exact ⟨_, ⟨member, rfl⟩, rfl⟩
  · rintro ⟨⟨c, a, process⟩, ⟨member, rfl⟩, rfl⟩
    exact ⟨process, member⟩

theorem report_found_iff {scope category action : String} :
    scope ++ "," ++ action = category ++ "," ++ action ↔ scope = category := by
  simp [String.ext_iff, String.data_append]

theorem same_members_iff {l l' : List String} : (∀ x, x ∈ l ↔ x ∈ l') ↔ l ⊆ l' ∧ l' ⊆ l :=
  ⟨fun h => ⟨fun x m => (h x).mp m, fun x m => (h x).mpr m⟩, fun h _ => ⟨fun m => h.1 m, fun m => h.2 m⟩⟩

/-- What a rejection reports. Within the seven categories, `found` is the pair
itself except under `done` and `disks`, and `expected` is the set of accepted
actions only under `backup` and `disks`; an unknown category is reported with the
top-level list, which omits `done`. -/
theorem parseRequest_error_report (n category action : String) (e : ParseError)
    (rejected : (ReqParser.mk n).parseRequest category action = .error e) :
    (category ∈ categories →
      (e.found = category ++ "," ++ action ↔ category ≠ "done" ∧ category ≠ "disks") ∧
      ((∀ x, x ∈ e.expected ↔ ∃ process, (category, x, process) ∈ allowList n) ↔
        category = "backup" ∨ category = "disks")) ∧
    (category ∉ categories → e.found = category ++ "," ++ action ∧
      e.expected = ["state", "control", "operations", "snapshot", "disks", "backup"]) := by
  rcases (ReqParser.parseRequest_eq_error _ _ _ _).mp rejected with
    ⟨handler, member, failed⟩ | ⟨absent, rfl⟩
  · simp only [ReqParser.categoryCases, List.mem_cons, Prod.mk.injEq, List.mem_nil_iff, or_false] at member
    rcases member with ⟨rfl, rfl⟩ | ⟨rfl, rfl⟩ | ⟨rfl, rfl⟩ | ⟨rfl, rfl⟩ | ⟨rfl, rfl⟩ | ⟨rfl, rfl⟩ |
        ⟨rfl, rfl⟩ <;>
      obtain ⟨-, rfl⟩ := switchAction_error.mp failed <;>
      simp only [newParseError_found, newParseError_expected, report_found_iff, exists_allowList_iff,
        same_members_iff] <;>
      simp [acceptedActions, allowList, categories, state, control, operations, backups, snapshot, disks,
        done, create, destroy, bootstrapped, stateup, statedown, start, stop, suspend, restart, hardStop,
        hardRestart, upgrade, networkUpdate, imagecreate, imagedestroy, snapcreate, snaprestore,
        snapdelete, snapsave, attachdisk, detachdisk, running, failure]
  · have labels : (ReqParser.mk n).categoryCases.map Prod.fst = categories := rfl
    rw [labels] at absent
    exact ⟨fun present => absurd present absent, fun _ => ⟨newParseError_found _ _ _, rfl⟩⟩

/-- `stateup` is rejected in `state`, and the report lists it. -/
theorem parseRequest_error_report_sample :
    (ReqParser.mk "asm-1").parseRequest "state" "stateup" =
      .error { found := "state,stateup", expected := ["create", "destroy", "stateup", "statedown"] } ∧
    ("state" ∈ categories →
      (("state,stateup" : String) = "state" ++ "," ++ "stateup" ↔ "state" ≠ "done" ∧ "state" ≠ "disks") ∧
      ((∀ x, x ∈ ["create", "destroy", "stateup", "statedown"] ↔
          ∃ process, ("state", x, process) ∈ allowList "asm-1") ↔
        "state" = "backup" ∨ "state" = "disks")) ∧
    ("state" ∉ categories → ("state,stateup" : String) = "state" ++ "," ++ "stateup" ∧
      ["create", "destroy", "stateup", "statedown"] = ["state", "control", "operations", "snapshot", "disks", "backup"]) :=
  ⟨rfl, parseRequest_error_report "asm-1" "state" "stateup" _ rfl⟩

end Vertice.Carton

namespace Vertice.Carton

/-- At `("done", "bogus")` the `done` handler reports the operations scope and
list, where the accepted actions of `done` are `running` and `failure`. -/
theorem parseDone_reports_operations_scope :
    (ReqParser.mk "asm-1").parseRequest "done" "bogus" =
      .error { found := "operations,bogus", expected := ["upgrade"] } :=
  rfl

end Vertice.Carton
