import Mathlib.Data.Finset.Basic
import Vertice.Carton.Assembly

/-!
# Provisioning actions: `provision/one/actions.go`

An `action.Action` is a record of closures. `Forward` reads the pipeline's
`Params` and the `Previous` step's result and returns a result and an error;
`Backward` reads the `Params` and the step's own forward result (`FWResult`);
the optional `OnError` reads the forward context and the error. `Params` and
results are `interface{}` values (`Value`): a type assertion `x.(T)` on a value
whose dynamic type is not `T`, nil included, panics, and so does `Params[0]` on
empty `Params`.

The collaborators are abstract state (`Infra`): the set of existing machine
names, the set of `(name, address)` routes and the status last written for each
machine. Each call of `Machine.Create`, `Machine.Remove`, `Machine.SetStatus`,
`Router.AddRoute` and `Router.RemoveRoute` either fails, with the error
`Services` or the `Router` chooses for the call and the state, and changes
nothing, or makes its one change.

The file does not compile as written; the model reads it as follows.
* `return nil` and `return err` in the `Forward` of `add-new-routes` are
  `return nil, nil` and `return nil, err`.
* `ctx.FWResult` in the `Forward` of `remove-old-routes`, which a forward context
  does not have, is `ctx.Previous`.
* `args.Compute` is `args.box.Compute` and `args.Provisioner` is `args.provisioner`.
* `runMachineActionArgs`, asserted by `remove-old-machine` and `add-new-routes`
  and declared nowhere, is the declared `runMachineActionsArgs`, one letter away.
* `changeUnitsPipelineArgs`, also declared nowhere, is a struct type other than
  `runMachineActionsArgs`, with the fields the actions read.
* The undeclared results `cont` (`create-machine`) and `imageId` (`follow-logs`)
  are parameters.

Progress banners, log lines and the output writer are not modelled.
-/

namespace Vertice.Provision.One

open Vertice.Carton (Box BoxCompute)

/-! ## Values -/

/-- `machine.Machine`: the fields the actions read or write. -/
structure Machine where
  name : String
  componentId : String
  buildingImage : String
  status : String
  routable : Bool
  deriving DecidableEq, Repr

/-- `machine.CreateArgs`. -/
structure CreateArgs where
  name : String
  image : String
  compute : BoxCompute
  buildingImage : String
  provisioner : String

/-- The struct types the actions assert `Params[0]` to be. -/
inductive ArgsType where
  | runMachineActionsArgs
  | changeUnitsPipelineArgs
  deriving DecidableEq, Repr

/-- The type name a failed assertion reports. -/
def ArgsType.goName : ArgsType → String
  | runMachineActionsArgs => "runMachineActionsArgs"
  | changeUnitsPipelineArgs => "changeUnitsPipelineArgs"

/-- The fields the actions read of a `Params[0]` struct. -/
structure Args where
  box : Box
  imageId : String
  machineStatus : String
  provisioner : String
  deriving DecidableEq

/-- An `interface{}` value: nil, or a value together with its dynamic type. -/
inductive Value where
  | nil
  | machine (m : Machine)
  | args (type : ArgsType) (args : Args)
  /-- A value of a dynamic type no action asserts. -/
  | other (typeName : String)
  deriving DecidableEq

namespace Value

/-- `v.(machine.Machine)`. -/
def toMachine : Value → Go Machine
  | machine m => .ok m
  | _ => .error (.typeAssertion "machine.Machine")

/-- `v.(T)` for one of the argument structs `T`. -/
def toArgs (type : ArgsType) : Value → Go Args
  | args t a => if t = type then .ok a else .error (.typeAssertion type.goName)
  | _ => .error (.typeAssertion type.goName)

@[simp] theorem toMachine_machine (m : Machine) : (machine m).toMachine = .ok m := rfl

@[simp] theorem toArgs_args_self (type : ArgsType) (a : Args) : (args type a).toArgs type = .ok a := by
  simp [toArgs]

theorem toMachine_eq_ok {v : Value} {m : Machine} : v.toMachine = .ok m ↔ v = machine m := by
  cases v <;> simp [toMachine]

theorem toArgs_eq_ok {v : Value} {type : ArgsType} {a : Args} :
    v.toArgs type = .ok a ↔ v = args type a := by
  cases v with
  | args t a' =>
    by_cases same : t = type
    · simp [toArgs, same, eq_comm]
    · simp [toArgs, same, Ne.symm same]
  | _ => simp [toArgs]

/-- A value the assertion to `T` accepts is rejected by the assertion to any other `T'`. -/
theorem toArgs_of_ne {type type' : ArgsType} (different : type ≠ type') (a : Args) :
    (args type a).toArgs type' = .error (.typeAssertion type'.goName) := by
  simp [toArgs, different]

end Value

/-- `action.FWContext`. -/
structure FWContext where
  params : List Value
  previous : Value

/-- `action.BWContext`. -/
structure BWContext where
  params : List Value
  fwResult : Value

/-! ## Collaborators -/

/-- What the machine and router collaborators hold. -/
structure Infra where
  machines : Finset String
  routes : Finset (String × String)
  statuses : String → String

/-- A `router.Router`: the error each call returns in a state, if it fails. -/
structure Router where
  addRouteError : String → String → Infra → Option GoError
  removeRouteError : String → String → Infra → Option GoError

/-- What the actions call outside the file. -/
structure Services where
  /-- `provision.Box.GetName`. -/
  getName : Box → String
  /-- `machine.Machine.Address`. -/
  address : Machine → String
  createError : Machine → CreateArgs → Infra → Option GoError
  removeError : Machine → String → Infra → Option GoError
  setStatusError : Machine → String → Infra → Option GoError
  logsError : Machine → String → Option GoError
  getRouterForBox : Box → Except GoError Router
  /-- `provision.StatusError`. -/
  statusError : String

/-- A collaborator call: its error, or the state its one change leaves. -/
def attempt (err : Option GoError) (after : Infra) : Except GoError Infra :=
  match err with
  | some e => .error e
  | none => .ok after

/-- A call whose error is only logged: the state it leaves either way. -/
def logged (s : Infra) : Except GoError Infra → Infra
  | .ok after => after
  | .error _ => s

@[simp] theorem attempt_none (after : Infra) : attempt none after = .ok after := rfl

@[simp] theorem attempt_some (e : GoError) (after : Infra) : attempt (some e) after = .error e := rfl

@[simp] theorem attempt_eq_ok {err : Option GoError} {after s : Infra} :
    attempt err after = .ok s ↔ err = none ∧ after = s := by
  cases err <;> simp [attempt]

@[simp] theorem logged_ok (s after : Infra) : logged s (.ok after) = after := rfl

@[simp] theorem logged_error (s : Infra) (e : GoError) : logged s (.error e) = s := rfl

namespace Machine

variable (svc : Services) (m : Machine)

def create (args : CreateArgs) (s : Infra) : Except GoError Infra :=
  attempt (svc.createError m args s) { s with machines := insert m.name s.machines }

def remove (provisioner : String) (s : Infra) : Except GoError Infra :=
  attempt (svc.removeError m provisioner s) { s with machines := s.machines.erase m.name }

def setStatus (status : String) (s : Infra) : Except GoError Infra :=
  attempt (svc.setStatusError m status s)
    { s with statuses := Function.update s.statuses m.name status }

end Machine

namespace Router

variable (r : Router) (name address : String) (s : Infra)

def addRoute : Except GoError Infra :=
  attempt (r.addRouteError name address s) { s with routes := insert (name, address) s.routes }

def removeRoute : Except GoError Infra :=
  attempt (r.removeRouteError name address s) { s with routes := s.routes.erase (name, address) }

end Router

/-- A call whose error is logged makes its change exactly when it does not fail. -/
@[simp] theorem logged_attempt (t after : Infra) (e : Option GoError) :
    logged t (attempt e after) = if e = none then after else t := by
  cases e <;> rfl

/-! ## The actions, actions.go:42-246 -/

/-- `action.Action`. -/
structure Action where
  name : String
  forward : FWContext → Infra → Go ((Value × Option GoError) × Infra)
  backward : BWContext → Infra → Go Infra
  onError : Option (FWContext → GoError → Go Unit)
  minParams : Nat

/-- `rollbackNotice`: the banner goes to the writer of `Params[0]`, if non-nil. -/
def rollbackNotice (ctx : FWContext) (_err : GoError) : Go Unit := do
  let _args ← (← index ctx.params 0).toArgs .changeUnitsPipelineArgs
  pure ()

/-- `updateStatusInRiak`: the machine is a new local value; `SetStatus` errors are dropped. -/
def updateStatusInRiak (svc : Services) : Action where
  name := "update-status-riak"
  forward ctx s := do
    let args ← (← index ctx.params 0).toArgs .runMachineActionsArgs
    let mach : Machine :=
      { name := svc.getName args.box, componentId := args.box.componentId,
        buildingImage := args.machineStatus, status := "", routable := false }
    pure ((.machine mach, none), logged s (mach.setStatus svc mach.buildingImage s))
  backward ctx s := do
    let c ← ctx.fwResult.toMachine
    let _args ← (← index ctx.params 0).toArgs .runMachineActionsArgs
    pure (logged s (c.setStatus svc svc.statusError s))
  onError := none
  minParams := 0

/-- `createMachine`, returning `cont` after a successful `Create`. -/
def createMachine (svc : Services) (cont : Value) : Action where
  name := "create-machine"
  forward ctx s := do
    let mach ← ctx.previous.toMachine
    let args ← (← index ctx.params 0).toArgs .runMachineActionsArgs
    match mach.create svc
        { name := mach.name, image := args.imageId, compute := args.box.compute,
          buildingImage := mach.status, provisioner := args.provisioner } s with
    | .error err => pure ((.nil, some err), s)
    | .ok s => pure ((cont, none), s)
  backward ctx s := do
    let c ← ctx.fwResult.toMachine
    let args ← (← index ctx.params 0).toArgs .runMachineActionsArgs
    pure (logged s (c.remove svc args.provisioner s))
  onError := none
  minParams := 0

/-- `removeOldMachine`: a failed `Remove` is logged and ignored. -/
def removeOldMachine (svc : Services) : Action where
  name := "remove-old-machine"
  forward ctx s := do
    let mach ← ctx.previous.toMachine
    let args ← (← index ctx.params 0).toArgs .runMachineActionsArgs
    pure ((ctx.previous, none), logged s (mach.remove svc args.provisioner s))
  backward _ s := pure s
  onError := some rollbackNotice
  minParams := 1

/-- `addNewRoutes`: `mach.Routable = true` sets a field of a local copy, and the
result is nil. In `Backward` a failed router lookup is logged and leaves the
router nil. -/
def addNewRoutes (svc : Services) : Action where
  name := "add-new-routes"
  forward ctx s := do
    let args ← (← index ctx.params 0).toArgs .runMachineActionsArgs
    let mach ← ctx.previous.toMachine
    match svc.getRouterForBox args.box with
    | .error err => pure ((.nil, some err), s)
    | .ok r =>
      match r.addRoute mach.name (svc.address mach) s with
      | .error err => pure ((.nil, some err), s)
      | .ok s => pure ((.nil, none), s)
  backward ctx s := do
    let args ← (← index ctx.params 0).toArgs .changeUnitsPipelineArgs
    let mach ← ctx.fwResult.toMachine
    let r := (svc.getRouterForBox args.box).toOption
    if mach.routable then
      let r ← deref r
      pure (logged s (r.removeRoute mach.name (svc.address mach) s))
    else pure s
  onError := some rollbackNotice
  minParams := 0

/-- `removeOldRoutes`: a failed `RemoveRoute` is logged and ignored. -/
def removeOldRoutes (svc : Services) : Action where
  name := "remove-old-routes"
  forward ctx s := do
    let args ← (← index ctx.params 0).toArgs .changeUnitsPipelineArgs
    let mach ← ctx.previous.toMachine
    match svc.getRouterForBox args.box with
    | .error err => pure ((.machine mach, some err), s)
    | .ok r =>
      if mach.routable then
        pure ((.machine mach, none), logged s (r.removeRoute mach.name (svc.address mach) s))
      else pure ((.machine mach, none), s)
  backward ctx s := do
    let args ← (← index ctx.params 0).toArgs .changeUnitsPipelineArgs
    let mach ← ctx.fwResult.toMachine
    let r := (svc.getRouterForBox args.box).toOption
    if mach.routable then
      let r ← deref r
      pure (logged s (r.addRoute mach.name (svc.address mach) s))
    else pure s
  onError := some rollbackNotice
  minParams := 1

/-- `followLogs`, returning `imageId` after a successful `Logs`; it tests `Previous`
with the two-result assertion, which does not panic. -/
def followLogs (svc : Services) (imageId : Value) : Action where
  name := "follow-logs"
  forward ctx s :=
    match ctx.previous with
    | .machine c => do
      let args ← (← index ctx.params 0).toArgs .runMachineActionsArgs
      match svc.logsError c args.provisioner with
      | some err => pure ((.nil, some err), s)
      | none => pure ((imageId, none), s)
    | _ => pure ((.nil, some ⟨"Previous result must be a container."⟩), s)
  backward _ s := pure s
  onError := none
  minParams := 1

end Vertice.Provision.One
