import Vertice.Provision.One.Actions

/-!
# What `Backward` and `OnError` meet after a successful `Forward`

The pipeline runs a step's `Backward` with the `Params` its `Forward` read and the
result that `Forward` returned, and its `OnError` with the forward context. For
each action of `actions.go`, one lemma says what a successful `Forward` read and
did, and one what `Backward` does with those `Params`.

`update-status-riak`, `create-machine` (when its undeclared result `cont` is a
machine) and `remove-old-routes` are consistent: their callbacks get past every
assertion, and `Backward` gives back the state before `Forward` (for
`update-status-riak`, writes the error status) exactly when its collaborator call
succeeds, and changes nothing when it fails (`backward_compensates_forward`).
`add-new-routes` is not: its `Forward` asserts `Params[0]` to be a
`runMachineActionsArgs` and returns nil, while its `Backward` and `OnError` assert
a `changeUnitsPipelineArgs`, and `Backward` then a machine; `remove-old-machine`
pairs the same `Forward` with the same `OnError` (`callbacks_after_forward`). The
route `add-new-routes` adds is never removed by its compensation
(`addNewRoutes_compensation_panics`).
-/

namespace Vertice.Provision.One

section Steps

variable (svc : Services) {ctx : FWContext} {s s' : Infra} {r : Value} {err : Option GoError}

/-! ## What a successful `Forward` did -/

theorem updateStatusInRiak_forward_eq_ok
    (success : (updateStatusInRiak svc).forward ctx s = .ok ((r, err), s')) :
    err = none ∧ (∃ args, ctx.params.head? = some (.args .runMachineActionsArgs args)) ∧
      ∃ mach : Machine, r = .machine mach ∧ s' = logged s (mach.setStatus svc mach.buildingImage s) := by
  simp only [updateStatusInRiak, bind_eq_ok, index_zero_eq_ok, Value.toArgs_eq_ok] at success
  obtain ⟨_, head, args, rfl, success⟩ := success
  simp only [pure_eq_ok, Except.ok.injEq, Prod.mk.injEq] at success
  obtain ⟨⟨rfl, rfl⟩, rfl⟩ := success
  exact ⟨rfl, ⟨args, head⟩, _, rfl, rfl⟩

theorem createMachine_forward_eq_ok {cont : Value}
    (success : (createMachine svc cont).forward ctx s = .ok ((r, none), s')) :
    r = cont ∧ (∃ args, ctx.params.head? = some (.args .runMachineActionsArgs args)) ∧
      ∃ mach, ctx.previous = .machine mach ∧ s' = { s with machines := insert mach.name s.machines } := by
  simp only [createMachine, Machine.create, bind_eq_ok, index_zero_eq_ok, Value.toArgs_eq_ok,
    Value.toMachine_eq_ok] at success
  obtain ⟨mach, previous, _, head, args, rfl, success⟩ := success
  split at success
  · simp at success
  · next created =>
    simp only [pure_eq_ok, Except.ok.injEq, Prod.mk.injEq] at success
    obtain ⟨⟨rfl, -⟩, rfl⟩ := success
    exact ⟨rfl, ⟨args, head⟩, mach, previous, (attempt_eq_ok.mp created).2.symm⟩

theorem removeOldMachine_forward_eq_ok
    (success : (removeOldMachine svc).forward ctx s = .ok ((r, err), s')) :
    err = none ∧ r = ctx.previous ∧ ∃ args, ctx.params.head? = some (.args .runMachineActionsArgs args) := by
  simp only [removeOldMachine, bind_eq_ok, index_zero_eq_ok, Value.toArgs_eq_ok] at success
  obtain ⟨mach, -, _, head, args, rfl, success⟩ := success
  simp only [pure_eq_ok, Except.ok.injEq, Prod.mk.injEq] at success
  exact ⟨success.1.2.symm, success.1.1.symm, args, head⟩

/-- The route is added, and the result is nil: `Routable` was set on a local copy. -/
theorem addNewRoutes_forward_eq_ok
    (success : (addNewRoutes svc).forward ctx s = .ok ((r, none), s')) :
    r = .nil ∧ (∃ args, ctx.params.head? = some (.args .runMachineActionsArgs args)) ∧
      ∃ mach, ctx.previous = .machine mach ∧ (mach.name, svc.address mach) ∈ s'.routes := by
  simp only [addNewRoutes, bind_eq_ok, index_zero_eq_ok, Value.toArgs_eq_ok,
    Value.toMachine_eq_ok] at success
  obtain ⟨_, head, args, rfl, mach, previous, success⟩ := success
  split at success
  · simp at success
  · split at success
    · simp at success
    · next added =>
      simp only [pure_eq_ok, Except.ok.injEq, Prod.mk.injEq] at success
      obtain ⟨⟨rfl, -⟩, rfl⟩ := success
      simp only [Router.addRoute, attempt_eq_ok] at added
      exact ⟨rfl, ⟨args, head⟩, mach, previous, by simp [← added.2]⟩

theorem removeOldRoutes_forward_eq_ok
    (success : (removeOldRoutes svc).forward ctx s = .ok ((r, none), s')) :
    ∃ args router mach, ctx.params.head? = some (.args .changeUnitsPipelineArgs args) ∧
      svc.getRouterForBox args.box = .ok router ∧ ctx.previous = .machine mach ∧ r = .machine mach ∧
      s' = if mach.routable then logged s (router.removeRoute mach.name (svc.address mach) s) else s := by
  simp only [removeOldRoutes, bind_eq_ok, index_zero_eq_ok, Value.toArgs_eq_ok,
    Value.toMachine_eq_ok] at success
  obtain ⟨_, head, args, rfl, mach, previous, success⟩ := success
  split at success
  · simp at success
  · next router found =>
    split at success <;>
      simp only [pure_eq_ok, Except.ok.injEq, Prod.mk.injEq] at success <;>
      obtain ⟨⟨rfl, -⟩, rfl⟩ := success <;>
      simp_all

/-! ## What `Backward` does with the same `Params` -/

variable {params : List Value} {args : Args}

theorem updateStatusInRiak_backward (head : params.head? = some (.args .runMachineActionsArgs args))
    (v : Value) (t : Infra) :
    (updateStatusInRiak svc).backward ⟨params, v⟩ t =
      v.toMachine >>= fun c => .ok (logged t (c.setStatus svc svc.statusError t)) := by
  simp [updateStatusInRiak, index_zero_eq_ok.mpr head]

theorem createMachine_backward (cont : Value)
    (head : params.head? = some (.args .runMachineActionsArgs args)) (v : Value) (t : Infra) :
    (createMachine svc cont).backward ⟨params, v⟩ t =
      v.toMachine >>= fun c => .ok (logged t (c.remove svc args.provisioner t)) := by
  simp [createMachine, index_zero_eq_ok.mpr head]

/-- `Backward` of `add-new-routes` rejects `Params` of any other struct type. -/
theorem addNewRoutes_backward_of_ne {type : ArgsType} (different : type ≠ .changeUnitsPipelineArgs)
    (head : params.head? = some (.args type args)) (v : Value) (t : Infra) :
    (addNewRoutes svc).backward ⟨params, v⟩ t = .error (.typeAssertion "changeUnitsPipelineArgs") := by
  simp [addNewRoutes, index_zero_eq_ok.mpr head, Value.toArgs_of_ne different, ArgsType.goName]

theorem removeOldRoutes_backward {router : Router}
    (head : params.head? = some (.args .changeUnitsPipelineArgs args))
    (found : svc.getRouterForBox args.box = .ok router) (mach : Machine) (t : Infra) :
    (removeOldRoutes svc).backward ⟨params, .machine mach⟩ t =
      .ok (if mach.routable then logged t (router.addRoute mach.name (svc.address mach) t) else t) := by
  by_cases routable : mach.routable <;>
    simp [removeOldRoutes, index_zero_eq_ok.mpr head, found, Except.toOption, routable]

theorem rollbackNotice_eq {type : ArgsType} (head : ctx.params.head? = some (.args type args))
    (err : GoError) :
    rollbackNotice ctx err =
      if type = .changeUnitsPipelineArgs then .ok () else .error (.typeAssertion "changeUnitsPipelineArgs") := by
  by_cases same : type = .changeUnitsPipelineArgs
  · subst same
    simp [rollbackNotice, index_zero_eq_ok.mpr head]
  · simp [rollbackNotice, index_zero_eq_ok.mpr head, Value.toArgs_of_ne same, same, ArgsType.goName]

end Steps

/-! ## The callbacks after a successful `Forward` -/

/-- After a successful `Forward`, run with the same `Params`, that `Forward`'s result
and in any state: the callbacks of `update-status-riak` and `remove-old-routes` get
past every assertion, and `create-machine`'s `Backward` exactly when its result
`cont` is a machine; `remove-old-machine`'s `OnError` panics, and so do both
callbacks of `add-new-routes`, whose result is nil. -/
theorem callbacks_after_forward (svc : Services) (cont : Value) (ctx : FWContext) (s s' t : Infra)
    (r : Value) (err : GoError) :
    ((updateStatusInRiak svc).forward ctx s = .ok ((r, none), s') →
      ∃ t', (updateStatusInRiak svc).backward ⟨ctx.params, r⟩ t = .ok t') ∧
    ((createMachine svc cont).forward ctx s = .ok ((r, none), s') →
      ((∃ t', (createMachine svc cont).backward ⟨ctx.params, r⟩ t = .ok t') ↔ ∃ m, cont = .machine m)) ∧
    ((removeOldMachine svc).forward ctx s = .ok ((r, none), s') →
      (removeOldMachine svc).backward ⟨ctx.params, r⟩ t = .ok t ∧
      ∀ notice ∈ (removeOldMachine svc).onError,
        notice ctx err = .error (.typeAssertion "changeUnitsPipelineArgs")) ∧
    ((addNewRoutes svc).forward ctx s = .ok ((r, none), s') →
      r = .nil ∧
      (addNewRoutes svc).backward ⟨ctx.params, r⟩ t = .error (.typeAssertion "changeUnitsPipelineArgs") ∧
      ∀ notice ∈ (addNewRoutes svc).onError,
        notice ctx err = .error (.typeAssertion "changeUnitsPipelineArgs")) ∧
    ((removeOldRoutes svc).forward ctx s = .ok ((r, none), s') →
      (∃ t', (removeOldRoutes svc).backward ⟨ctx.params, r⟩ t = .ok t') ∧
      ∀ notice ∈ (removeOldRoutes svc).onError, notice ctx err = .ok ()) := by
  refine ⟨fun success => ?_, fun success => ?_, fun success => ?_, fun success => ?_, fun success => ?_⟩
  · obtain ⟨-, ⟨args, head⟩, mach, rfl, -⟩ := updateStatusInRiak_forward_eq_ok svc success
    exact ⟨_, updateStatusInRiak_backward svc head _ t⟩
  · obtain ⟨rfl, ⟨args, head⟩, -⟩ := createMachine_forward_eq_ok svc success
    rw [createMachine_backward svc _ head]
    cases r <;> simp [Value.toMachine]
  · obtain ⟨-, -, args, head⟩ := removeOldMachine_forward_eq_ok svc success
    refine ⟨rfl, fun notice member => ?_⟩
    cases Option.mem_some_iff.mp member
    simp [rollbackNotice_eq head]
  · obtain ⟨rfl, ⟨args, head⟩, -⟩ := addNewRoutes_forward_eq_ok svc success
    refine ⟨rfl, addNewRoutes_backward_of_ne svc (by decide) head _ t, fun notice member => ?_⟩
    cases Option.mem_some_iff.mp member
    simp [rollbackNotice_eq head]
  · obtain ⟨args, router, mach, head, found, -, rfl, -⟩ := removeOldRoutes_forward_eq_ok svc success
    refine ⟨⟨_, removeOldRoutes_backward svc head found mach t⟩, fun notice member => ?_⟩
    cases Option.mem_some_iff.mp member
    simp [rollbackNotice_eq head]

/-- Collaborators whose every call succeeds. -/
def sampleServices : Services where
  getName _ := "web1.example.org"
  address _ := "192.168.1.10"
  createError _ _ _ := none
  removeError _ _ _ := none
  setStatusError _ _ _ := none
  logsError _ _ := none
  getRouterForBox _ := .ok ⟨fun _ _ _ => none, fun _ _ _ => none⟩
  statusError := "error"

def sampleArgs : Args :=
  { box := default, imageId := "ubuntu-14.04", machineStatus := "building", provisioner := "one" }

def sampleMachine : Machine :=
  { name := "web1.example.org", componentId := "COM001", buildingImage := "building",
    status := "building", routable := false }

/-- A machine that does not exist yet. -/
def newMachine : Machine := { sampleMachine with name := "web2.example.org" }

/-- One existing machine and no route. -/
def sampleInfra : Infra := { machines := {"web1.example.org"}, routes := ∅, statuses := fun _ => "" }

/-- Each `Forward` succeeding on its own `Params`, and what `callbacks_after_forward`
then says of its callbacks. -/
theorem callbacks_after_forward_sample :
    (∃ r s', (updateStatusInRiak sampleServices).forward
        ⟨[.args .runMachineActionsArgs sampleArgs], .nil⟩ sampleInfra = .ok ((r, none), s') ∧
      ∃ t', (updateStatusInRiak sampleServices).backward
        ⟨[.args .runMachineActionsArgs sampleArgs], r⟩ sampleInfra = .ok t') ∧
    (∃ r s', (createMachine sampleServices (.machine newMachine)).forward
        ⟨[.args .runMachineActionsArgs sampleArgs], .machine newMachine⟩ sampleInfra = .ok ((r, none), s') ∧
      ((∃ t', (createMachine sampleServices (.machine newMachine)).backward
        ⟨[.args .runMachineActionsArgs sampleArgs], r⟩ sampleInfra = .ok t') ↔
          ∃ m, Value.machine newMachine = .machine m)) ∧
    (∃ r s', (removeOldMachine sampleServices).forward
        ⟨[.args .runMachineActionsArgs sampleArgs], .machine sampleMachine⟩ sampleInfra = .ok ((r, none), s') ∧
      (removeOldMachine sampleServices).backward
        ⟨[.args .runMachineActionsArgs sampleArgs], r⟩ sampleInfra = .ok sampleInfra ∧
      ∀ notice ∈ (removeOldMachine sampleServices).onError,
        notice ⟨[.args .runMachineActionsArgs sampleArgs], .machine sampleMachine⟩ ⟨"timeout"⟩ =
          .error (.typeAssertion "changeUnitsPipelineArgs")) ∧
    (∃ r s', (addNewRoutes sampleServices).forward
        ⟨[.args .runMachineActionsArgs sampleArgs], .machine sampleMachine⟩ sampleInfra = .ok ((r, none), s') ∧
      r = .nil ∧
      (addNewRoutes sampleServices).backward ⟨[.args .runMachineActionsArgs sampleArgs], r⟩ sampleInfra =
        .error (.typeAssertion "changeUnitsPipelineArgs") ∧
      ∀ notice ∈ (addNewRoutes sampleServices).onError,
        notice ⟨[.args .runMachineActionsArgs sampleArgs], .machine sampleMachine⟩ ⟨"timeout"⟩ =
          .error (.typeAssertion "changeUnitsPipelineArgs")) ∧
    (∃ r s', (removeOldRoutes sampleServices).forward
        ⟨[.args .changeUnitsPipelineArgs sampleArgs], .machine sampleMachine⟩ sampleInfra = .ok ((r, none), s') ∧
      (∃ t', (removeOldRoutes sampleServices).backward
        ⟨[.args .changeUnitsPipelineArgs sampleArgs], r⟩ sampleInfra = .ok t') ∧
      ∀ notice ∈ (removeOldRoutes sampleServices).onError,
        notice ⟨[.args .changeUnitsPipelineArgs sampleArgs], .machine sampleMachine⟩ ⟨"timeout"⟩ = .ok ()) :=
  ⟨⟨_, _, rfl, (callbacks_after_forward sampleServices .nil
      ⟨[.args .runMachineActionsArgs sampleArgs], .nil⟩ sampleInfra _ sampleInfra _ ⟨"timeout"⟩).1 rfl⟩,
    ⟨_, _, rfl, (callbacks_after_forward sampleServices (.machine newMachine)
      ⟨[.args .runMachineActionsArgs sampleArgs], .machine newMachine⟩ sampleInfra _ sampleInfra _
      ⟨"timeout"⟩).2.1 rfl⟩,
    ⟨_, _, rfl, (callbacks_after_forward sampleServices .nil
      ⟨[.args .runMachineActionsArgs sampleArgs], .machine sampleMachine⟩ sampleInfra _ sampleInfra _
      ⟨"timeout"⟩).2.2.1 rfl⟩,
    ⟨_, _, rfl, (callbacks_after_forward sampleServices .nil
      ⟨[.args .runMachineActionsArgs sampleArgs], .machine sampleMachine⟩ sampleInfra _ sampleInfra _
      ⟨"timeout"⟩).2.2.2.1 rfl⟩,
    ⟨_, _, rfl, (callbacks_after_forward sampleServices .nil
      ⟨[.args .changeUnitsPipelineArgs sampleArgs], .machine sampleMachine⟩ sampleInfra _ sampleInfra _
      ⟨"timeout"⟩).2.2.2.2 rfl⟩⟩

/-- With `Params[0]` a `runMachineActionsArgs` and `Previous` a machine, `Forward`
adds the machine's route and returns nil; `Backward` with the same `Params` and that
result, and `OnError` with the same `Params`, panic on `Params[0]`, and the route
stays. -/
theorem addNewRoutes_compensation_panics :
    ∃ s', (addNewRoutes sampleServices).forward
        ⟨[.args .runMachineActionsArgs sampleArgs], .machine sampleMachine⟩ sampleInfra =
        .ok ((.nil, none), s') ∧
      ("web1.example.org", "192.168.1.10") ∈ s'.routes ∧
      (addNewRoutes sampleServices).backward ⟨[.args .runMachineActionsArgs sampleArgs], .nil⟩ s' =
        .error (.typeAssertion "changeUnitsPipelineArgs") ∧
      rollbackNotice ⟨[.args .runMachineActionsArgs sampleArgs], .machine sampleMachine⟩ ⟨"route"⟩ =
        .error (.typeAssertion "changeUnitsPipelineArgs") :=
  ⟨_, rfl, by decide, rfl, rfl⟩

/-! ## Compensation -/

/-- After a successful `Forward`, `Backward` with the same `Params` and its result:
`update-status-riak`'s writes the error status over the status `Forward` wrote, and
`create-machine`'s (returning the machine it created) and `remove-old-routes`'s give
back exactly the state before `Forward`. Each changes nothing when its collaborator
call fails, and only then. -/
theorem backward_compensates_forward (svc : Services) (ctx : FWContext) (s s' : Infra) (r : Value) :
    ((updateStatusInRiak svc).forward ctx s = .ok ((r, none), s') → ∃ mach, r = .machine mach ∧
      s' = (if svc.setStatusError mach mach.buildingImage s = none then
        { s with statuses := Function.update s.statuses mach.name mach.buildingImage } else s) ∧
      ∀ t, (updateStatusInRiak svc).backward ⟨ctx.params, r⟩ t = .ok
        (if svc.setStatusError mach svc.statusError t = none then
          { t with statuses := Function.update t.statuses mach.name svc.statusError } else t)) ∧
    (∀ mach, ctx.previous = .machine mach → mach.name ∉ s.machines →
      (createMachine svc ctx.previous).forward ctx s = .ok ((r, none), s') →
      s' = { s with machines := insert mach.name s.machines } ∧
      ∃ args, ctx.params.head? = some (.args .runMachineActionsArgs args) ∧
        (createMachine svc ctx.previous).backward ⟨ctx.params, r⟩ s' =
          .ok (if svc.removeError mach args.provisioner s' = none then s else s')) ∧
    (∀ mach, ctx.previous = .machine mach → (mach.routable → (mach.name, svc.address mach) ∈ s.routes) →
      (removeOldRoutes svc).forward ctx s = .ok ((r, none), s') →
      r = .machine mach ∧ ∃ args router, ctx.params.head? = some (.args .changeUnitsPipelineArgs args) ∧
        svc.getRouterForBox args.box = .ok router ∧
        (removeOldRoutes svc).backward ⟨ctx.params, r⟩ s' =
          .ok (if mach.routable ∧ router.addRouteError mach.name (svc.address mach) s' ≠ none
            then s' else s)) := by
  refine ⟨fun success => ?_, fun mach previous fresh success => ?_,
    fun mach previous present success => ?_⟩
  · obtain ⟨-, ⟨args, head⟩, mach, rfl, rfl⟩ := updateStatusInRiak_forward_eq_ok svc success
    refine ⟨mach, rfl, by simp [Machine.setStatus], fun t => ?_⟩
    rw [updateStatusInRiak_backward svc head]
    simp [Machine.setStatus]
  · obtain ⟨rfl, ⟨args, head⟩, mach', previous', rfl⟩ := createMachine_forward_eq_ok svc success
    obtain rfl : mach = mach' := Value.machine.inj (previous.symm.trans previous')
    refine ⟨rfl, args, head, ?_⟩
    rw [createMachine_backward svc _ head, previous]
    split_ifs with removed <;> simp [Machine.remove, removed, Finset.erase_insert fresh]
  · obtain ⟨args, router, mach', head, found, previous', rfl, rfl⟩ :=
      removeOldRoutes_forward_eq_ok svc success
    obtain rfl : mach = mach' := Value.machine.inj (previous.symm.trans previous')
    refine ⟨rfl, args, router, head, found, ?_⟩
    rw [removeOldRoutes_backward svc head found mach]
    by_cases routable : mach.routable
    · have present := present routable
      by_cases removed : router.removeRouteError mach.name (svc.address mach) s = none <;>
        simp [routable, removed, Router.removeRoute, Router.addRoute, Finset.insert_erase present,
          Finset.insert_eq_of_mem present]
    · simp [routable]

theorem backward_compensates_forward_sample :
    (createMachine sampleServices (.machine newMachine)).forward
        ⟨[.args .runMachineActionsArgs sampleArgs], .machine newMachine⟩ sampleInfra =
      .ok ((.machine newMachine, none),
        { sampleInfra with machines := insert "web2.example.org" sampleInfra.machines }) ∧
    { sampleInfra with machines := insert "web2.example.org" sampleInfra.machines } =
        { sampleInfra with machines := insert newMachine.name sampleInfra.machines } ∧
      ∃ args, [Value.args .runMachineActionsArgs sampleArgs].head? =
          some (.args .runMachineActionsArgs args) ∧
        (createMachine sampleServices (.machine newMachine)).backward
            ⟨[.args .runMachineActionsArgs sampleArgs], .machine newMachine⟩
            { sampleInfra with machines := insert "web2.example.org" sampleInfra.machines } =
          .ok (if sampleServices.removeError newMachine args.provisioner
              { sampleInfra with machines := insert "web2.example.org" sampleInfra.machines } = none
            then sampleInfra
            else { sampleInfra with machines := insert "web2.example.org" sampleInfra.machines }) :=
  ⟨rfl, (backward_compensates_forward sampleServices
    ⟨[.args .runMachineActionsArgs sampleArgs], .machine newMachine⟩ sampleInfra _
    (.machine newMachine)).2.1 newMachine rfl (by decide) rfl⟩

end Vertice.Provision.One
