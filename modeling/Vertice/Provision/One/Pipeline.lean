import Vertice.Provision.One.Compensation

/-!
# The actions in a pipeline

The actions are run by `action.Pipeline.Execute`, which is not part of the
repository; `execute` is modelled from the design. Steps run in order, each
`Forward` reading the previous step's result. The first `Forward` error runs that
step's `OnError`, then the `Backward` of every completed step, most recent first,
each with its own forward result, and is returned wrapped with the step's name.
Compensation is best effort: a `Backward` that panics is passed over and the next
one runs. Every `Backward` of `actions.go` panics, if at all, before its first
collaborator call, so a passed-over step leaves the state as it was.

`add-new-routes` only completes with `Params[0]` a `runMachineActionsArgs`, on
which its `Backward` panics at once. So every pipeline runs exactly as if
`add-new-routes` had no `Backward` (`pipeline_ignores_addNewRoutes_backward`): no
compensation ever removes the route it added.
-/

namespace Vertice.Provision.One

/-- Modelled from the spec: the error `Execute` returns. -/
inductive PipelineError where
  /-- Fewer `Params` than a step's `MinParams`. -/
  | configuration (step : String)
  /-- A step's `Forward` error, wrapped with the step's name. -/
  | forward (step : String) (err : GoError)
  deriving DecidableEq, Repr

/-- Modelled from the spec: compensation runs the `Backward` of each completed step,
most recent first, with the step's own forward result; one that panics is passed
over, and the compensation always runs to the end. -/
def rollback (params : List Value) : List (Action × Value) → Infra → Infra
  | [], s => s
  | (a, r) :: done, s =>
    match a.backward ⟨params, r⟩ s with
    | .ok t => rollback params done t
    | .error _ => rollback params done s

/-- Modelled from the spec: a failing step's `OnError`, if it declares one. -/
def Action.notify (a : Action) (ctx : FWContext) (err : GoError) : Go Unit :=
  match a.onError with
  | some notice => notice ctx err
  | none => pure ()

/-- Modelled from the spec: the run from the steps still to go, the previous
result and the completed steps with their results, most recent first. A step with
too few `Params` stops the run before its `Forward`, without compensation. -/
def executeFrom (params : List Value) : List Action → Value → List (Action × Value) → Infra →
    Go (Option PipelineError × Infra)
  | [], _, _, s => pure (none, s)
  | a :: rest, previous, done, s =>
    if params.length < a.minParams then pure (some (.configuration a.name), s)
    else do
      let ((r, err), s) ← a.forward ⟨params, previous⟩ s
      match err with
      | none => executeFrom params rest r ((a, r) :: done) s
      | some err =>
        a.notify ⟨params, previous⟩ err
        pure (some (.forward a.name err), rollback params done s)

/-- Modelled from the spec: `Execute`; the first step's `Previous` is nil. -/
def execute (actions : List Action) (params : List Value) (s : Infra) :
    Go (Option PipelineError × Infra) :=
  executeFrom params actions .nil [] s

/-! ## Runs with the same compensation -/

section Congruence

variable {params : List Value}

/-- Completed steps whose compensations agree from every state keep agreeing when
one more step completes. -/
theorem rollback_cons_congr {done done' : List (Action × Value)}
    (same : ∀ s, rollback params done s = rollback params done' s) (a : Action) (r : Value) (s : Infra) :
    rollback params ((a, r) :: done) s = rollback params ((a, r) :: done') s := by
  simp only [rollback]
  split <;> exact same _

/-- The run from the same steps is the same over two lists of completed steps with
the same compensation. -/
theorem executeFrom_congr {done done' : List (Action × Value)}
    (same : ∀ s, rollback params done s = rollback params done' s) :
    ∀ (actions : List Action) (previous : Value) (s : Infra),
      executeFrom params actions previous done s = executeFrom params actions previous done' s
  | [], _, _ => rfl
  | a :: rest, previous, s => by
    simp only [executeFrom]
    split_ifs
    · rfl
    · refine congrArg (a.forward ⟨params, previous⟩ s >>= ·) (funext fun ⟨⟨r, err⟩, s₁⟩ => ?_)
      cases err with
      | none => exact executeFrom_congr (rollback_cons_congr same a r) rest r s₁
      | some err => simp only [same]

end Congruence

/-! ## `add-new-routes` in a pipeline -/

section AddNewRoutes

variable (svc : Services) {params : List Value}

/-- A completed `add-new-routes` step contributes nothing to compensation. -/
theorem rollback_addNewRoutes {args : Args} (head : params.head? = some (.args .runMachineActionsArgs args))
    (r : Value) (done : List (Action × Value)) (s : Infra) :
    rollback params ((addNewRoutes svc, r) :: done) s =
      rollback params (({ addNewRoutes svc with backward := fun _ t => pure t }, r) :: done) s := by
  simp [rollback, addNewRoutes_backward_of_ne svc (by decide) head]

/-- The run reaching `add-new-routes` is the same with or without its `Backward`. -/
theorem executeFrom_addNewRoutes (post : List Action) (previous : Value)
    (done : List (Action × Value)) (s : Infra) :
    executeFrom params (addNewRoutes svc :: post) previous done s =
      executeFrom params ({ addNewRoutes svc with backward := fun _ t => pure t } :: post) previous done s := by
  show (if params.length < 0 then _ else _) = (if params.length < 0 then _ else _)
  split_ifs
  · rfl
  · cases forwarded : (addNewRoutes svc).forward ⟨params, previous⟩ s with
    | error p => rfl
    | ok result =>
      obtain ⟨⟨r, _ | err⟩, s₁⟩ := result
      · obtain ⟨-, ⟨args, head⟩, -⟩ := addNewRoutes_forward_eq_ok svc forwarded
        exact executeFrom_congr (rollback_addNewRoutes svc head r done) post r s₁
      · rfl

end AddNewRoutes

/-- Every pipeline, whatever comes before and after `add-new-routes`, runs exactly
as if `add-new-routes` declared no `Backward`: its compensation, which would remove
the route it added, never takes effect. -/
theorem pipeline_ignores_addNewRoutes_backward (svc : Services) (pre post : List Action)
    (params : List Value) (s : Infra) :
    execute (pre ++ addNewRoutes svc :: post) params s =
      execute (pre ++ { addNewRoutes svc with backward := fun _ t => pure t } :: post) params s := by
  suffices run : ∀ previous done s, executeFrom params (pre ++ addNewRoutes svc :: post) previous done s =
      executeFrom params (pre ++ { addNewRoutes svc with backward := fun _ t => pure t } :: post)
        previous done s from run .nil [] s
  induction pre with
  | nil => exact executeFrom_addNewRoutes svc post
  | cons a pre ih =>
    intro previous done s
    simp only [List.cons_append, executeFrom]
    split_ifs
    · rfl
    · refine congrArg (a.forward ⟨params, previous⟩ s >>= ·) (funext fun ⟨⟨r, err⟩, s₁⟩ => ?_)
      cases err with
      | none => exact ih r _ s₁
      | some err => rfl

/-- A later forward error is reported, and the route `add-new-routes` added stays. -/
example :
    executeFrom [.args .runMachineActionsArgs sampleArgs]
        [addNewRoutes sampleServices, followLogs sampleServices .nil] (.machine sampleMachine) []
        sampleInfra =
      .ok (some (.forward "follow-logs" ⟨"Previous result must be a container."⟩),
        { sampleInfra with routes := insert ("web1.example.org", "192.168.1.10") sampleInfra.routes }) :=
  rfl

end Vertice.Provision.One
