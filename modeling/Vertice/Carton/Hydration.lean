import Mathlib.Data.List.Perm.Basic
import Vertice.Carton.Assembly

/-!
# Hydration outcomes and the boxes of a carton

`get` indexes `ac.Results[0]` without testing the length, so an assembly response
that decodes to an empty result list panics (`empty_results_panic`). With lookups
that never answer a nil value with a nil error (`Backend.NonNil`), that is the only
panic of `NewAssembly` and `NewCarton` (`hydration_outcomes`): `dig` only stores
fetched components (`digLoop_nonNil`), so `mkBoxes` never dereferences a nil one.

For a carton built without error, `mkCarton_boxes` shows that its boxes are one
per component of the fetched map whose trimmed `Id` is longer than one byte, each
made from that component's `mkBox` result and agreeing with the carton on the
fields `mkBoxes` copies from the assembly (`BoxOf`), and that another iteration
order of the map gives the same carton with the boxes permuted.
-/

set_option linter.dupNamespace false

namespace Vertice.Carton

/-- Lookups that never answer a nil value with a nil error. -/
structure Backend.NonNil (backend : Backend) : Prop where
  account : ∀ args act, backend.accountGet args = .ok act → act.isSome
  component : ∀ cid accountId orgId comp,
    backend.newComponent cid accountId orgId = .ok comp → comp.isSome

/-- Every component pointer stored in the map is non-nil. -/
def ComponentsNonNil (components : AList fun _ : String => Option Component) : Prop :=
  ∀ entry ∈ components.entries, entry.2.isSome

/-! ## Fetching -/

theorem ComponentsNonNil.insert {components : AList fun _ : String => Option Component}
    (before : ComponentsNonNil components) (cid : String) {comp : Option Component}
    (fetched : comp.isSome) : ComponentsNonNil (components.insert cid comp) := by
  intro entry member
  rw [AList.insert_entries, List.mem_cons] at member
  rcases member with rfl | member
  · exact fetched
  · exact before entry ((List.kerase_sublist _ _).subset member)

/-- `dig` stores only the components its lookups returned. -/
theorem digLoop_nonNil {backend : Backend} (nonNil : backend.NonNil) (a : Assembly) :
    ∀ (ids : List String) components, ComponentsNonNil components →
      ComponentsNonNil (a.digLoop backend ids components).1
  | [], _, before => before
  | cid :: rest, components, before => by
    unfold Assembly.digLoop
    split
    · split
      · exact before
      · next comp fetched =>
        exact digLoop_nonNil nonNil a rest _ (before.insert cid (nonNil.component _ _ _ _ fetched))
    · exact digLoop_nonNil nonNil a rest _ before

/-- `get` panics exactly on a decoded response without results. -/
theorem get_eq_error (backend : Backend) (args : ApiArgs) (ay : String) (p : Panic) :
    get backend args ay = .error p ↔
      p = .indexOutOfRange ∧ ∃ ac, fetchApiAssembly backend args ay = .ok ac ∧ ac.results = [] := by
  unfold get
  rcases fetchApiAssembly backend args ay with err | ⟨jsonClaz, _ | ⟨a, rest⟩⟩ <;>
    simp [pure, Except.pure, throw, throwThe, MonadExceptOf.throw, eq_comm]

theorem get_eq_ok {backend : Backend} (nonNil : backend.NonNil) {args : ApiArgs} {ay : String}
    {assembly : Option Assembly} {err : Option GoError}
    (returned : get backend args ay = .ok (assembly, err)) :
    (err = none → assembly.isSome) ∧ ∀ a ∈ assembly, ComponentsNonNil a.components := by
  unfold get at returned
  cases fetched : fetchApiAssembly backend args ay with
  | error e =>
    simp only [fetched, pure, Except.pure, Except.ok.injEq, Prod.mk.injEq] at returned
    obtain ⟨rfl, rfl⟩ := returned
    simp
  | ok ac =>
    rcases ac with ⟨jsonClaz, _ | ⟨a, rest⟩⟩ <;> simp only [fetched] at returned
    · cases returned
    · simp only [pure, Except.pure, Except.ok.injEq, Prod.mk.injEq] at returned
      obtain ⟨rfl, rfl⟩ := returned
      refine ⟨fun _ => rfl, fun a' member => ?_⟩
      cases Option.mem_some_iff.mp member
      exact digLoop_nonNil nonNil a _ ∅ (by simp [ComponentsNonNil, AList.empty_entries])

/-- The `dig` loop, from any map: it runs through the longest prefix of the ids
whose long ones are all found, storing each under its untrimmed id, and stops at
the first long id whose lookup fails, returning that error. -/
theorem digLoop_split (backend : Backend) (a : Assembly) (ids : List String)
    (components : AList fun _ : String => Option Component) :
    ∃ pre rest, ids = pre ++ rest ∧
      (∀ cid ∈ pre, (trimSpace cid).utf8ByteSize > 1 →
        ∃ comp, backend.newComponent cid a.accountId a.orgId = .ok comp) ∧
      (rest = [] ∧ (a.digLoop backend ids components).2 = none ∨
        ∃ cid e rest', rest = cid :: rest' ∧ (trimSpace cid).utf8ByteSize > 1 ∧
          backend.newComponent cid a.accountId a.orgId = .error e ∧
          (a.digLoop backend ids components).2 = some e) ∧
      ∀ cid, (a.digLoop backend ids components).1.lookup cid =
        if cid ∈ pre ∧ (trimSpace cid).utf8ByteSize > 1 then
          (backend.newComponent cid a.accountId a.orgId).toOption
        else components.lookup cid := by
  induction ids generalizing components with
  | nil => exact ⟨[], [], rfl, by simp, .inl ⟨rfl, rfl⟩, by simp [Assembly.digLoop]⟩
  | cons cid ids ih =>
    by_cases long : (trimSpace cid).utf8ByteSize > 1
    · cases fetched : backend.newComponent cid a.accountId a.orgId with
      | error e =>
        refine ⟨[], cid :: ids, rfl, by simp, .inr ⟨cid, e, ids, rfl, long, fetched, ?_⟩, ?_⟩ <;>
          simp [Assembly.digLoop, long, fetched]
      | ok comp =>
        obtain ⟨pre, rest, rfl, found, stop, lookup⟩ := ih (components.insert cid comp)
        have loop : a.digLoop backend (cid :: (pre ++ rest)) components =
            a.digLoop backend (pre ++ rest) (components.insert cid comp) := by
          simp [Assembly.digLoop, long, fetched]
        refine ⟨cid :: pre, rest, rfl, ?_, by rwa [loop], fun c => ?_⟩
        · exact List.forall_mem_cons.mpr ⟨fun _ => ⟨comp, fetched⟩, found⟩
        · rw [loop, lookup c]
          by_cases same : c = cid
          · subst same
            simp [long, fetched, Except.toOption]
          · simp [same, AList.lookup_insert_ne same]
    · obtain ⟨pre, rest, rfl, found, stop, lookup⟩ := ih components
      have loop : a.digLoop backend (cid :: (pre ++ rest)) components =
          a.digLoop backend (pre ++ rest) components := by
        simp [Assembly.digLoop, long]
      refine ⟨cid :: pre, rest, rfl, ?_, by rwa [loop], fun c => ?_⟩
      · exact List.forall_mem_cons.mpr ⟨fun short => absurd short long, found⟩
      · rw [loop, lookup c]
        by_cases same : c = cid
        · subst same
          simp [long]
        · simp [same]

/-- `dig` fills the components map with every listed id whose trimmed form is longer
than one byte, mapped to its lookup, up to the first id whose lookup fails; it then
stops and returns that error with the map built so far. Nothing else is stored. -/
theorem dig_components (backend : Backend) (a : Assembly) :
    ∃ pre rest, a.componentIds = pre ++ rest ∧
      (∀ cid ∈ pre, (trimSpace cid).utf8ByteSize > 1 →
        ∃ comp, backend.newComponent cid a.accountId a.orgId = .ok comp) ∧
      (rest = [] ∧ (a.dig backend).2 = none ∨
        ∃ cid e rest', rest = cid :: rest' ∧ (trimSpace cid).utf8ByteSize > 1 ∧
          backend.newComponent cid a.accountId a.orgId = .error e ∧ (a.dig backend).2 = some e) ∧
      ∀ cid, (a.dig backend).1.components.lookup cid =
        if cid ∈ pre ∧ (trimSpace cid).utf8ByteSize > 1 then
          (backend.newComponent cid a.accountId a.orgId).toOption
        else none := by
  obtain ⟨pre, rest, split, found, stop, lookup⟩ := digLoop_split backend a a.componentIds ∅
  exact ⟨pre, rest, split, found, stop, fun cid => by simpa using lookup cid⟩

/-! ## Making boxes -/

section Boxes

variable (env : Env) (backend : Backend) (a : Assembly) (aies : String) (args : ApiArgs)
  (vnet : StringMap) (vmid : String)

/-- The components `mkBoxes` makes a box for: map values whose trimmed `Id` is
longer than one byte. -/
def boxComponents (entries : List (Σ _ : String, Option Component)) : List Component :=
  (entries.filterMap (·.2)).filter fun comp => (trimSpace comp.id).utf8ByteSize > 1

/-- `b` is the box the loop body makes from `comp`'s `mkBox` result. -/
def MadeFrom (comp : Component) (b : Box) : Prop :=
  ∃ raw, backend.mkBox comp vnet vmid args = .ok raw ∧ b = a.fillBox env aies args vnet vmid comp raw

theorem boxComponents_cons_some (key : String) (comp : Component)
    (rest : List (Σ _ : String, Option Component)) :
    boxComponents (⟨key, some comp⟩ :: rest) =
      if (trimSpace comp.id).utf8ByteSize > 1 then comp :: boxComponents rest
      else boxComponents rest := by
  simp [boxComponents, List.filter_cons]

/-- The loop succeeds exactly when no entry is nil and every kept component's
`mkBox` succeeds; it then appends one box per kept component, in visiting order. -/
theorem boxLoop_eq_ok_ok (l : List (Σ _ : String, Option Component)) (acc bs : List Box) :
    a.boxLoop env backend aies args vnet vmid l acc = .ok (.ok bs) ↔
      (∀ entry ∈ l, entry.2.isSome) ∧ ∃ made, List.Forall₂ (MadeFrom env backend a aies args vnet vmid)
        (boxComponents l) made ∧ bs = acc ++ made := by
  induction l generalizing acc with
  | nil => simp [Assembly.boxLoop, pure, Except.pure, eq_comm (a := acc), boxComponents]
  | cons entry rest ih =>
    obtain ⟨key, _ | comp⟩ := entry
    · simp [Assembly.boxLoop, deref, bind, Except.bind]
    · by_cases long : (trimSpace comp.id).utf8ByteSize > 1
      · cases made : backend.mkBox comp vnet vmid args with
        | error err =>
          simp [Assembly.boxLoop, long, made, boxComponents_cons_some, MadeFrom, bind, Except.bind,
            pure, Except.pure, List.forall₂_cons_left_iff]
        | ok raw =>
          simp only [Assembly.boxLoop, long, made, deref_some, bind, Except.bind, if_true, ih,
            boxComponents_cons_some, List.forall₂_cons_left_iff, MadeFrom, List.forall_mem_cons,
            Option.isSome_some, true_and, Except.ok.injEq, exists_eq_left', List.append_assoc,
            List.singleton_append]
          constructor
          · rintro ⟨others, made, forall₂, rfl⟩
            exact ⟨others, _, ⟨_, made, rfl, forall₂, rfl⟩, rfl⟩
          · rintro ⟨others, _, ⟨_, made, rfl, forall₂, rfl⟩, rfl⟩
            exact ⟨others, made, forall₂, rfl⟩
      · simp [Assembly.boxLoop, long, ih, boxComponents_cons_some, bind, Except.bind]

/-- With no nil entry the loop never panics. -/
theorem boxLoop_no_panic :
    ∀ (l : List (Σ _ : String, Option Component)) (acc : List Box), (∀ entry ∈ l, entry.2.isSome) →
      ∃ r, a.boxLoop env backend aies args vnet vmid l acc = .ok r
  | [], acc, _ => ⟨_, rfl⟩
  | ⟨key, comp⟩ :: rest, acc, nonNil => by
    obtain ⟨comp, rfl⟩ := Option.isSome_iff_exists.mp (nonNil _ (List.mem_cons_self _ _))
    have rest_nonNil := fun entry member => nonNil entry (List.mem_cons_of_mem _ member)
    simp only [Assembly.boxLoop, deref_some, bind, Except.bind]
    split_ifs
    · cases backend.mkBox comp vnet vmid args with
      | error e => exact ⟨_, rfl⟩
      | ok raw => exact boxLoop_no_panic rest _ rest_nonNil
    · exact boxLoop_no_panic rest _ rest_nonNil

theorem mkBoxes_eq_ok_ok (order : RangeOrder) (bs : List Box) :
    a.mkBoxes env backend aies args order = .ok (.ok bs) ↔
      (∀ entry ∈ a.components.entries, entry.2.isSome) ∧
        List.Forall₂ (MadeFrom env backend a aies args (a.vnets env) (a.vmId env))
          (boxComponents (order.visit a.components.entries)) bs := by
  rw [Assembly.mkBoxes, boxLoop_eq_ok_ok]
  simp [(order.perm _).mem_iff]

theorem mkBoxes_no_panic {a : Assembly} (order : RangeOrder) (nonNil : ComponentsNonNil a.components) :
    ∃ r, a.mkBoxes env backend aies args order = .ok r :=
  boxLoop_no_panic env backend a aies args _ _ _ [] fun entry member =>
    nonNil entry ((order.perm _).subset member)

theorem boxComponents_visit (order : RangeOrder) (entries : List (Σ _ : String, Option Component)) :
    (boxComponents (order.visit entries)).Perm (boxComponents entries) :=
  ((order.perm entries).filterMap _).filter _

/-- Whether `mkBoxes` succeeds does not depend on the visiting order, and its boxes
are the same up to order. -/
theorem mkBoxes_reorder {order : RangeOrder} {bs : List Box}
    (success : a.mkBoxes env backend aies args order = .ok (.ok bs)) (order' : RangeOrder) :
    ∃ bs', a.mkBoxes env backend aies args order' = .ok (.ok bs') ∧ bs'.Perm bs := by
  rw [mkBoxes_eq_ok_ok] at success
  simp only [mkBoxes_eq_ok_ok]
  obtain ⟨nonNil, made⟩ := success
  obtain ⟨bs', made', perm⟩ := List.perm_comp_forall₂
    ((boxComponents_visit order' _).trans (boxComponents_visit order _).symm) made
  exact ⟨bs', ⟨nonNil, made'⟩, perm⟩

end Boxes

/-! ## Building the carton -/

section Carton

variable {env : Env} {backend : Backend} {order : RangeOrder} {aies ay email : String}

/-- A carton comes only from a non-nil account, a fetched assembly without error
and a successful `mkBoxes`. -/
theorem mkCarton_eq_ok_some {c : Carton} {err : Option GoError}
    (success : mkCarton env backend order aies ay email = .ok (some c, err)) :
    ∃ act a bs, backend.accountGet (newArgs env email "") = .ok (some act) ∧
      get backend (newArgs env email "") ay = .ok (some a, none) ∧
      a.mkBoxes env backend aies { newArgs env email "" with apiKey := act.apiKey, orgId := a.orgId }
        order = .ok (.ok bs) ∧
      c = a.cartonOf env aies { newArgs env email "" with apiKey := act.apiKey, orgId := a.orgId }
        ay bs ∧
      err = none := by
  unfold mkCarton at success
  dsimp only at success
  split at success
  · cases success
  next act account =>
    cases fetched : get backend (newArgs env email "") ay with
    | error p => simp [fetched, bind, Except.bind] at success
    | ok result =>
      obtain ⟨_ | a, _ | e⟩ := result <;> cases act <;>
        simp [fetched, bind, Except.bind, pure, Except.pure, deref] at success
      next act =>
      cases made : a.mkBoxes env backend aies
        { newArgs env email "" with apiKey := act.apiKey, orgId := a.orgId } order with
      | error p => simp [made] at success
      | ok r =>
        rcases r with e | bs <;> simp [made, pure, Except.pure] at success
        exact ⟨act, a, bs, account, rfl, made, success.1.symm, success.2.symm⟩

theorem mkCarton_of_boxes {act : Account} {a : Assembly} {bs : List Box}
    (account : backend.accountGet (newArgs env email "") = .ok (some act))
    (fetched : get backend (newArgs env email "") ay = .ok (some a, none))
    (made : a.mkBoxes env backend aies
      { newArgs env email "" with apiKey := act.apiKey, orgId := a.orgId } order = .ok (.ok bs)) :
    mkCarton env backend order aies ay email = .ok (some (a.cartonOf env aies
      { newArgs env email "" with apiKey := act.apiKey, orgId := a.orgId } ay bs), none) := by
  simp [mkCarton, account, fetched, made, bind, Except.bind, pure, Except.pure]

/-- A nil carton always comes with a non-nil error. -/
theorem mkCarton_error_of_none {err : Option GoError}
    (returned : mkCarton env backend order aies ay email = .ok (none, err)) : err.isSome := by
  unfold mkCarton at returned
  dsimp only at returned
  split at returned
  · simp [pure, Except.pure] at returned
    simp [← returned]
  next act _ =>
    cases fetched : get backend (newArgs env email "") ay with
    | error p => simp [fetched, bind, Except.bind] at returned
    | ok result =>
      obtain ⟨a?, _ | e⟩ := result
      · cases act with
        | none => simp [fetched, bind, Except.bind, deref] at returned
        | some act =>
          cases a? with
          | none => simp [fetched, bind, Except.bind, deref] at returned
          | some a =>
            cases made : a.mkBoxes env backend aies
              { newArgs env email "" with apiKey := act.apiKey, orgId := a.orgId } order with
            | error p => simp [fetched, bind, Except.bind, made] at returned
            | ok r =>
              rcases r with e | bs <;>
                simp [fetched, bind, Except.bind, made, pure, Except.pure] at returned
              simp [← returned]
      · simp [fetched, bind, Except.bind, pure, Except.pure] at returned
        simp [← returned]

/-- With non-nil lookups, `mkCarton` panics exactly when the account lookup succeeds
and the assembly response decodes to an empty result list. -/
theorem mkCarton_eq_error (nonNil : backend.NonNil) (p : Panic) :
    mkCarton env backend order aies ay email = .error p ↔
      p = .indexOutOfRange ∧ (∃ act, backend.accountGet (newArgs env email "") = .ok act) ∧
        ∃ ac, fetchApiAssembly backend (newArgs env email "") ay = .ok ac ∧ ac.results = [] := by
  unfold mkCarton
  dsimp only
  cases account : backend.accountGet (newArgs env email "") with
  | error e => simp [pure, Except.pure]
  | ok act =>
    cases fetched : get backend (newArgs env email "") ay with
    | error p' =>
      obtain ⟨rfl, empty⟩ := (get_eq_error backend _ ay p').mp fetched
      simp only [bind, Except.bind, Except.error.injEq]
      exact ⟨fun h => ⟨h.symm, ⟨act, rfl⟩, empty⟩, fun h => h.1.symm⟩
    | ok result =>
      have no_empty : ¬ ∃ ac, fetchApiAssembly backend (newArgs env email "") ay = .ok ac ∧
          ac.results = [] := fun empty => by
        simpa [fetched] using (get_eq_error backend _ ay .indexOutOfRange).mpr ⟨rfl, empty⟩
      obtain ⟨returned, components⟩ := get_eq_ok nonNil fetched
      simp only [no_empty, and_false, iff_false]
      obtain ⟨a?, _ | e⟩ := result
      · obtain ⟨a, rfl⟩ := Option.isSome_iff_exists.mp (returned rfl)
        obtain ⟨act, rfl⟩ := Option.isSome_iff_exists.mp (nonNil.account _ _ account)
        obtain ⟨r, made⟩ := mkBoxes_no_panic env backend aies
          { newArgs env email "" with apiKey := act.apiKey, orgId := a.orgId } order (components a rfl)
        rcases r with e | bs <;> simp [bind, Except.bind, made, pure, Except.pure]
      · simp [bind, Except.bind, pure, Except.pure]

end Carton

/-- What a box must be, against the carton it belongs to and the `mkBox` result
`raw` it was made from. -/
structure BoxOf (c : Carton) (raw b : Box) : Prop where
  cartonsId : b.cartonsId = c.cartonsId
  cartonName : b.cartonName = c.name
  accountId : b.accountId = c.accountId
  orgId : b.orgId = c.orgId
  apiArgs : b.apiArgs = c.apiArgs
  compute : b.compute = c.compute
  ssh : b.ssh = c.ssh
  region : b.region = c.region
  vnets : b.vnets = c.vnets
  vmId : b.vmId = c.vmId
  storageType : b.storageType = c.storageType
  status : b.status = c.status
  state : b.state = c.state
  provider : b.provider =
    if (trimSpace raw.provider).utf8ByteSize ≤ 0 then c.provider else raw.provider
  publicIp : b.publicIp =
    if (trimSpace raw.publicIp).utf8ByteSize ≤ 0 then c.publicIp else raw.publicIp

/-- The writes of the loop body, as one record update. -/
theorem fillBox_eq (env : Env) (a : Assembly) (aies : String) (args : ApiArgs) (vnet : StringMap)
    (vmid : String) (comp : Component) (b : Box) :
    a.fillBox env aies args vnet vmid comp b =
      { b with
        cartonId := a.id, cartonsId := aies, cartonName := a.name, accountId := a.accountId,
        orgId := a.orgId, apiArgs := args, storageType := a.storageType env,
        provider := if (trimSpace b.provider).utf8ByteSize ≤ 0 then a.provider env else b.provider,
        publicIp := if (trimSpace b.publicIp).utf8ByteSize ≤ 0 then a.publicIp env else b.publicIp,
        repo := if env.repoIsEnabled b.repo then
            { b.repo with hook := { b.repo.hook with cartonId := a.id, boxId := comp.id } }
          else b.repo,
        compute := a.newCompute env, ssh := a.newSSH env, region := a.region env,
        status := a.status, state := a.state, vnets := vnet, vmId := vmid } := by
  unfold Assembly.fillBox
  dsimp only
  split_ifs <;> rfl

/-- The loop body fills each box from the same getters `cartonOf` reads. -/
theorem fillBox_boxOf (env : Env) (a : Assembly) (aies ay : String) (args : ApiArgs)
    (comp : Component) (raw : Box) (bs : List Box) :
    BoxOf (a.cartonOf env aies args ay bs) raw
      (a.fillBox env aies args (a.vnets env) (a.vmId env) comp raw) := by
  rw [fillBox_eq]
  constructor <;> rfl

/-- A configuration whose `JsonPairs.Match` returns the first value of the key. -/
def sampleEnv : Env where
  provider := "provider"
  ipv4pub := "ipv4public"
  ipv4pri := "ipv4private"
  ipv6pub := "ipv6public"
  ipv6pri := "ipv6private"
  publicipv4 := "publicipv4"
  domain := "domain"
  imageVersion := "version"
  snapshotname := "snapshotname"
  storageType := "storage_type"
  cpu := "cpu"
  ram := "ram"
  hdd := "hdd"
  masterKey := "master-key"
  api := "http://localhost:9000/v2"
  user := "root"
  pairsMatch pairs key := (pairs.lookup key).getD ""
  repoIsEnabled _ := false
  toLower := String.toLower

/-- An assembly listing two component ids and one blank id. -/
def sampleAssembly : Assembly where
  id := "ASM001"
  orgId := "ORG001"
  accountId := "owner"
  name := "web"
  tosca := "tosca.torpedo.ubuntu"
  status := "launching"
  state := "parked"
  inputs := [("provider", "one"), ("region", "eu")]
  outputs := []
  componentIds := ["COM001", "COM002", " "]
  components := ∅

/-- Every lookup succeeds; the response decodes to `sampleAssembly`, and `mkBox`
gives the first component a provider of its own and the second none. -/
def sampleBackend : Backend where
  accountGet _ := .ok (some ⟨"api-key"⟩)
  clientGet _ _ := .ok ⟨[]⟩
  readAll response := .ok response.body
  unmarshal _ := .ok ⟨"", [sampleAssembly]⟩
  newComponent cid _ _ := .ok (some ⟨cid⟩)
  mkBox comp _ _ _ := .ok { (default : Box) with
    componentId := comp.id, provider := if comp.id = "COM001" then "docker" else "" }

/-- `range` visiting a map in its stored order. -/
def visitInOrder : RangeOrder := ⟨id, fun _ => List.Perm.refl _⟩

theorem sampleBackend_nonNil : sampleBackend.NonNil where
  account _ _ fetched := by cases fetched; rfl
  component _ _ _ _ fetched := by cases fetched; rfl

/-- A carton built without error holds one box per component of the fetched map
whose trimmed `Id` is longer than one byte, none dropped or duplicated, each made
from its `mkBox` result and agreeing with the carton; any other iteration order of
the map builds the same carton with its boxes permuted. -/
theorem mkCarton_boxes (env : Env) (backend : Backend) (order : RangeOrder) (aies ay email : String)
    (c : Carton) (success : mkCarton env backend order aies ay email = .ok (some c, none)) :
    ∃ a, get backend (newArgs env email "") ay = .ok (some a, none) ∧
      (∃ bs, c.boxes.Perm bs ∧ List.Forall₂ (fun comp b => ∃ raw,
          backend.mkBox comp (a.vnets env) (a.vmId env) c.apiArgs = .ok raw ∧
            b = a.fillBox env aies c.apiArgs (a.vnets env) (a.vmId env) comp raw ∧ BoxOf c raw b)
        (boxComponents a.components.entries) bs) ∧
      ∀ order' : RangeOrder, ∃ c', mkCarton env backend order' aies ay email = .ok (some c', none) ∧
        c'.boxes.Perm c.boxes ∧ { c' with boxes := c.boxes } = c := by
  obtain ⟨act, a, bs, account, fetched, made, rfl, -⟩ := mkCarton_eq_ok_some success
  refine ⟨a, fetched, ?_, fun order' => ?_⟩
  · obtain ⟨bs', made', perm⟩ := List.perm_comp_forall₂ (boxComponents_visit order _).symm
      ((mkBoxes_eq_ok_ok env backend a aies _ order bs).mp made).2
    exact ⟨bs', perm.symm, made'.imp fun {comp b} ⟨raw, mk, filled⟩ =>
      ⟨raw, mk, filled, filled ▸ fillBox_boxOf ..⟩⟩
  · obtain ⟨bs', made', perm⟩ := mkBoxes_reorder env backend a aies _ made order'
    exact ⟨_, mkCarton_of_boxes account fetched made', perm, rfl⟩

theorem mkCarton_boxes_sample :
    ∃ c, mkCarton sampleEnv sampleBackend visitInOrder "ASMS001" "ASM001" "owner" = .ok (some c, none) ∧
      ∃ a, get sampleBackend (newArgs sampleEnv "owner" "") "ASM001" = .ok (some a, none) ∧
        (∃ bs, c.boxes.Perm bs ∧ List.Forall₂ (fun comp b => ∃ raw,
            sampleBackend.mkBox comp (a.vnets sampleEnv) (a.vmId sampleEnv) c.apiArgs = .ok raw ∧
              b = a.fillBox sampleEnv "ASMS001" c.apiArgs (a.vnets sampleEnv) (a.vmId sampleEnv) comp raw ∧
              BoxOf c raw b)
          (boxComponents a.components.entries) bs) ∧
        ∀ order' : RangeOrder, ∃ c',
          mkCarton sampleEnv sampleBackend order' "ASMS001" "ASM001" "owner" = .ok (some c', none) ∧
            c'.boxes.Perm c.boxes ∧ { c' with boxes := c.boxes } = c :=
  ⟨_, rfl, mkCarton_boxes sampleEnv sampleBackend visitInOrder "ASMS001" "ASM001" "owner" _ rfl⟩

/-! ## What `NewAssembly` and `NewCarton` end in -/

/-- With lookups that never answer a nil value with a nil error, `NewAssembly` and
`NewCarton` panic exactly when the response decodes to an empty result list (for
`NewCarton`, once the account lookup succeeded), and otherwise return a value with
a nil error or a non-nil error. -/
theorem hydration_outcomes (env : Env) (backend : Backend) (nonNil : backend.NonNil)
    (order : RangeOrder) (aies id email org : String) :
    (∀ p, newAssembly env backend id email org = .error p ↔ p = .indexOutOfRange ∧
      ∃ ac, fetchApiAssembly backend (newArgs env email org) id = .ok ac ∧ ac.results = []) ∧
    (∀ a err, newAssembly env backend id email org = .ok (a, err) → err = none → a.isSome) ∧
    (∀ p, newCarton env backend order aies id email = .error p ↔ p = .indexOutOfRange ∧
      (∃ act, backend.accountGet (newArgs env email "") = .ok act) ∧
      ∃ ac, fetchApiAssembly backend (newArgs env email "") id = .ok ac ∧ ac.results = []) ∧
    (∀ c err, newCarton env backend order aies id email = .ok (c, err) → err = none → c.isSome) := by
  refine ⟨get_eq_error backend _ id, fun a err returned => (get_eq_ok nonNil returned).1,
    mkCarton_eq_error nonNil, fun c err returned => ?_⟩
  rcases c with _ | c
  · rintro rfl
    simpa using mkCarton_error_of_none returned
  · exact fun _ => rfl

theorem hydration_outcomes_sample :
    sampleBackend.NonNil ∧
    (∀ p, newAssembly sampleEnv sampleBackend "ASM001" "owner" "ORG001" = .error p ↔
      p = .indexOutOfRange ∧ ∃ ac, fetchApiAssembly sampleBackend (newArgs sampleEnv "owner" "ORG001")
        "ASM001" = .ok ac ∧ ac.results = []) ∧
    (∀ a err, newAssembly sampleEnv sampleBackend "ASM001" "owner" "ORG001" = .ok (a, err) →
      err = none → a.isSome) ∧
    (∀ p, newCarton sampleEnv sampleBackend visitInOrder "ASMS001" "ASM001" "owner" = .error p ↔
      p = .indexOutOfRange ∧ (∃ act, sampleBackend.accountGet (newArgs sampleEnv "owner" "") = .ok act) ∧
      ∃ ac, fetchApiAssembly sampleBackend (newArgs sampleEnv "owner" "") "ASM001" = .ok ac ∧
        ac.results = []) ∧
    (∀ c err, newCarton sampleEnv sampleBackend visitInOrder "ASMS001" "ASM001" "owner" = .ok (c, err) →
      err = none → c.isSome) :=
  ⟨sampleBackend_nonNil, hydration_outcomes sampleEnv sampleBackend sampleBackend_nonNil visitInOrder
    "ASMS001" "ASM001" "owner" "ORG001"⟩

/-- `sampleBackend`, with the response decoding to an empty result list. -/
def emptyResultsBackend : Backend := { sampleBackend with unmarshal := fun _ => .ok ⟨"", []⟩ }

/-- The lookups return values whenever their error is nil, and the response decodes to
`ApiAssembly{Results: []}`: both entry points panic at `ac.Results[0]`. -/
theorem empty_results_panic (env : Env) (order : RangeOrder) :
    emptyResultsBackend.NonNil ∧
    newAssembly env emptyResultsBackend "ASM001" "owner" "ORG001" = .error .indexOutOfRange ∧
    newCarton env emptyResultsBackend order "ASMS001" "ASM001" "owner" = .error .indexOutOfRange :=
  ⟨⟨fun _ _ fetched => by cases fetched; rfl, fun _ _ _ _ fetched => by cases fetched; rfl⟩,
    rfl, rfl⟩

end Vertice.Carton
