import Mathlib.Data.List.AList
import Vertice.Go
import Vertice.Carton.ReqParser

/-!
# Assembly hydration and carton building: `carton/assembly.go`

`get` fetches `/assembly/<id>`, decodes an `ApiAssembly`, takes `Results[0]` and
`dig`s its components; `mkCarton` fetches the account and the assembly, makes one
box per component with `mkBoxes`, and fills the carton from the assembly's
getters. Everything these functions call outside the file is a parameter:
`Backend` holds the lookups (account, REST client, body read, JSON decoding,
`NewComponent`, `Component.mkBox`), `Env` the constants of other packages, the
`meta.MC` configuration, `JsonPairs.Match`, `Repo.IsEnabled` and `strings.ToLower`.

`range` over a Go map visits its entries in an order the runtime picks;
`RangeOrder` is any such choice, a reordering of the map's entries.

The types keep the fields these functions read or write. The writes
(`updateAsm`, `SetStatus`, `SetState`, `trigger_event`, `NukeAndSetOutputs`,
`Delete`) are modelled in `Vertice.Carton.Persistence`. Not modelled: `String`,
`DoneNotify`, and the getters no modelled function calls (`vncHost`, `vncPort`,
`QuotaID`).
-/

-- The package's carton type is `carton.Carton`, as in the source.
set_option linter.dupNamespace false

namespace Vertice.Carton

/-! ## Data -/

def sshkey : String := "sshkey"
def vmid : String := "vmid"
def yes : String := "yes"
def region : String := "region"

/-- `pairs.JsonPairs`: key/value pairs. -/
abbrev JsonPairs := List (String × String)

/-- A Go `map[string]string`. -/
abbrev StringMap := AList fun _ : String => String

/-- `api.ApiArgs`. -/
structure ApiArgs where
  masterKey : String
  url : String
  email : String
  orgId : String
  apiKey : String
  deriving DecidableEq, Repr, Inhabited

structure Account where
  apiKey : String
  deriving DecidableEq, Repr, Inhabited

/-- `Component`: `dig` and `mkBoxes` read its `Id`; `mkBox` (a parameter) reads the rest. -/
structure Component where
  id : String
  deriving DecidableEq, Repr, Inhabited

structure Hook where
  cartonId : String
  boxId : String
  deriving DecidableEq, Repr, Inhabited

/-- `provision.Repo`: its hook, and the settings only `IsEnabled` reads. -/
structure Repo where
  hook : Hook
  settings : String
  deriving DecidableEq, Repr, Inhabited

structure BoxCompute where
  cpushare : String
  memory : String
  swap : String
  hdd : String
  deriving DecidableEq, Repr, Inhabited

/-- `provision.BoxSSH`; `prefixKey` is its `Prefix` field. -/
structure BoxSSH where
  user : String
  prefixKey : String
  deriving DecidableEq, Repr, Inhabited

/-- What `assembly.go` takes from other packages: key constants, the `meta.MC`
configuration, `JsonPairs.Match`, `Repo.IsEnabled`, and `strings.ToLower`, which
maps every Unicode letter to lower case. -/
structure Env where
  provider : String
  ipv4pub : String
  ipv4pri : String
  ipv6pub : String
  ipv6pri : String
  publicipv4 : String
  domain : String
  imageVersion : String
  snapshotname : String
  storageType : String
  cpu : String
  ram : String
  hdd : String
  masterKey : String
  api : String
  user : String
  pairsMatch : JsonPairs → String → String
  repoIsEnabled : Repo → Bool
  toLower : String → String

/-- `provision.Box`: the fields `mkBoxes` writes or tests, and the `ComponentId`
the provisioning actions read. -/
structure Box where
  componentId : String
  cartonId : String
  cartonsId : String
  cartonName : String
  accountId : String
  orgId : String
  apiArgs : ApiArgs
  storageType : String
  provider : String
  publicIp : String
  repo : Repo
  compute : BoxCompute
  ssh : BoxSSH
  region : String
  status : String
  state : String
  vnets : StringMap
  vmId : String
  deriving DecidableEq, Inhabited

structure Assembly where
  id : String
  orgId : String
  accountId : String
  name : String
  tosca : String
  status : String
  state : String
  inputs : JsonPairs
  outputs : JsonPairs
  componentIds : List String
  components : AList fun _ : String => Option Component

structure ApiAssembly where
  jsonClaz : String
  results : List Assembly

structure Carton where
  id : String
  cartonsId : String
  orgId : String
  name : String
  tosca : String
  accountId : String
  apiArgs : ApiArgs
  imageVersion : String
  domainName : String
  compute : BoxCompute
  ssh : BoxSSH
  provider : String
  publicIp : String
  region : String
  vnets : StringMap
  vmId : String
  snapshot : Bool
  imageName : String
  storageType : String
  boxes : List Box
  status : String
  state : String

/-- The body of an HTTP response. -/
structure Response where
  body : List UInt8

/-- The lookups `assembly.go` makes; a `(*T, error)` result is `Except GoError (Option T)`,
its pointer possibly nil even when the error is. -/
structure Backend where
  accountGet : ApiArgs → Except GoError (Option Account)
  clientGet : ApiArgs → String → Except GoError Response
  readAll : Response → Except GoError (List UInt8)
  unmarshal : List UInt8 → Except GoError ApiAssembly
  newComponent : String → String → String → Except GoError (Option Component)
  mkBox : Component → StringMap → String → ApiArgs → Except GoError Box

/-- The order `range` visits a map's entries in: any reordering of them. -/
structure RangeOrder where
  visit : List (Σ _ : String, Option Component) → List (Σ _ : String, Option Component)
  perm : ∀ entries, (visit entries).Perm entries

/-! ## Getters, assembly.go:341-448 -/

namespace Assembly

def getSwap : String := ""

variable (env : Env) (a : Assembly)

def sshkey : String := env.pairsMatch a.inputs Vertice.Carton.sshkey
def domain : String := env.pairsMatch a.inputs env.domain
def provider : String := env.pairsMatch a.inputs env.provider
def region : String := env.pairsMatch a.inputs Vertice.Carton.region
def ipv4Pub : String := env.pairsMatch a.inputs env.ipv4pub
def ipv4Pri : String := env.pairsMatch a.inputs env.ipv4pri
def ipv6Pri : String := env.pairsMatch a.inputs env.ipv6pri
def ipv6Pub : String := env.pairsMatch a.inputs env.ipv6pub

def vnets : StringMap :=
  ((((∅ : StringMap).insert env.ipv4pub (a.ipv4Pub env)).insert env.ipv4pri (a.ipv4Pri env)).insert
    env.ipv6pub (a.ipv6Pub env)).insert env.ipv6pri (a.ipv6Pri env)

def publicIp : String := env.pairsMatch a.outputs env.publicipv4
def vmId : String := env.pairsMatch a.outputs Vertice.Carton.vmid
def imageVersion : String := env.pairsMatch a.inputs env.imageVersion
def imageName : String := env.pairsMatch a.inputs env.snapshotname
def storageType : String := env.toLower (env.pairsMatch a.inputs env.storageType)
def isSnap : Bool := trimSpace (env.pairsMatch a.inputs snapshot) == yes

def getCpushare : String := env.pairsMatch a.inputs env.cpu
def getMemory : String := env.pairsMatch a.inputs env.ram

/-- The default HDD is 10. -/
def getHDD : String :=
  if (trimSpace (env.pairsMatch a.inputs env.hdd)).utf8ByteSize ≤ 0 then "10"
  else env.pairsMatch a.inputs env.hdd

def newCompute : BoxCompute :=
  { cpushare := a.getCpushare env, memory := a.getMemory env, swap := getSwap,
    hdd := a.getHDD env }

def newSSH : BoxSSH := { user := env.user, prefixKey := a.sshkey env }

end Assembly

def newArgs (env : Env) (email org : String) : ApiArgs :=
  { masterKey := env.masterKey, url := env.api, email := email, orgId := org, apiKey := "" }

/-! ## Fetching an assembly, assembly.go:89-123 -/

namespace Assembly

/-- The loop of `dig` over the listed ids, filling the components map. -/
def digLoop (backend : Backend) (a : Assembly) :
    List String → AList (fun _ : String => Option Component) →
      AList (fun _ : String => Option Component) × Option GoError
  | [], components => (components, none)
  | cid :: rest, components =>
    if (trimSpace cid).utf8ByteSize > 1 then
      match backend.newComponent cid a.accountId a.orgId with
      | .error err => (components, some err)
      | .ok comp => digLoop backend a rest (components.insert cid comp)
    else digLoop backend a rest components

/-- `dig` returns the assembly in both cases, filled as far as the loop got. -/
def dig (backend : Backend) (a : Assembly) : Assembly × Option GoError :=
  let (components, err) := digLoop backend a a.componentIds ∅
  ({ a with components := components }, err)

end Assembly

/-- The request, body read and JSON decoding of `get`, each returning its error. -/
def fetchApiAssembly (backend : Backend) (args : ApiArgs) (ay : String) :
    Except GoError ApiAssembly := do
  let response ← backend.clientGet args ("/assembly/" ++ ay)
  let htmlData ← backend.readAll response
  backend.unmarshal htmlData

/-- `get` takes `ac.Results[0]` without testing the length. -/
def get (backend : Backend) (args : ApiArgs) (ay : String) : Go (Option Assembly × Option GoError) :=
  match fetchApiAssembly backend args ay with
  | .error err => pure (none, some err)
  | .ok ac =>
    match ac.results with
    | [] => throw .indexOutOfRange
    | a :: _ => let (a, err) := a.dig backend; pure (some a, err)

/-! ## Boxes and cartons, assembly.go:150-249 -/

namespace Assembly

variable (env : Env) (backend : Backend) (a : Assembly) (aies : String) (args : ApiArgs)
  (vnet : StringMap) (vmid : String)

/-- The writes of the `mkBoxes` loop body to the box `mkBox` returned for `comp`. -/
def fillBox (comp : Component) (b : Box) : Box :=
  let b := { b with
    cartonId := a.id, cartonsId := aies, cartonName := a.name, accountId := a.accountId,
    orgId := a.orgId, apiArgs := args, storageType := a.storageType env }
  let b := if (trimSpace b.provider).utf8ByteSize ≤ 0 then { b with provider := a.provider env } else b
  let b := if (trimSpace b.publicIp).utf8ByteSize ≤ 0 then { b with publicIp := a.publicIp env } else b
  let b := if env.repoIsEnabled b.repo then
      { b with repo := { b.repo with hook := { b.repo.hook with cartonId := a.id, boxId := comp.id } } }
    else b
  { b with
    compute := a.newCompute env, ssh := a.newSSH env, region := a.region env,
    status := a.status, state := a.state, vnets := vnet, vmId := vmid }

/-- The `mkBoxes` loop over the map entries, in the order `range` visits them;
`comp.Id` dereferences the component pointer. -/
def boxLoop : List (Σ _ : String, Option Component) → List Box → Go (Except GoError (List Box))
  | [], newBoxs => pure (.ok newBoxs)
  | entry :: rest, newBoxs => do
    let comp ← deref entry.2
    if (trimSpace comp.id).utf8ByteSize > 1 then
      match backend.mkBox comp vnet vmid args with
      | .error err => pure (.error err)
      | .ok b => boxLoop rest (newBoxs ++ [a.fillBox env aies args vnet vmid comp b])
    else boxLoop rest newBoxs

def mkBoxes (order : RangeOrder) : Go (Except GoError (List Box)) :=
  let vnet := a.vnets env
  let vmid := a.vmId env
  a.boxLoop env backend aies args vnet vmid (order.visit a.components.entries) []

/-- The `&Carton{...}` literal of `mkCarton`, for assembly id `ay`. -/
def cartonOf (ay : String) (boxes : List Box) : Carton :=
  { id := ay, cartonsId := aies, orgId := a.orgId, name := a.name, tosca := a.tosca,
    accountId := a.accountId, apiArgs := args, imageVersion := a.imageVersion env,
    domainName := a.domain env, compute := a.newCompute env, ssh := a.newSSH env,
    provider := a.provider env, publicIp := a.publicIp env, region := a.region env,
    vnets := a.vnets env, vmId := a.vmId env, snapshot := a.isSnap env,
    imageName := a.imageName env, storageType := a.storageType env, boxes := boxes,
    status := a.status, state := a.state }

end Assembly

/-- `mkCarton`: `act.ApiKey` and `a.OrgId` dereference the two fetched pointers. -/
def mkCarton (env : Env) (backend : Backend) (order : RangeOrder) (aies ay email : String) :
    Go (Option Carton × Option GoError) := do
  let args := newArgs env email ""
  match backend.accountGet args with
  | .error err => pure (none, some err)
  | .ok act =>
    let (a, err) ← get backend args ay
    match err with
    | some err => pure (none, some err)
    | none =>
      let act ← deref act
      let a ← deref a
      let args := { args with apiKey := act.apiKey, orgId := a.orgId }
      match ← a.mkBoxes env backend aies args order with
      | .error err => pure (none, some err)
      | .ok b => pure (some (a.cartonOf env aies args ay b), none)

def newAssembly (env : Env) (backend : Backend) (id email org : String) :
    Go (Option Assembly × Option GoError) :=
  get backend (newArgs env email org) id

def newCarton (env : Env) (backend : Backend) (order : RangeOrder) (aies ay email : String) :
    Go (Option Carton × Option GoError) :=
  mkCarton env backend order aies ay email

end Vertice.Carton
