import ClusterHarness.Admin.Tool
import ClusterHarness.Environment
import ClusterHarness.Failure
import ClusterHarness.Service

/-!
# Scenario plans

What a plan says about a cluster and the scenario to run in it, when a plan is valid, and how its
paths are resolved against the directory that it was found in.
-/

namespace ClusterHarness

/-- Settings of the harness itself. Models `HarnessSettings`. -/
structure Settings where
  /-- How long each readiness line may take, in seconds. Zero waits for ever. -/
  handshakeTimeoutSecs : Nat := 60
  /-- How long a process may take to end, in seconds. -/
  shutdownGraceSecs : Nat := 10
  locatorIdentity : String := "IcePack/Locator"
  endpointTimeoutMs : Nat := 5000
  traceLevel : Nat := 0
deriving DecidableEq, Repr, Inhabited

/-- A node of the cluster. Models `NodeSpec`. -/
structure NodePlan where
  name : String := "localnode"
  service : ServicePlan
deriving DecidableEq, Repr, Inhabited

/-- A server that the scenario runs. Models `ServerStep`. -/
structure ServerPlan where
  label : String
  command : String
  readiness : Readiness := { adapters := 1 }
deriving DecidableEq, Repr, Inhabited

/-- A client that the scenario runs. Models `ClientStep`. -/
structure ClientPlan where
  label : String
  command : String
deriving DecidableEq, Repr, Inhabited

/-- A cluster and the scenario to run in it. Models `ScenarioPlan`. -/
structure Plan where
  name : String
  testDir : Path
  port : Nat
  harness : Settings := {}
  env : Environment := .empty
  admin : Admin.Tool
  registry : ServicePlan
  node : Option NodePlan := none
  provision : List Admin.Operation := []
  servers : List ServerPlan := []
  clients : List ClientPlan := []
  deprovision : List Admin.Operation := []
deriving DecidableEq, Repr, Inhabited

namespace Settings

/-- How long each readiness line may take, if that is limited. Models
`HarnessSettings.handshake_timeout`. -/
def lineTimeout (h : Settings) : Option Duration :=
  if h.handshakeTimeoutSecs = 0 then none else some (.ofSeconds h.handshakeTimeoutSecs)

/-- How long a process may take to end. Models `HarnessSettings.shutdown_grace`. -/
def grace (h : Settings) : Duration := .ofSeconds h.shutdownGraceSecs

end Settings

namespace NodePlan

def isNameChar (c : Char) : Bool := c.isAlphanum || c == '-' || c == '_' || c == '.'

/-- The name of a node is not empty and holds ASCII letters, digits, `-`, `_` and `.` only. -/
def hasValidName (n : NodePlan) : Bool := !n.name.isEmpty && n.name.toList.all isNameChar

end NodePlan

namespace Plan

/-- A step needs a label and a command line with at least one word. -/
def validateStep (role label command : String) : Except Failure Unit := do
  if label.isEmpty then throw (.config (.emptyLabel role))
  match CommandLine.parse command with
  | .ok _ => return
  | .error e => throw (.badCommandLine e)

def validateNode (n : NodePlan) : Except Failure Unit := do
  if n.service.binary.isEmpty then throw (.config (.emptyBinary "node"))
  unless n.hasValidName do throw (.config (.nodeName n.name))

/-- Refuse a plan that cannot be run; the first fault is reported. Models
`ScenarioPlan.validate`. -/
def validate (p : Plan) : Except Failure Unit := do
  if p.name.isEmpty then throw (.config .emptyScenarioName)
  if p.port = 0 then throw (.config .zeroPort)
  if p.admin.binary.isEmpty then throw (.config (.emptyBinary "admin"))
  if p.registry.binary.isEmpty then throw (.config (.emptyBinary "registry"))
  p.node.forM validateNode
  p.servers.forM fun s => validateStep "server" s.label s.command
  p.clients.forM fun c => validateStep "client" c.label c.command

/-- A program is looked up by name if it is a single component, and otherwise found from `base`.
Models `resolve_binary`. -/
def resolveProgram (base : Path) (binary : String) : String :=
  let p : Path := ⟨binary⟩
  if p.isAbsolute || p.componentCount == 1 then binary else (base.join p).text

/-- Count the relative paths of a plan from `base`. Models `ScenarioPlan.resolve_relative_to`. -/
def resolve (base : Path) (p : Plan) : Plan :=
  { p with
    testDir := base.join p.testDir
    admin := { p.admin with binary := resolveProgram base p.admin.binary }
    registry := { p.registry with binary := resolveProgram base p.registry.binary }
    node := p.node.map fun n =>
      { n with service := { n.service with binary := resolveProgram base n.service.binary } } }

/-! ## Where a plan keeps its data -/

/-- The directory of all data. Models `ScenarioPlan.db_dir`. -/
def dataRoot (p : Plan) : Path := p.testDir.join ⟨"db"⟩

/-- The directory of the registry. Models `ScenarioPlan.registry_data_dir`. -/
def registryData (p : Plan) : Path := p.dataRoot.join ⟨"registry"⟩

/-- The directory of the node. Models `ScenarioPlan.node_data_dir`. -/
def nodeData (p : Plan) : Path := p.dataRoot.join ⟨"node"⟩

/-- The directories that are emptied before a run. Models `ScenarioPlan.persistent_dirs`. -/
def dataDirs (p : Plan) : List Path :=
  [p.nodeData.join ⟨"servers"⟩, p.nodeData.join ⟨"db"⟩, p.registryData]

end Plan
end ClusterHarness
