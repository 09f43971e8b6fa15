/-!
# The stages of a fixture run

A run goes through its stages in the order given here. The stages of the node are left out where
the plan has none.
-/

namespace ClusterHarness.Fixture

/-- A stage of a run. Models `FixtureState`. -/
inductive Stage where
  | clean
  | registryStarting
  | registryReady
  | nodeStarting
  | nodeReady
  | provisioning
  | clientServerRunning
  | deprovisioning
  | nodeStopping
  | registryStopping
  | done
deriving DecidableEq, Repr, Inhabited

namespace Stage

/-- Every stage, in the order of a run. -/
def all : List Stage :=
  [clean, registryStarting, registryReady, nodeStarting, nodeReady, provisioning,
    clientServerRunning, deprovisioning, nodeStopping, registryStopping, done]

def name : Stage → String
  | clean => "clean"
  | registryStarting => "registry-starting"
  | registryReady => "registry-ready"
  | nodeStarting => "node-starting"
  | nodeReady => "node-ready"
  | provisioning => "provisioning"
  | clientServerRunning => "client-server-running"
  | deprovisioning => "deprovisioning"
  | nodeStopping => "node-stopping"
  | registryStopping => "registry-stopping"
  | done => "done"

def ofName? (s : String) : Option Stage := all.find? (·.name = s)

/-- Whether a stage exists only for plans with a node. Models `FixtureState.is_node_state`. -/
def isNodeStage : Stage → Bool
  | nodeStarting | nodeReady | nodeStopping => true
  | _ => false

/-- The stages before this one. -/
def before (s : Stage) : List Stage := all.takeWhile (· ≠ s)

/-- The stages of a run, with or without a node. -/
def lifecycle (hasNode : Bool) : List Stage := all.filter fun s => hasNode || !s.isNodeStage

end Stage
end ClusterHarness.Fixture
