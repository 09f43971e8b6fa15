import ClusterHarness.Fixture.Stage
import ClusterHarness.Plan.Commands

/-!
# The course of a fixture run

What a run does is fixed by its plan before it starts: a list of steps, which a run takes in order
up to the first that fails. Servers and clients run between the two groups of admin commands, and
every process in the background has a step that starts it and a later one that reaps it.
-/

namespace ClusterHarness

namespace Fixture

/-- One step of a run. -/
inductive Step where
  /-- Empty the persistent directories. -/
  | clean
  /-- Go on to a stage. -/
  | enter (stage : Stage)
  /-- Start the registry or the node and hold it to its contract. -/
  | start (kind : ServiceRole) (command : CommandLine) (contract : Readiness)
  /-- Carry out an admin command, which must succeed. -/
  | admin (command : Admin.Operation)
  /-- Start a server of the scenario and hold it to its contract. -/
  | server (step : ServerPlan)
  /-- Run a client of the scenario to its end. -/
  | client (step : ClientPlan)
  /-- Wait for the end of the process of a kind that was started first. -/
  | reap (kind : ServiceRole)
deriving DecidableEq, Repr, Inhabited

end Fixture

namespace Plan

open Fixture

/-- The admin commands of a plan with the paths that they are carried out with. -/
def adminSteps (p : Plan) (commands : List Admin.Operation) : List Step :=
  commands.map fun command => .admin (command.resolve p.testDir)

/-- The steps of a run at a stage. -/
def stageSteps (p : Plan) : Stage → List Step
  | .clean => [.clean]
  | .registryStarting => [.start .registry p.registryLine (p.registry.contract .registry)]
  | .nodeStarting => p.node.toList.map fun node =>
    .start .node (p.nodeLine node) (node.service.contract .node)
  | .provisioning => p.adminSteps p.provision
  | .clientServerRunning =>
    p.servers.map .server ++ p.clients.map .client ++ p.servers.map fun _ => .reap .server
  | .deprovisioning => p.adminSteps p.deprovision
  | .nodeStopping => p.node.toList.flatMap fun node =>
    [.admin (.nodeShutdown node.name), .reap .node]
  | .registryStopping => [.admin .shutdown, .reap .registry]
  | .registryReady | .nodeReady | .done => []

/-- All steps of a run. A run is at its first stage from the beginning. Models the body of
`FixtureContext.drive`. -/
def course (p : Plan) : List Step :=
  p.stageSteps .clean ++
    (Stage.lifecycle p.node.isSome).tail.flatMap fun stage => .enter stage :: p.stageSteps stage

end Plan
end ClusterHarness
