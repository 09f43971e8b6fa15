import ClusterHarness.Admin.Runner
import ClusterHarness.Fixture.Cleaning
import ClusterHarness.Fixture.Course
import ClusterHarness.Fixture.Report
import ClusterHarness.Subprocess.Handshake

/-!
# Running a fixture

A run follows the course of its plan: it brings up the registry and the node, provisions the
cluster, runs the servers and clients of the scenario, and takes everything down again. Every
process in the background stands on the kill list until it is reaped; after a failure the list is
killed from its end.
-/

namespace ClusterHarness.Fixture

variable {σ : Type}

/-- A process in the background. Models `Started`. -/
structure Service where
  kind : ServiceRole
  process : Subprocess
  /-- Whether the output of the process is drained. -/
  drained : Bool
deriving DecidableEq, Repr, Inhabited

/-- How far a run has come. Models the changing part of a `FixtureContext`. -/
structure Progress (σ : Type) where
  world : σ
  stage : Stage := .clean
  history : List Stage := [.clean]
  /-- The kill list, in the order of launch. -/
  background : List Service := []

/-- A step of a run, which may fail. What it did before it failed stays done. -/
abbrev Run (σ : Type) := ExceptT Failure (StateM (Progress σ))

/-- What a run works with: its host, the runner of its admin commands, and its plan. Models the
fixed part of a `FixtureContext`. -/
structure Setup (σ : Type) where
  host : Host σ
  admin : Admin.Runner σ
  plan : Plan

namespace Run

/-- Change the world. -/
def onWorld {α : Type} (f : σ → α × σ) : Run σ α := do
  let p ← get
  let (a, world) := f p.world
  set { p with world }
  return a

/-- Change the world by a step that may fail. -/
def tryOnWorld {α : Type} (f : σ → Except Failure α × σ) : Run σ α := do
  match ← onWorld f with
  | .ok a => return a
  | .error e => throw e

/-- Go on to a stage. Models `FixtureContext.enter`. -/
def enter (stage : Stage) : Run σ Unit :=
  modify fun p => { p with stage, history := p.history ++ [stage] }

/-- Put a process on the kill list. -/
def keep (service : Service) : Run σ Unit :=
  modify fun p => { p with background := p.background ++ [service] }

/-- Take the first process of a kind off the kill list. -/
def release (kind : ServiceRole) : Run σ (Option Service) := do
  let p ← get
  match p.background.find? (·.kind == kind) with
  | none => return none
  | some service =>
    set { p with background := p.background.eraseP (·.kind == kind) }
    return some service

end Run

namespace Setup

variable (c : Setup σ)

/-- Where the processes of a plan run, and with which variables. -/
def siteOf (plan : Plan) : Site where
  directory := some plan.testDir
  env := plan.expandedEnv.entries

def site : Site := siteOf c.plan

/-- Start a service and hold it to its contract. It goes onto the kill list whether it comes up or
not; its output is drained from where the handshake ended. Models `FixtureContext.start_service`. -/
def bringUp (kind : ServiceRole) (label : String) (command : CommandLine)
    (contract : Readiness) : Run σ Unit := do
  let process ← Run.onWorld (Subprocess.launch c.host c.site label command)
  let (result, process) ← Run.onWorld fun s =>
    let (r, p, s) := process.handshake c.host c.plan.harness.lineTimeout contract s
    ((r, p), s)
  match result, process.child with
  | .ok _, some child =>
    Run.onWorld fun s => ((), c.host.drainOutput child label s)
    Run.keep ⟨kind, process.takeOutput, true⟩
  | .ok _, none => Run.keep ⟨kind, process, false⟩
  | .error e, _ =>
    Run.keep ⟨kind, process, false⟩
    throw e

/-- Carry out an admin command, which must succeed. Models `FixtureContext.run_admin`. -/
def carryOut (command : Admin.Operation) : Run σ Unit := do
  let _ ← Run.tryOnWorld (Admin.checked c.admin c.plan.locator command)

/-- The command line of a step, with what the test directory holds now. -/
def stepLine (template : String) : Run σ CommandLine :=
  Run.tryOnWorld fun s => (c.plan.scenarioLine (c.host.isFile · s) template, s)

/-- Start a server of the scenario. Models one turn of `FixtureContext.run_servers`. -/
def startServer (step : ServerPlan) : Run σ Unit := do
  let command ← c.stepLine step.command
  c.bringUp .server step.label command step.readiness

/-- Run a client of the scenario to its end. Models one turn of `FixtureContext.run_clients`, up to
its status. -/
def clientStatus (step : ClientPlan) : Run σ Int := do
  let command ← c.stepLine step.command
  let process ← Run.onWorld (Subprocess.launch c.host c.site step.label command)
  if let some child := process.child then
    Run.onWorld fun s => ((), c.host.drainOutput child step.label s)
  let code ← Run.tryOnWorld fun s =>
    let (r, _, s) := process.takeOutput.wait c.host s
    (r, s)
  if let some child := process.child then
    let _ ← Run.onWorld (c.host.joinOutput child (some c.plan.harness.grace))
  return code

/-- Run a client of the scenario, which must end with status zero. Models one turn of
`FixtureContext.run_clients`. -/
def runClient (step : ClientPlan) : Run σ Unit := do
  let code ← c.clientStatus step
  if code ≠ 0 then throw (.stepFailed step.label code)

/-- Wait until the output of a background process is closed; whether it stayed open for too long.
Models the first half of `FixtureContext.reap`. -/
def hangs (service : Service) (s : σ) : Bool × σ :=
  match service.process.child, service.drained with
  | some child, true =>
    let (e, s) := c.host.joinOutput child (some c.plan.harness.grace) s
    (e == DrainEnd.cancelled, s)
  | _, _ => (false, s)

/-- Wait for a background process to end, and kill it if it does not end in time. Its output is
awaited first. Models `FixtureContext.reap`. -/
def reapProcess (service : Service) (s : σ) : Except Failure Int × σ :=
  let (hung, s) := c.hangs service s
  let (process, s) := if hung then service.process.kill c.host s else (service.process, s)
  process.endWithin c.host c.plan.harness.grace s

/-- Take the first process of a kind off the kill list and reap it. A server must end with status
zero; the registry and the node were told to end, and may end with any status. Models
`FixtureContext.stop_service`, and one turn of `reap_servers`. -/
def reapFirst (kind : ServiceRole) : Run σ Unit := do
  if let some service ← Run.release kind then
    let code ← Run.tryOnWorld (c.reapProcess service)
    if kind = .server ∧ code ≠ 0 then throw (.stepFailed service.process.label code)

/-- Take one step of the course. -/
def take : Step → Run σ Unit
  | .clean => Run.tryOnWorld (emptyDataDirs c.host c.plan)
  | .enter stage => Run.enter stage
  | .start kind command contract => c.bringUp kind kind.name command contract
  | .admin command => c.carryOut command
  | .server step => c.startServer step
  | .client step => c.runClient step
  | .reap kind => c.reapFirst kind

/-- Take steps in order, up to the first that fails. -/
def follow (steps : List Step) : Run σ Unit := steps.forM c.take

/-- The whole course of the plan. Models `FixtureContext.drive`. -/
def attempt : Run σ Unit := c.follow c.plan.course

/-- Kill processes in the order given, and their drains with them. -/
def killAll : List Service → σ → List String × σ
  | [], s => ([], s)
  | service :: rest, s =>
    let (process, s) := service.process.kill c.host s
    let s :=
      match process.child, service.drained with
      | some child, true => (c.host.stopOutput child s).2
      | _, _ => s
    let (labels, s) := killAll rest s
    (process.label :: labels, s)

/-- Kill everything on the kill list, the last launched first. Models `FixtureContext.abort`. -/
def killBackground (p : Progress σ) : List String × Progress σ :=
  let (killed, world) := c.killAll p.background.reverse p.world
  (killed, { p with world, background := [] })

/-- Run a fixture and report. After a failure nothing is left running. Models
`ClusterFixture.run`. -/
def run (s : σ) : Report × σ :=
  match c.attempt.run { world := s } with
  | (.ok (), p) =>
    ({ scenario := c.plan.name, reached := p.stage, history := p.history, exitCode := 0,
       error := none, killed := [] }, p.world)
  | (.error e, p) =>
    let (killed, q) := c.killBackground p
    ({ scenario := c.plan.name, reached := p.stage, history := p.history, exitCode := e.exitCode,
       error := some e.message, killed }, q.world)

end Setup

/-- A fixture whose admin commands are run by the admin tool of its plan. Models
`ClusterFixture.from_plan`. -/
def Setup.ofPlan (host : Host σ) (plan : Plan) : Setup σ where
  host
  plan
  admin := Admin.viaTool host plan.admin (Setup.siteOf plan)

end ClusterHarness.Fixture
