import ClusterHarness.CommandLine
import ClusterHarness.Failure
import ClusterHarness.Host

/-!
# Managed processes

The record that the harness keeps of a process that it launched, or failed to launch, and the
operations on it: reading lines, waiting and killing.
-/

namespace ClusterHarness

/-- A process under the care of the harness. Models `ManagedProcess`. -/
structure Subprocess where
  label : String
  /-- Nothing if the process could not be started. -/
  child : Option Child := none
  /-- The process id that the process has printed. -/
  discoveredPid : Option Nat := none
  inputOpen : Bool := false
  /-- Whether lines of the output are still read here. -/
  outputOpen : Bool := false
  errorsDrained : Bool := false
  exitCode : Option Int := none
  spawnError : Option String := none
deriving DecidableEq, Repr, Inhabited

/-- Where and with which variables processes are launched. Models the working directory and the
variables of a `ProcessLauncher`. -/
structure Site where
  directory : Option Path := none
  env : List (String × String) := []
deriving DecidableEq, Repr, Inhabited

namespace Subprocess

variable {σ : Type}

/-- A process that never ran. Models `ManagedProcess.failed`. -/
def failed (label reason : String) : Subprocess := { label, spawnError := some reason }

def errorsLabel (label : String) : String := s!"{label} (stderr)"

/-- How long the errors of a process that has ended are still drained. -/
def errorsGrace : Duration := .ofSeconds 2

/-- Start a process. A command line that may not be launched reaches no host. Models
`ProcessLauncher.launch`. -/
def launch (h : Host σ) (site : Site) (label : String) (command : CommandLine) (s : σ) :
    Subprocess × σ :=
  match command.validate with
  | .error e => (failed label (Failure.badCommandLine e).message, s)
  | .ok () =>
    let l : Launch := {
      program := command.program
      args := command.args
      directory := site.directory
      env := site.env }
    match h.spawn l (errorsLabel label) s with
    | (.error e, s) => (failed label e.message, s)
    | (.ok child, s) =>
      ({ label, child := some child, inputOpen := true, outputOpen := true,
         errorsDrained := true }, s)

/-- The child of a process that was started and whose end was not noticed yet. -/
def running? (p : Subprocess) : Option Child := if p.exitCode.isSome then none else p.child

/-- A process runs from its start until its end was noticed. Models `ManagedProcess.is_running`. -/
def isRunning (p : Subprocess) : Bool := p.running?.isSome

/-- What is known of the end of a process that does not run: its status, or that it never ran. -/
def outcome (p : Subprocess) : Except Failure Int :=
  match p.exitCode with
  | some code => .ok code
  | none => .error (.notStarted p.label (p.spawnError.getD ""))

/-- Give the output away: no lines are read here any more. Models `ManagedProcess.take_stdout`. -/
def takeOutput (p : Subprocess) : Subprocess := { p with outputOpen := false }

/-- The next line of the output. Models `ManagedProcess.read_line`. -/
def readLine (h : Host σ) (timeout : Option Duration) (p : Subprocess) (s : σ) : LineRead × σ :=
  match p.child with
  | some child => if p.outputOpen then h.readLine child timeout s else (.ended, s)
  | none => (.ended, s)

/-- Record the end of a process, whose errors are then drained for a while. -/
def recordEnd (h : Host σ) (child : Child) (status : WaitStatus) (p : Subprocess) (s : σ) :
    Subprocess × σ :=
  let s := if p.errorsDrained then h.joinErrors child errorsGrace s else s
  ({ p with exitCode := some status.exitCode, errorsDrained := false }, s)

/-- Wait for the end of a process. The input is closed first, so that a process which reads it comes
to its end. Models `ManagedProcess.wait`. -/
def wait (h : Host σ) (p : Subprocess) (s : σ) : Except Failure Int × Subprocess × σ :=
  match p.running? with
  | none => (p.outcome, p, s)
  | some child =>
    let (status, s) := h.wait child (h.closeInput child s)
    let (p, s) := { p with inputOpen := false }.recordEnd h child status s
    (p.outcome, p, s)

/-- Wait for the end of a process in the same way, at most for `limit`; nothing if the time runs
out. Models `ManagedProcess.wait` under a timeout. -/
def waitUpTo (h : Host σ) (limit : Duration) (p : Subprocess) (s : σ) :
    Option (Except Failure Int) × Subprocess × σ :=
  match p.running? with
  | none => (some p.outcome, p, s)
  | some child =>
    let p := { p with inputOpen := false }
    match h.waitUpTo child limit (h.closeInput child s) with
    | (none, s) => (none, p, s)
    | (some status, s) =>
      let (p, s) := p.recordEnd h child status s
      (some p.outcome, p, s)

/-- Kill a process that has not ended, and close what is open to it. Models
`ManagedProcess.kill`. -/
def kill (h : Host σ) (p : Subprocess) (s : σ) : Subprocess × σ :=
  match p.child with
  | none => (p, s)
  | some child =>
    let (p, s) :=
      if p.exitCode.isNone then
        let (status, s) := h.kill child s
        ({ p with exitCode := some status.exitCode }, s)
      else (p, s)
    let s := if p.inputOpen then h.closeInput child s else s
    let s := if p.outputOpen then h.dropOutput child s else s
    let s := if p.errorsDrained then h.stopErrors child s else s
    ({ p with inputOpen := false, outputOpen := false, errorsDrained := false }, s)

/-- Wait for the end of a process, and kill it if it does not end in time. Models the end of
`FixtureContext.reap`. -/
def endWithin (h : Host σ) (limit : Duration) (p : Subprocess) (s : σ) : Except Failure Int × σ :=
  match p.waitUpTo h limit s with
  | (some r, _, s) => (r, s)
  | (none, p, s) =>
    let (p, s) := p.kill h s
    let (r, _, s) := p.wait h s
    (r, s)

end Subprocess
end ClusterHarness
