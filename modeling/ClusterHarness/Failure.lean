import ClusterHarness.CommandLine
import ClusterHarness.Duration
import ClusterHarness.Path
import ClusterHarness.System

/-!
# Failures of the harness

Every way in which a plan or a manifest is refused, a process misbehaves or a run fails, with the
text shown for it and the exit status that the harness ends with.
-/

namespace ClusterHarness

/-- Why a plan or a suite manifest cannot be used. -/
inductive ConfigFault where
  | unreadable (document : String) (path : Path) (cause : IoError)
  /-- The document is no TOML, or a value in it has the wrong type or is missing. -/
  | invalidDocument
  | emptyScenarioName
  | zeroPort
  | emptyBinary (role : String)
  | nodeName (name : String)
  | emptyLabel (role : String)
  | noTests
  | emptyTestName
  | noScript (test : String)
  | other (text : String)
deriving DecidableEq, Repr

namespace ConfigFault

def message : ConfigFault → String
  | unreadable document path cause =>
    s!"failed to read {document} '{path.text}': {cause.message}"
  | invalidDocument => "invalid TOML"
  | emptyScenarioName => "scenario name cannot be empty"
  | zeroPort => "port cannot be 0"
  | emptyBinary role => s!"{role} binary cannot be empty"
  | nodeName name => s!"invalid node name '{name}'"
  | emptyLabel role => s!"{role} label cannot be empty"
  | noTests => "suite has no tests"
  | emptyTestName => "test name cannot be empty"
  | noScript test => s!"test '{test}' has no script"
  | other text => text

end ConfigFault

/-- A failure of the harness. Models `HarnessError`. -/
inductive Failure where
  | notStarted (label reason : String)
  | unexpectedLine (label expected actual : String)
  /-- The output of a process ended while a line was awaited. -/
  | endedEarly (label expected : String)
  | notReadyInTime (label expected : String) (timeout : Duration)
  | adminFailed (verb : String) (status : Int) (output : String)
  | stepFailed (step : String) (status : Int)
  | testFailed (test : String) (status : Int)
  | config (fault : ConfigFault)
  | badCommandLine (fault : CommandLine.Fault)
  | cleanup (path : Path) (cause : IoError)
  | io (cause : IoError)
deriving DecidableEq, Repr

namespace Failure

def message : Failure → String
  | notStarted label reason => s!"failed to spawn '{label}': {reason}"
  | unexpectedLine label expected actual =>
    s!"protocol violation from '{label}': expected {expected}, got {Text.literal actual}"
  | endedEarly label expected =>
    s!"process '{label}' exited early while waiting for {expected}"
  | notReadyInTime label expected timeout =>
    s!"timed out after {timeout.text} waiting for {expected} from '{label}'"
  | adminFailed verb status _ => s!"admin command '{verb}' failed with exit status {status}"
  | stepFailed step status => s!"scenario step '{step}' failed with exit status {status}"
  | testFailed test status => s!"test '{test}' failed with exit status {status}"
  | config fault => s!"configuration error: {fault.message}"
  | badCommandLine fault => s!"invalid command line: {fault.message}"
  | cleanup path cause => s!"failed to clean '{path.text}': {cause.message}"
  | io cause => s!"I/O error: {cause.message}"

/-- The status that stands for a failure with status `status`: never zero. -/
def nonzero (status : Int) : Int := if status = 0 then 1 else status

/-- The exit status of the harness after a failure: the status of the failing child where there is
one. Models `HarnessError.exit_code`. -/
def exitCode : Failure → Int
  | adminFailed _ status _ => nonzero status
  | stepFailed _ status => nonzero status
  | testFailed _ status => nonzero status
  | _ => 1

/-- Whether a process failed to come up. Models `HarnessError.is_readiness_error`. -/
def isReadiness : Failure → Bool
  | notStarted .. | unexpectedLine .. | endedEarly .. | notReadyInTime .. => true
  | _ => false

/-- The failure of a file or a process behind this one. -/
def cause? : Failure → Option IoError
  | cleanup _ cause => some cause
  | io cause => some cause
  | _ => none

end Failure

end ClusterHarness
