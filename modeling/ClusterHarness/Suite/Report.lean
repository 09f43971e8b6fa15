import ClusterHarness.Document.Fields
import ClusterHarness.Failure

/-!
# Suite reports

What the last pass of a suite did, how many passes there were, and the test that failed, if any.
-/

namespace ClusterHarness.Suite

/-- One execution of a test. Models `TestRecord`. -/
structure Execution where
  name : String
  directory : Path
  iteration : Nat
  exitCode : Int
deriving DecidableEq, Repr, Inhabited

/-- The outcome of a suite: the executions of its last pass. Models `SuiteReport`. -/
structure Report where
  records : List Execution := []
  iterations : Nat := 0
  failure : Option Execution := none
deriving DecidableEq, Repr, Inhabited

namespace Execution

def passed (r : Execution) : Bool := r.exitCode == 0

def ofDocument? (d : Document) : Option Execution := do
  return {
    name := ← (← d.field? "name").asText
    directory := ⟨← (← d.field? "directory").asText⟩
    iteration := ← (← d.field? "iteration").asNat 64
    exitCode := ← (← d.field? "exit_code").asStatus }

def toDocument (r : Execution) : Document :=
  .record [("name", .text r.name), ("directory", .text r.directory.text),
    ("iteration", .ofNat r.iteration), ("exit_code", .int r.exitCode)]

end Execution

namespace Report

/-- The status of the failed test, or zero. Models `SuiteReport.exit_code`. -/
def exitCode (r : Report) : Int := (r.failure.map (·.exitCode)).getD 0

/-- The failure that a suite ended with. Models `SuiteReport.failure_error`. -/
def error? (r : Report) : Option Failure :=
  r.failure.map fun f => .testFailed f.name f.exitCode

def ofDocument? (d : Document) : Option Report := do
  return {
    records := ← (← d.field? "records").asList Execution.ofDocument?
    iterations := ← (← d.field? "iterations").asNat 64
    failure := ← Document.optional Execution.ofDocument? (d.field? "failure") }

def toDocument (r : Report) : Document :=
  .record [("records", .ofList Execution.toDocument r.records),
    ("iterations", .ofNat r.iterations), ("failure", .ofOption Execution.toDocument r.failure)]

end Report
end ClusterHarness.Suite
