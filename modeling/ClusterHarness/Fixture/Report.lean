import ClusterHarness.Document.Fields
import ClusterHarness.Fixture.Stage

/-!
# Fixture reports

How far a run came, the status it ended with, its error, and the processes that had to be killed.
-/

namespace ClusterHarness.Fixture

/-- The outcome of a run. Models `FixtureReport`. -/
structure Report where
  scenario : String
  reached : Stage
  history : List Stage
  exitCode : Int
  error : Option String
  killed : List String
deriving DecidableEq, Repr, Inhabited

namespace Report

def success (r : Report) : Bool := r.exitCode == 0

def visited (r : Report) (s : Stage) : Bool := r.history.contains s

def stageOfDocument? (d : Document) : Option Stage := d.asChoice.bind Stage.ofName?

def ofDocument? (d : Document) : Option Report := do
  return {
    scenario := ← (← d.field? "scenario").asText
    reached := ← stageOfDocument? (← d.field? "reached")
    history := ← (← d.field? "history").asList stageOfDocument?
    exitCode := ← (← d.field? "exit_code").asStatus
    error := ← Document.optional Document.asText (d.field? "error")
    killed := ← (← d.field? "killed").asTexts }

def toDocument (r : Report) : Document :=
  .record [("scenario", .text r.scenario), ("reached", .text r.reached.name),
    ("history", .ofList (fun s => .text s.name) r.history), ("exit_code", .int r.exitCode),
    ("error", .ofOption .text r.error), ("killed", .texts r.killed)]

end Report
end ClusterHarness.Fixture
