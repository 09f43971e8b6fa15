import ClusterHarness.Suite.Manifest
import ClusterHarness.Suite.Report

/-!
# Running a suite

A pass runs the tests in order and stops at the first that fails. A suite runs one pass, or passes
one after the other until a test fails or a limit is reached. Every pass and every test is
announced by a notice; notices of repeated passes carry the number of the pass.
-/

namespace ClusterHarness.Suite

variable {σ : Type}

/-- How often the tests are run. Models `RunMode`. -/
inductive Mode where
  | once
  /-- Until a test fails, or `limit` passes are done. -/
  | repeated (limit : Option Nat)
deriving DecidableEq, Repr

/-- What runs one test: its status may depend on everything that happened before. Models
`ScenarioExecutor`. -/
abbrev TestRunner (σ : Type) := Test → Path → σ → Int × σ

/-- What a notice announces. -/
inductive Event where
  | passStarted
  | testStarted (directory : Path)
  | testFailed (directory : Path) (status : Int)
deriving DecidableEq, Repr, Inhabited

/-- An announcement, with the number of its pass if passes are numbered. Models
`SuiteRunner.notice`. -/
structure Notice where
  number : Option Nat
  event : Event
deriving DecidableEq, Repr, Inhabited

namespace Event

def text : Event → String
  | passStarted => "*** starting pass"
  | testStarted directory => s!"*** running tests in {directory.text}"
  | testFailed directory status => s!"test in {directory.text} failed with exit status {status}"

end Event

namespace Notice

def text (n : Notice) : String :=
  match n.number with
  | none => n.event.text
  | some i => s!"[{i}] {n.event.text}"

end Notice

/-- What one or more passes did, and what they announced. -/
structure Outcome where
  report : Report
  notices : List Notice
deriving DecidableEq, Repr, Inhabited

/-- Run tests in order, as pass number `iteration`, up to the first failure. Models the loop of
`SuiteRunner.pass`. -/
def runTests (execute : TestRunner σ) (root : Path) (iteration : Nat) (number : Option Nat) :
    List Test → σ → Outcome × σ
  | [], s => (⟨{ iterations := iteration }, []⟩, s)
  | t :: ts, s =>
    let directory := t.directory root
    let announced : Notice := ⟨number, .testStarted directory⟩
    let (status, s) := execute t root s
    let record : Execution := { name := t.name, directory, iteration, exitCode := status }
    if record.passed then
      let (rest, s) := runTests execute root iteration number ts s
      (⟨{ rest.report with records := record :: rest.report.records },
        announced :: rest.notices⟩, s)
    else
      (⟨{ records := [record], iterations := iteration, failure := some record },
        [announced, ⟨number, .testFailed directory status⟩]⟩, s)

/-- One pass over the tests of a suite. Models `SuiteRunner.pass`. -/
def pass (execute : TestRunner σ) (m : Manifest) (iteration : Nat) (number : Option Nat) (s : σ) :
    Outcome × σ :=
  runTests execute m.root iteration number m.tests s

/-- Numbered passes from `iteration` on: at least one, and up to `more` after it. Models the loop of
`SuiteRunner.run`. -/
def passes (execute : TestRunner σ) (m : Manifest) : Nat → Nat → σ → Outcome × σ
  | more, iteration, s =>
    let (o, s) := pass execute m iteration (some iteration) s
    let o := { o with notices := ⟨some iteration, .passStarted⟩ :: o.notices }
    match more with
    | 0 => (o, s)
    | more + 1 =>
      if o.report.failure.isSome then (o, s)
      else
        let (rest, s) := passes execute m more (iteration + 1) s
        ({ rest with notices := o.notices ++ rest.notices }, s)

/-- Run a suite. Without a limit the run ends only when a test fails; if none of the first
`patience + 1` passes fails, there is no outcome yet. Models `SuiteRunner.run`. -/
def run (execute : TestRunner σ) (m : Manifest) (mode : Mode) (patience : Nat) (s : σ) :
    Option Outcome × σ :=
  match mode with
  | .once =>
    let (o, s) := pass execute m 1 none s
    (some o, s)
  | .repeated (some limit) =>
    let (o, s) := passes execute m (limit - 1) 1 s
    (some o, s)
  | .repeated none =>
    let (o, s) := passes execute m patience 1 s
    (if o.report.failure.isSome then some o else none, s)

end ClusterHarness.Suite
