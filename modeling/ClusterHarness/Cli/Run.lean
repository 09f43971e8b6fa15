import ClusterHarness.Cli.Arguments
import ClusterHarness.Fixture.Run
import ClusterHarness.Plan.Reading
import ClusterHarness.Suite.Scripts

/-!
# Running a command

A command loads its manifest or plan, runs it on a host, and prints a summary of the report. Its
status is that of the report, or of the failure that kept it from having one: a failure of the
harness, or one of its own output.
-/

namespace ClusterHarness.Cli

/-! ## Failures -/

/-- What ends a command without a report. Models `CliError`. -/
inductive CommandError where
  | harness (e : Failure)
  | format (text : String)
  | io (cause : IoError)
deriving DecidableEq, Repr

namespace CommandError

def message : CommandError → String
  | harness e => e.message
  | format text => s!"format error: {text}"
  | io cause => s!"IO error: {cause.message}"

def exitCode : CommandError → Int
  | harness e => e.exitCode
  | _ => 1

/-- The text of the failure behind this one. -/
def source? : CommandError → Option String
  | harness e => some e.message
  | format _ => none
  | io cause => some cause.message

end CommandError
/-! ## Commands -/

variable {σ : Type}

/-- What a command announced, printed and ended with. -/
structure Outcome where
  status : Except CommandError Int
  notices : List Suite.Notice := []
  /-- What the scripts of a suite wrote, one entry for each execution. -/
  written : List Suite.Writing := []
  summary : String := ""

/-- How many passes a suite without a limit may take. -/
def patience : Nat := 100000

/-- Run the suite of a manifest. There is no outcome yet if no pass fails in time. Models
`SuiteCommand.execute`. -/
def runSuite (h : Host σ) (format : Summary.Format) (repeated : Bool) (path : Path) (s : σ) :
    Option Outcome × σ :=
  match Suite.Manifest.ofFile path (h.readText path s) with
  | .error e => (some { status := .error (.harness e) }, s)
  | .ok m =>
    let mode : Suite.Mode := if repeated then .repeated none else .once
    let (o, (written, s)) := Suite.run (Suite.scripts h) m mode patience ([], s)
    (o.map fun o =>
      { status := .ok o.report.exitCode, notices := o.notices, written
        summary := Summary.suite format o.report }, s)

/-- Run the fixture of a plan. Models `FixtureCommand.execute`. -/
def runFixture (h : Host σ) (format : Summary.Format) (path : Path) (s : σ) : Outcome × σ :=
  match Plan.ofFile path (h.readText path s) with
  | .error e => ({ status := .error (.harness e) }, s)
  | .ok plan =>
    let (r, s) := (Fixture.Setup.ofPlan h plan).run s
    ({ status := .ok r.exitCode, summary := Summary.fixture format r }, s)

/-- Carry out a command. -/
def run (h : Host σ) (i : Invocation) (s : σ) : Option Outcome × σ :=
  match i.command with
  | .suite repeated path => runSuite h i.format repeated path s
  | .fixture path =>
    let (o, s) := runFixture h i.format path s
    (some o, s)

/-- The status as one byte; what does not fit a byte is a plain failure. Models `exit_code`. -/
def statusByte (status : Int) : Nat :=
  if 0 ≤ status ∧ status ≤ 255 then status.toNat else 1

namespace Outcome

/-- The status of the whole program. -/
def exitStatus (o : Outcome) : Nat :=
  match o.status with
  | .ok status => statusByte status
  | .error e => statusByte e.exitCode

/-- The text of a failure. -/
def complaint (o : Outcome) : String :=
  match o.status with
  | .ok _ => ""
  | .error e => s!"Error: {e.message}\n"

/-- What goes to standard error: what the scripts wrote there, and the failure. -/
def errors (o : Outcome) : Bytes :=
  o.written.flatMap (·.errors) ++ Text.toBytes o.complaint

/-- Notices, with what each script wrote behind the notice that announced it. -/
def transcript : List Suite.Notice → List Suite.Writing → Bytes
  | [], written => written.flatMap (·.output)
  | n :: ns, written =>
    let line := Text.toBytes (n.text ++ "\n")
    match n.event with
    | .testStarted _ => line ++ (written.headD {}).output ++ transcript ns written.tail
    | _ => line ++ transcript ns written

end Outcome
end ClusterHarness.Cli
