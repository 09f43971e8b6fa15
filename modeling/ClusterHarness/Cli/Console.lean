import ClusterHarness.Cli.Run
import ClusterHarness.Machine.Hosting

/-!
# The program on a machine

The whole program as it is seen from outside: from its arguments to its exit status and to what it
writes to its standard output and error.
-/

namespace ClusterHarness.Cli

/-- What a run of the program leaves behind. -/
structure Console where
  status : Nat
  output : Bytes := []
  errors : Bytes := []
deriving Repr, Inhabited

/-- The line that names the program and its version. -/
def versionLine : String := "stagehand 0.1.0\n"

/-- The environment variable that may name the manifest of a suite. -/
def manifestVariable : String := "STAGEHAND_SUITE"

/-- What is answered to arguments that name no command. -/
def refuse (e : UsageError) : Console :=
  match e with
  | .displayVersion => { status := 0, output := Text.toBytes versionLine }
  | .displayHelp => { status := 0, output := Text.toBytes "Usage: stagehand <COMMAND>\n" }
  | e => { status := statusByte e.exitCode, errors := Text.toBytes "error: invalid arguments\n" }

/-- A line of output under its label. -/
def shownLine (l : Machine.Shown) : String := s!"{l.label}: {l.text}\n"

/-- Run the program on a machine. A suite that nothing ends has no outcome. -/
def console (args : List String) (m : Machine) : Option Console × Machine :=
  match parse args (m.vars.lookup manifestVariable) with
  | .error e => (some (refuse e), m)
  | .ok i =>
    let (o, m) := run Machine.host i m
    (o.map fun o =>
      { status := o.exitStatus
        output := Text.toBytes (String.join (m.shown.map shownLine)) ++
          Outcome.transcript o.notices o.written ++ Text.toBytes o.summary
        errors := o.errors }, m)

end ClusterHarness.Cli
