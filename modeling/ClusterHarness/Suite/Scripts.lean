import ClusterHarness.Host
import ClusterHarness.Suite.Run

/-!
# Running test scripts

The executor that runs the script of a test, itself or by its interpreter, in the directory of the
script. A script that cannot be started counts as failed with status 1.
-/

namespace ClusterHarness.Suite

variable {σ : Type}

/-- The process that runs a test. -/
def Test.launch (t : Test) (root : Path) : Launch :=
  let script := (t.scriptFile root).text
  match t.interpreter with
  | some interpreter =>
    { program := interpreter, args := script :: t.args, directory := some (t.directory root) }
  | none => { program := script, args := t.args, directory := some (t.directory root) }

/-- What one execution of a script wrote to its standard output and error. -/
structure Writing where
  output : Bytes := []
  errors : Bytes := []
deriving DecidableEq, Repr, Inhabited

/-- Run the script of a test to its end. What the scripts write is kept beside the state of the
host, one entry for each execution. Models `ScriptExecutor.execute`. -/
def scripts (h : Host σ) : TestRunner (List Writing × σ) :=
  fun t root (written, s) =>
    match h.capture (t.launch root) s with
    | (.ok c, s) => (c.status.exitCode, (written ++ [⟨c.output, c.errors⟩], s))
    | (.error _, s) => (1, (written ++ [{}], s))

end ClusterHarness.Suite
