import ClusterHarness.Document.Toml
import ClusterHarness.Document.Fields
import ClusterHarness.Failure

/-!
# Suite manifests

The test scripts of a suite, in the order in which they run, and where their files are.
-/

namespace ClusterHarness.Suite

/-- One test of a suite. Models `TestCase`. -/
structure Test where
  name : String
  script : Path
  args : List String := []
  /-- The program that the script is handed to, if it is not run itself. -/
  interpreter : Option String := none
deriving DecidableEq, Repr, Inhabited

/-- The tests of a suite, with the directory that their scripts are found from. Models
`SuiteManifest`. -/
structure Manifest where
  root : Path := ⟨"."⟩
  tests : List Test := []
deriving DecidableEq, Repr, Inhabited

namespace Test

/-- Where the script of a test is. Models `TestCase.script_path`. -/
def scriptFile (t : Test) (root : Path) : Path := root.join t.script

/-- The directory that a script runs in: its own. Models `TestCase.directory`. -/
def directory (t : Test) (root : Path) : Path := (t.scriptFile root).parent.getD root

def ofDocument? (r : Reading) (d : Document) : Option Test := do
  let [name, script, args, interpreter] ← d.slots r ["name", "script", "args", "interpreter"]
    | none
  return {
    name := ← Document.required Document.asText name
    script := ⟨← Document.required Document.asText script⟩
    args := ← Document.withDefault [] Document.asTexts args
    interpreter := ← Document.optional Document.asText interpreter }

def toDocument (t : Test) : Document :=
  .record [("name", .text t.name), ("script", .text t.script.text), ("args", .texts t.args),
    ("interpreter", .ofOption .text t.interpreter)]

def validate (t : Test) : Except Failure Unit := do
  if t.name.isEmpty then throw (.config .emptyTestName)
  if t.script.text.isEmpty then throw (.config (.noScript t.name))

end Test

namespace Manifest

/-- A suite needs a test, and every test a name and a script. Models `SuiteManifest.validate`. -/
def validate (m : Manifest) : Except Failure Unit := do
  if m.tests.isEmpty then throw (.config .noTests)
  m.tests.forM Test.validate

def ofDocument? (r : Reading) (d : Document) : Option Manifest := do
  let [root, tests] ← d.slots r ["root", "test"] | none
  return {
    root := ⟨← Document.withDefault "." Document.asText root⟩
    tests := ← Document.withDefault [] (Document.asList (Test.ofDocument? r)) tests }

def toDocument (m : Manifest) : Document :=
  .record [("root", .text m.root.text), ("test", .ofList Test.toDocument m.tests)]

/-- A valid manifest from the text of a TOML document. Models `SuiteManifest.from_toml`. -/
def ofToml (text : String) : Except Failure Manifest := do
  match (Toml.read text).bind (ofDocument? .lenient) with
  | none => throw (.config .invalidDocument)
  | some m =>
    m.validate
    return m

/-- A manifest as it is read from the file at `path`, of which `content` is the text. Its root
counts from the directory of the file. Models `SuiteManifest.from_file`. -/
def ofFile (path : Path) (content : Except IoError String) : Except Failure Manifest :=
  match content with
  | .error cause => .error (.config (.unreadable "suite manifest" path cause))
  | .ok text =>
    (ofToml text).map fun m => { m with root := (path.parent.getD ⟨"."⟩).join m.root }

end Manifest
end ClusterHarness.Suite
