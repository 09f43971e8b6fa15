import ClusterHarness.Admin.Tool
import ClusterHarness.Failure
import ClusterHarness.Host
import ClusterHarness.Subprocess

/-!
# Running admin operations

An admin runner carries out one operation against the cluster at a locator. The real one runs the
admin tool of the plan; its output is shown line by line under a label of its own.
-/

namespace ClusterHarness.Admin

variable {σ : Type}

/-- What an operation ended with, and all that it wrote. Models `AdminOutput`. -/
structure Output where
  exitCode : Int
  text : String
deriving DecidableEq, Repr, Inhabited

namespace Output

def success (o : Output) : Bool := o.exitCode == 0

end Output

/-- What carries out operations, given the locator of the cluster. Models `AdminRunner`. -/
abbrev Runner (σ : Type) := String → Operation → σ → Except Failure Output × σ

/-- The label of everything that the admin tool writes. -/
def label : String := "admin"

/-- Show the lines of a text under a label. -/
def emitLines (h : Host σ) (text : List Char) (s : σ) : σ :=
  (Text.lines text).foldl (fun s line => h.emit label (String.ofList line) s) s

/-- Run the admin tool. The errors that it writes follow its output. Models
`AdminClient.execute`. -/
def viaTool (h : Host σ) (tool : Tool) (site : Site) : Runner σ :=
  fun locator operation s =>
    let line := tool.invocation locator operation
    match line.validate with
    | .error e => (.error (.badCommandLine e), s)
    | .ok () =>
      let l : Launch := {
        program := line.program
        args := line.args
        directory := site.directory
        env := site.env }
      match h.capture l s with
      | (.error e, s) => (.error (.notStarted label e.message), s)
      | (.ok c, s) =>
        let text := Text.decodeLossy c.output ++ Text.decodeLossy c.errors
        (.ok ⟨c.status.exitCode, String.ofList text⟩, emitLines h text s)

/-- Carry out an operation that must succeed. Models `AdminRunner.execute_checked`. -/
def checked (run : Runner σ) : Runner σ :=
  fun locator operation s =>
    match run locator operation s with
    | (.error e, s) => (.error e, s)
    | (.ok o, s) =>
      if o.success then (.ok o, s)
      else (.error (.adminFailed operation.verb o.exitCode o.text), s)

end ClusterHarness.Admin
