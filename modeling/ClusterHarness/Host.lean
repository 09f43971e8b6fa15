import ClusterHarness.Drain
import ClusterHarness.Duration
import ClusterHarness.Path
import ClusterHarness.System

/-!
# The host of the harness

What the harness asks of the machine that it runs on. A host is any state with operations on
children and files: what the children do, print and answer is up to it, so a statement about every
host is a statement about every behaviour of the children.
-/

namespace ClusterHarness

/-- A child process as its host knows it. -/
structure Child where
  id : Nat
deriving DecidableEq, Repr, Inhabited

/-- A process to be started. -/
structure Launch where
  program : String
  args : List String
  /-- The directory that the process changes to before it runs. -/
  directory : Option Path := none
  /-- Variables added to the environment. -/
  env : List (String × String) := []
deriving DecidableEq, Repr, Inhabited

/-- What a read of a line gives. -/
inductive LineRead where
  | line (text : String)
  /-- The output is closed and everything in it was read. -/
  | ended
  | timedOut
  | failed (cause : IoError)
deriving DecidableEq, Repr, Inhabited

/-- A process that ran to its end, with everything that it wrote. -/
structure Captured where
  status : WaitStatus
  output : Bytes
  errors : Bytes
deriving DecidableEq, Repr, Inhabited

/-- The operations of a host with state `σ`. -/
structure Host (σ : Type) where
  /-- Start a child with open pipes. Its standard error is drained under the given label. -/
  spawn : Launch → String → σ → Except IoError Child × σ
  /-- The next line of a child's standard output. -/
  readLine : Child → Option Duration → σ → LineRead × σ
  /-- An upper bound on the lines that children will still print. -/
  linesLeft : σ → Nat
  linesLeft_readLine : ∀ {c t s text s'}, readLine c t s = (.line text, s') →
    linesLeft s' < linesLeft s
  /-- Close the standard input of a child. -/
  closeInput : Child → σ → σ
  /-- Close the reading end of a child's standard output. -/
  dropOutput : Child → σ → σ
  /-- Drain a child's standard output under a label. -/
  drainOutput : Child → String → σ → σ
  /-- Wait until the drain of the output is over; it is cancelled when the time runs out. -/
  joinOutput : Child → Option Duration → σ → DrainEnd × σ
  /-- Cancel the drain of the output. -/
  stopOutput : Child → σ → DrainEnd × σ
  /-- Wait until the drain of the errors is over; it is cancelled when the time runs out. -/
  joinErrors : Child → Duration → σ → σ
  /-- Cancel the drain of the errors. -/
  stopErrors : Child → σ → σ
  /-- Wait for the end of a child. -/
  wait : Child → σ → WaitStatus × σ
  /-- Wait for the end of a child, unless the time runs out first. -/
  waitUpTo : Child → Duration → σ → Option WaitStatus × σ
  /-- Kill a child and wait for its end. A child that has ended keeps its status. -/
  kill : Child → σ → WaitStatus × σ
  /-- Run a process without input to its end and keep what it writes. -/
  capture : Launch → σ → Except IoError Captured × σ
  /-- Show a line of output under a label. -/
  emit : String → String → σ → σ
  readText : Path → σ → Except IoError String
  isFile : Path → σ → Bool
  removeTree : Path → σ → Except IoError Unit × σ
  createDirs : Path → σ → Except IoError Unit × σ

namespace Host

variable {σ τ : Type}

/-- Apply a step to the second part of a state. -/
def onSecond {α : Type} (f : σ → α × σ) (s : τ × σ) : α × (τ × σ) :=
  ((f s.2).1, (s.1, (f s.2).2))

/-- A host whose state carries something beside it, which no operation looks at. -/
def beside (τ : Type) (h : Host σ) : Host (τ × σ) where
  spawn l label := onSecond (h.spawn l label)
  readLine c t := onSecond (h.readLine c t)
  linesLeft s := h.linesLeft s.2
  linesLeft_readLine := by
    intro c t s text s' hr
    obtain ⟨h₁, h₂⟩ := Prod.mk.inj hr
    rw [← h₂]
    exact h.linesLeft_readLine (Prod.ext h₁ rfl)
  closeInput c s := (s.1, h.closeInput c s.2)
  dropOutput c s := (s.1, h.dropOutput c s.2)
  drainOutput c label s := (s.1, h.drainOutput c label s.2)
  joinOutput c t := onSecond (h.joinOutput c t)
  stopOutput c := onSecond (h.stopOutput c)
  joinErrors c t s := (s.1, h.joinErrors c t s.2)
  stopErrors c s := (s.1, h.stopErrors c s.2)
  wait c := onSecond (h.wait c)
  waitUpTo c t := onSecond (h.waitUpTo c t)
  kill c := onSecond (h.kill c)
  capture l := onSecond (h.capture l)
  emit label text s := (s.1, h.emit label text s.2)
  readText p s := h.readText p s.2
  isFile p s := h.isFile p s.2
  removeTree p := onSecond (h.removeTree p)
  createDirs p := onSecond (h.createDirs p)

end Host
end ClusterHarness
