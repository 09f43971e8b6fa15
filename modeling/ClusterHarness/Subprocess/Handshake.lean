import ClusterHarness.Subprocess
import ClusterHarness.Service

/-!
# The readiness handshake

A service prints its process id, then one line for each adapter that is ready, and perhaps, after
any other lines, a line that names a component. The handshake reads these lines in order, each
within the same time.
-/

namespace ClusterHarness.Subprocess

variable {σ : Type}

/-- A process id: decimal digits below 2 ^ 32, perhaps after a plus sign. -/
def pid? (line : List Char) : Option Nat :=
  let digits := if line.head? == some '+' then line.drop 1 else line
  if digits.isEmpty || !digits.all Char.isDigit then none
  else
    let n := digits.foldl (fun n c => n * 10 + (c.toNat - '0'.toNat)) 0
    if n < Nat.pow 2 32 then some n else none

/-- The word that ends every readiness line. -/
def readyWord : List Char := "ready".toList

/-- A line by which an adapter says that it is ready: the word alone, or after a space. Models
`is_adapter_ready`. -/
def isReadyLine (line : List Char) : Bool :=
  line == readyWord || (' ' :: readyWord).isSuffixOf line

def pidExpected : String := "process id"

def adapterExpected : String := "adapter ready marker"

/-- The line by which a component says that it is ready. -/
def marker (token : String) : String := s!"{token} ready"

def markerExpected (token : String) : String := s!"'{marker token}' marker"

/-- What a read means to a handshake that expects a line. -/
def lineOf (p : Subprocess) (timeout : Option Duration) (expected : String) :
    LineRead → Except Failure String
  | .line text => .ok text
  | .ended =>
    match p.spawnError with
    | some reason => .error (.notStarted p.label reason)
    | none => .error (.endedEarly p.label expected)
  | .timedOut => .error (.notReadyInTime p.label expected (timeout.getD ⟨0⟩))
  | .failed cause => .error (.io cause)

/-- Read the line that a handshake expects. Models `ReadinessProtocol.next_line`. -/
def expectLine (h : Host σ) (timeout : Option Duration) (expected : String) (p : Subprocess)
    (s : σ) : Except Failure String × σ :=
  let (r, s) := p.readLine h timeout s
  (p.lineOf timeout expected r, s)

/-- Read the process id and keep it. Models `ReadinessProtocol.await_pid`. -/
def readPid (h : Host σ) (timeout : Option Duration) (p : Subprocess) (s : σ) :
    Except Failure Nat × Subprocess × σ :=
  match p.expectLine h timeout pidExpected s with
  | (.error e, s) => (.error e, p, s)
  | (.ok line, s) =>
    match pid? (Text.trim line.toList) with
    | some n => (.ok n, { p with discoveredPid := some n }, s)
    | none => (.error (.unexpectedLine p.label pidExpected line), p, s)

/-- Read the line of one adapter. Models `ReadinessProtocol.await_adapter_ready`. -/
def readAdapter (h : Host σ) (timeout : Option Duration) (p : Subprocess) (s : σ) :
    Except Failure Unit × σ :=
  match p.expectLine h timeout adapterExpected s with
  | (.error e, s) => (.error e, s)
  | (.ok line, s) =>
    if isReadyLine (Text.trim line.toList) then (.ok (), s)
    else (.error (.unexpectedLine p.label adapterExpected line), s)

/-- Read the lines of a number of adapters. -/
def readAdapters (h : Host σ) (timeout : Option Duration) (p : Subprocess) :
    Nat → σ → Except Failure Unit × σ
  | 0, s => (.ok (), s)
  | n + 1, s =>
    match p.readAdapter h timeout s with
    | (.error e, s) => (.error e, s)
    | (.ok (), s) => readAdapters h timeout p n s

/-- Skip lines until the one that names a component. Models
`ReadinessProtocol.await_named_ready`. -/
def skipToComponent (h : Host σ) (timeout : Option Duration) (token : String) (p : Subprocess)
    (s : σ) : Except Failure Unit × σ :=
  match _hr : p.readLine h timeout s with
  | (.line line, s') =>
    if Text.trim line.toList = (marker token).toList then (.ok (), s')
    else skipToComponent h timeout token p s'
  | (r, s') => ((p.lineOf timeout (markerExpected token) r).map fun _ => (), s')
termination_by h.linesLeft s
decreasing_by
  unfold readLine at _hr
  split at _hr
  · split at _hr
    · exact h.linesLeft_readLine _hr
    · simp at _hr
  · simp at _hr

/-- The whole handshake: the process id, the adapters of the contract, and its component if it names
one. Models `ReadinessProtocol.handshake`. -/
def handshake (h : Host σ) (timeout : Option Duration) (contract : Readiness)
    (p : Subprocess) (s : σ) : Except Failure Nat × Subprocess × σ :=
  match p.readPid h timeout s with
  | (.error e, p, s) => (.error e, p, s)
  | (.ok pid, p, s) =>
    match p.readAdapters h timeout contract.adapters s with
    | (.error e, s) => (.error e, p, s)
    | (.ok (), s) =>
      match contract.namedReady with
      | none => (.ok pid, p, s)
      | some token =>
        match p.skipToComponent h timeout token s with
        | (.error e, s) => (.error e, p, s)
        | (.ok (), s) => (.ok pid, p, s)

end ClusterHarness.Subprocess
