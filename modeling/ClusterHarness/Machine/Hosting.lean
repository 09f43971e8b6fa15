import ClusterHarness.Environment
import ClusterHarness.Host
import ClusterHarness.Machine.Scheduling

/-!
# Machines as hosts

A machine is a host of the harness: processes that the harness starts run on it between the
requests of the harness, and time passes while the harness waits.
-/

namespace ClusterHarness.Machine

/-! ## Starting processes -/

/-- The environment of a process that the harness starts with more variables. -/
def environment (m : Machine) (more : List (String × String)) : List Octets :=
  (Environment.ofList (m.vars ++ more)).entries.map fun (name, value) =>
    Octets.ofText (name ++ "=" ++ value)

/-- Whether a part of a launch holds a NUL, which no process can be given. -/
def hasNul (l : Launch) : Bool :=
  let texts := l.program :: (l.directory.map (·.text)).toList ++ l.args ++
    l.env.flatMap fun e => [e.1, e.2]
  texts.any (·.toList.contains '\x00')

/-- The directory that a process starts in. -/
def startDirectory (m : Machine) : Option Path → Except IoError Location
  | none => .ok m.directory
  | some path =>
    match m.files.resolve m.directory path with
    | .error e => .error e
    | .ok (place, t) => if t.isDirectory then .ok place else .error .notADirectory

/-- Start a process with three open files. The directory is changed before the program is looked
for. Where a launch brings its own search path, a shell takes over a script that a bare name
stands for. -/
def start (m : Machine) (l : Launch) (input output errors : OpenFile) :
    Except IoError (Nat × Machine) := do
  if hasNul l then throw (.other "nul byte found in provided data")
  let directory ← m.startDirectory l.directory
  let env := m.environment l.env
  let name := Octets.ofText l.program
  let scripts := l.env.any (·.1 == "PATH") && !name.contains '/'
  let directories := (lookupLine env "PATH".toList).getD defaultSearch
  let loaded ←
    find m.files directory scripts directories name (name :: l.args.map Octets.ofText) env
  let (input, m) := m.addOpenFile input
  let (output, m) := m.addOpenFile output
  let (errors, m) := m.addOpenFile errors
  let job : Job := {
    id := m.next, task := starting (Tool.task loaded.tool loaded.args env), directory
    descriptors := [(0, input), (1, output), (2, errors)], parent := none }
  return (job.id, { m with next := m.next + 1, jobs := m.jobs ++ [job] })

/-- Start a process with open pipes, whose errors are drained. -/
def spawn (l : Launch) (errorsLabel : String) (m : Machine) : Except IoError Child × Machine :=
  let (input, n) := m.newPipe
  let (output, n) := n.newPipe
  let (errors, n) := n.newPipe
  match n.start l (.reader input) (.writer output) (.writer errors) with
  | .error e => (.error e, m)
  | .ok (id, n) =>
    let a : Attachment := {
      child := id, input := some input, output := { pipe := some output }
      errors := { pipe := some errors, reading := .drain { label := errorsLabel } } }
    (.ok ⟨id⟩, { n with attachments := n.attachments ++ [a] })

/-- Run a process without input until it has ended and nobody can write to its output. -/
def capture (l : Launch) (m : Machine) : Except IoError Captured × Machine :=
  let (output, n) := m.newPipe
  let (errors, n) := n.newPipe
  match n.start l .nothing (.writer output) (.writer errors) with
  | .error e => (.error e, m)
  | .ok (id, n) =>
    let a : Attachment := {
      child := id, output := { pipe := some output, reading := .everything }
      errors := { pipe := some errors, reading := .everything } }
    let n := { n with attachments := n.attachments ++ [a] }
    let closed (n : Machine) : Bool :=
      (n.ended? id).isSome && n.isAtEnd output && n.isAtEnd errors
    let (_, n) := n.waitFor closed none
    let a := (n.attachment? id).getD a
    let c : Captured := {
      status := (n.ended? id).getD (.signaled Signal.kill)
      output := a.output.unread
      errors := a.errors.unread }
    (.ok c, { n with attachments := n.attachments.filter (·.child != id) })

/-! ## Reading the output -/

/-- Change what the harness holds of the output of a child. -/
def updateOutput (m : Machine) (child : Nat) (f : Outlet → Outlet) : Machine :=
  m.updateAttachment child fun a => { a with output := f a.output }

def output? (m : Machine) (child : Nat) : Option Outlet := (m.attachment? child).map (·.output)

/-- Whether nothing more can be read from a pipe that the harness holds. -/
def isOver (m : Machine) (o : Outlet) : Bool := o.pipe.all m.isAtEnd

/-- How long the harness takes to notice a line that it waited for. -/
def noticeTime : Duration := ⟨30000⟩

/-- Let time pass while the harness does nothing. -/
def pass (m : Machine) (time : Duration) : Machine := (m.waitFor (fun _ => false) (some time)).2

/-- Read a line, of which there may be `left` more after it. -/
def readLineOf (child : Nat) (timeout : Option Duration) (left : Nat) (m : Machine) :
    LineRead × Machine :=
  let exhausted (m : Machine) : Bool := (m.output? child).all m.isOver
  let next (m : Machine) : Option (Bytes × Bytes) :=
    (m.output? child).bind fun o => nextLine? (m.isOver o) o.unread
  let delay : Duration := if (next m).isSome then ⟨0⟩ else noticeTime
  let m := m.updateOutput child fun o => { o with reading := .line }
  let (_, m) := m.waitFor (fun m => (next m).isSome || exhausted m) timeout
  let m := m.updateOutput child fun o => { o with reading := .nothing }
  match next m with
  | some (line, rest) =>
    let m := (m.updateOutput child fun o => { o with unread := rest }).pass delay
    match Text.ofBytes? line with
    | some text => (.line text, { m with lineBudget := left })
    | none => (.failed (.malformedLine ((Text.malformed? 0 line).getD default)), m)
  | none => (if exhausted m then .ended else .timedOut, m)

def readLine (c : Child) (timeout : Option Duration) (m : Machine) : LineRead × Machine :=
  match m.lineBudget with
  | 0 => (.ended, m)
  | left + 1 => readLineOf c.id timeout left m

/-- Reading a line uses up one of the lines that may be read. -/
theorem lineBudget_readLine {c : Child} {timeout : Option Duration} {m n : Machine}
    {text : String} (h : readLine c timeout m = (.line text, n)) :
    n.lineBudget < m.lineBudget := by
  unfold readLine at h
  split at h
  · simp at h
  · next left hl =>
    rw [hl]
    simp only [readLineOf] at h
    split at h
    · split at h
      · simp only [Prod.mk.injEq] at h
        rw [← h.2]
        exact Nat.lt_succ_self _
      · simp at h
    · split at h <;> simp at h

/-! ## Drains -/

/-- The drain that reads from what a process writes. -/
def Outlet.drain? (o : Outlet) : Option Drain :=
  match o.reading with
  | .drain d => some d
  | _ => none

/-- Let a drain read on where lines were read before. -/
def Outlet.startDrain (label : String) (o : Outlet) : Outlet :=
  { o with reading := .drain { label, unread := o.unread }, unread := [] }

/-- Cancel the drain, which closes the pipe. -/
def Outlet.cancelDrain (o : Outlet) : Outlet :=
  match o.reading with
  | .drain d => { o with reading := .drain d.cancel, pipe := none }
  | _ => o

def drainOutput (c : Child) (label : String) (m : Machine) : Machine :=
  m.updateOutput c.id (·.startDrain label)

def outputDrain? (m : Machine) (c : Child) : Option Drain := (m.output? c.id).bind (·.drain?)

def stopOutput (c : Child) (m : Machine) : DrainEnd × Machine :=
  let m := m.updateOutput c.id (·.cancelDrain)
  (((m.outputDrain? c).bind (·.ended)).getD .endOfStream, m)

def joinOutput (c : Child) (limit : Option Duration) (m : Machine) : DrainEnd × Machine :=
  let finished (m : Machine) : Bool := (m.outputDrain? c).all (·.ended.isSome)
  stopOutput c (m.waitFor finished limit).2

def stopErrors (c : Child) (m : Machine) : Machine :=
  m.updateAttachment c.id fun a => { a with errors := a.errors.cancelDrain }

def joinErrors (c : Child) (limit : Duration) (m : Machine) : Machine :=
  let finished (m : Machine) : Bool :=
    ((m.attachment? c.id).bind (·.errors.drain?)).all (·.ended.isSome)
  stopErrors c (m.waitFor finished (some limit)).2

/-! ## Ends of processes -/

/-- Let the harness learn of the end of a child, if that has ended. -/
def reap (c : Child) (m : Machine) : Machine :=
  m.updateJob c.id fun j => { j with reaped := j.ended.isSome }

def waitUpTo (c : Child) (limit : Duration) (m : Machine) : Option WaitStatus × Machine :=
  let (_, m) := m.waitFor (fun m => (m.ended? c.id).isSome) (some limit)
  (m.ended? c.id, m.reap c)

/-- Wait for the end of a child. One that would wait for ever counts as killed. -/
def wait (c : Child) (m : Machine) : WaitStatus × Machine :=
  let (_, m) := m.waitFor (fun m => (m.ended? c.id).isSome) none
  ((m.ended? c.id).getD (.signaled Signal.kill), m.reap c)

def killChild (c : Child) (m : Machine) : WaitStatus × Machine :=
  let status := ((m.job? c.id).bind fun j => j.ended.or j.status?).getD (.signaled Signal.kill)
  let m := if (m.ended? c.id).isSome then m else m.endJob c.id status
  (status, m.reap c)

/-! ## The host -/

/-- A machine as the host of a harness. -/
def host : Host Machine where
  spawn := spawn
  readLine := readLine
  linesLeft m := m.lineBudget
  linesLeft_readLine := lineBudget_readLine
  closeInput c m := m.updateAttachment c.id fun a => { a with input := none }
  dropOutput c m := m.updateOutput c.id fun _ => {}
  drainOutput := drainOutput
  joinOutput := joinOutput
  stopOutput := stopOutput
  joinErrors := joinErrors
  stopErrors := stopErrors
  wait := wait
  waitUpTo := waitUpTo
  kill := killChild
  capture := capture
  emit label text m := m.present [⟨label, text⟩]
  readText path m := m.files.readText m.directory path
  isFile path m := m.files.isFileAt m.directory path
  removeTree path m :=
    let (r, files) := m.files.removeTree m.directory path
    (r, { m with files })
  createDirs path m :=
    let (r, files) := m.files.createDirs m.directory path
    (r, { m with files })

/-! ## A machine to begin with -/

def searchPath : String := "/usr/local/sbin:/usr/local/bin:/usr/sbin:/usr/bin:/sbin:/bin"

/-- A machine with its tools and an empty directory for the harness. -/
def initial (directory : Location) : Machine :=
  let tools : FileTree := .directory (Tool.names.map fun name => (name, .tool name))
  let empty := ["etc", "home", "lib", "opt", "proc", "root", "run", "sbin", "tmp", "var"]
  let root : FileTree := .directory (empty.map (·, .directory []) ++
    [("bin", tools), ("usr", .directory [("bin", tools)]),
      ("dev", .directory (("fd", .directory []) ::
        ["null", "stdin", "stdout", "stderr"].map fun name => (name, .device name)))])
  let path : Path := ⟨"/" ++ "/".intercalate directory⟩
  { files := (root.createDirs [] path).2, directory, vars := [("PATH", searchPath)] }

end ClusterHarness.Machine
