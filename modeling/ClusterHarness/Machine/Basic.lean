import ClusterHarness.Drain
import ClusterHarness.Machine.Pipe
import ClusterHarness.Machine.Task

/-!
# Machines

A machine in which plans can be tried out: a file tree, processes joined by pipes, and a clock that
moves only when everybody waits. Nothing in it depends on chance, so a run on a machine can be
repeated exactly.
-/

namespace ClusterHarness

namespace Machine

/-- What a descriptor of a process may name. -/
inductive OpenFile where
  /-- A file that swallows everything and yields nothing. -/
  | nothing
  | directory
  | reader (pipe : Nat)
  | writer (pipe : Nat)
  | file (place : Location) (offset : Nat) (access : Access)
deriving DecidableEq, Repr

/-- A process of a machine. -/
structure Job where
  id : Nat
  task : Task
  directory : Location
  /-- The open file that each descriptor names. -/
  descriptors : List (Nat × Nat)
  /-- The process that split it off, if that was not the harness. -/
  parent : Option Nat
  /-- The time at which it wakes up. -/
  wake : Option Nat := none
  /-- What is left of the bytes that it writes, if it waits for room. -/
  unwritten : Option Bytes := none
  stopped : Bool := false
  /-- What it does about signals, where that is not their effect. -/
  dispositions : List (Nat × Disposition) := []
  /-- The signals that it caught and was not told of yet. -/
  caught : List Nat := []
  ended : Option WaitStatus := none
  /-- Whether the harness has learned of its end. -/
  reaped : Bool := false

/-- What the harness does with what a process writes. -/
inductive Reading where
  /-- It leaves that in the pipe. -/
  | nothing
  /-- It reads until it has a line. -/
  | line
  | everything
  /-- It forwards the lines. -/
  | drain (d : Drain)
deriving Repr, Inhabited

/-- What the harness holds of what a process writes to one of its files. -/
structure Outlet where
  /-- The reading end of the pipe, unless it was closed. -/
  pipe : Option Nat := none
  /-- Bytes that were taken from the pipe and not used yet. -/
  unread : Bytes := []
  reading : Reading := .nothing
deriving Repr, Inhabited

/-- What the harness holds of a process that it started: the writing end of its input, its output
and its errors. -/
structure Attachment where
  child : Nat
  input : Option Nat := none
  output : Outlet := {}
  errors : Outlet := {}
deriving Repr

/-- A line that was shown under a label. -/
structure Shown where
  label : String
  text : String
deriving DecidableEq, Repr

end Machine

open Machine in
/-- A machine at some moment. -/
structure Machine where
  files : FileTree
  /-- The directory of the harness. -/
  directory : Location := []
  /-- The environment of the harness. -/
  vars : List (String × String) := []
  /-- The time, in nanoseconds. -/
  now : Nat := 0
  jobs : List Job := []
  openFiles : List (Nat × OpenFile) := []
  pipes : List (Nat × Pipe) := []
  attachments : List Attachment := []
  /-- The number of the next process, pipe or open file. -/
  next : Nat := 1
  shown : List Shown := []
  /-- When files were changed that were there at some time. -/
  changes : List (Location × Nat) := []
  /-- How many lines the harness may still read one by one. -/
  lineBudget : Nat := 1000000000

namespace Machine

/-- Set the value of a key, or remove it. -/
def assign {α : Type} (key : Nat) (value : Option α) (entries : List (Nat × α)) :
    List (Nat × α) :=
  let rest := entries.filter (·.1 != key)
  match value with
  | some a => (key, a) :: rest
  | none => rest

/-! ## Processes and pipes -/

def job? (m : Machine) (id : Nat) : Option Job := m.jobs.find? (·.id == id)

def updateJob (m : Machine) (id : Nat) (f : Job → Job) : Machine :=
  { m with jobs := m.jobs.map fun j => if j.id == id then f j else j }

/-- The status with which a process ended. -/
def ended? (m : Machine) (id : Nat) : Option WaitStatus := (m.job? id).bind (·.ended)

/-- The status with which a process is about to end. -/
def Job.status? (j : Job) : Option WaitStatus :=
  match j.task with
  | .exit code => some (.exited code)
  | _ => none

def Job.disposition (j : Job) (signal : Nat) : Disposition :=
  (j.dispositions.lookup signal).getD .byDefault

/-- Tell a process of a signal. -/
def Job.tell (j : Job) (signal : Nat) : Job :=
  if j.caught.contains signal then j else { j with caught := j.caught ++ [signal] }

/-- Whether a process can be sent signals: it is at work, or nobody has learned of its end. -/
def exists? (m : Machine) (id : Nat) : Bool :=
  match m.job? id with
  | none => false
  | some j =>
    j.ended.isNone || (!j.reaped &&
      match j.parent with
      | none => true
      | some p => (m.job? p).any (·.ended.isNone))

def openFile? (m : Machine) (j : Job) (descriptor : Nat) : Option (Nat × OpenFile) := do
  let id ← j.descriptors.lookup descriptor
  return (id, ← m.openFiles.lookup id)

/-- Whether a process has a file open. -/
def isOpen (m : Machine) (f : OpenFile) : Bool :=
  m.jobs.any fun j => j.descriptors.any fun d => m.openFiles.lookup d.2 == some f

def hasWriter (m : Machine) (pipe : Nat) : Bool :=
  m.attachments.any (·.input == some pipe) || m.isOpen (.writer pipe)

def hasReader (m : Machine) (pipe : Nat) : Bool :=
  m.attachments.any (fun a => a.output.pipe == some pipe || a.errors.pipe == some pipe) ||
    m.isOpen (.reader pipe)

def pipe (m : Machine) (id : Nat) : Pipe := (m.pipes.lookup id).getD {}

def setPipe (m : Machine) (id : Nat) (p : Pipe) : Machine :=
  { m with pipes := assign id (some p) m.pipes }

def newPipe (m : Machine) : Nat × Machine :=
  (m.next, { m with next := m.next + 1, pipes := assign m.next (some {}) m.pipes })

/-- Whether a pipe is empty and nobody can write to it any more. -/
def isAtEnd (m : Machine) (id : Nat) : Bool := (m.pipe id).isEmpty && !m.hasWriter id

def addOpenFile (m : Machine) (f : OpenFile) : Nat × Machine :=
  (m.next, { m with next := m.next + 1, openFiles := assign m.next (some f) m.openFiles })

def setOpenFile (m : Machine) (id : Nat) (f : OpenFile) : Machine :=
  { m with openFiles := assign id (some f) m.openFiles }

/-- Forget an open file that no process has open any more, and its pipe if nobody has an end of
that. -/
def forget (m : Machine) (id : Nat) : Machine :=
  if m.jobs.any fun j => j.descriptors.any (·.2 == id) then m
  else
    let f := m.openFiles.lookup id
    let m := { m with openFiles := assign id none m.openFiles }
    let forgetPipe (pipe : Nat) : Machine :=
      if m.hasReader pipe || m.hasWriter pipe then m
      else { m with pipes := assign pipe none m.pipes }
    match f with
    | some (.reader pipe) => forgetPipe pipe
    | some (.writer pipe) => forgetPipe pipe
    | _ => m

/-- Let a descriptor of a process name an open file, or nothing. -/
def bindDescriptor (m : Machine) (j : Job) (descriptor : Nat) (file : Option Nat) : Machine :=
  let m := m.updateJob j.id fun j =>
    { j with descriptors := assign descriptor file j.descriptors }
  match j.descriptors.lookup descriptor with
  | some before => m.forget before
  | none => m

/-- End a process, which closes its files. Its parent may want to be told. -/
def endJob (m : Machine) (id : Nat) (status : WaitStatus) : Machine :=
  let parent := (m.job? id).bind (·.parent)
  let held := ((m.job? id).map (·.descriptors)).getD []
  let m := m.updateJob id fun j =>
    { j with ended := some status, descriptors := [], wake := none, caught := [] }
  let m := held.foldl (fun m d => m.forget d.2) m
  match parent with
  | some p =>
    m.updateJob p fun j =>
      if j.disposition Signal.child = .catch && j.ended.isNone then j.tell Signal.child else j
  | none => m

/-! ## What the harness holds -/

def attachment? (m : Machine) (child : Nat) : Option Attachment :=
  m.attachments.find? (·.child == child)

def updateAttachment (m : Machine) (child : Nat) (f : Attachment → Attachment) : Machine :=
  { m with attachments := m.attachments.map fun a => if a.child == child then f a else a }

def present (m : Machine) (lines : List Shown) : Machine :=
  { m with shown := m.shown ++ lines }

/-- The lines shown under a label, in order. -/
def linesOf (m : Machine) (label : String) : List String :=
  (m.shown.filter (·.label == label)).map (·.text)

end Machine
end ClusterHarness
