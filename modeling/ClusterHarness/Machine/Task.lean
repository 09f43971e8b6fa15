import ClusterHarness.Duration
import ClusterHarness.FileTree
import ClusterHarness.Machine.Octets
import ClusterHarness.Machine.Signal

/-!
# Tasks

What a process does, as seen by the machine that runs it: it asks for one thing after the other
and goes on with the answer, splits off other processes, and ends. A task says nothing about how
requests are answered, and a machine sees nothing of a task but its next request.
-/

namespace ClusterHarness.Machine

/-- How a file is opened. -/
inductive Access where
  | read
  /-- Writing starts with an empty file. -/
  | replace
  /-- Writing goes on at the end of the file. -/
  | append
  /-- Reading and writing start at the beginning of the file. -/
  | both
deriving DecidableEq, Repr

/-- What kind of thing a path stands for. -/
inductive FileKind where
  | directory
  | file (size : Nat) (executable : Bool)
  /-- Neither a directory nor a file: what is written to it goes elsewhere. -/
  | device
  | pipe
deriving DecidableEq, Repr

/-- What a program may know about a path. -/
structure FileStatus where
  place : Location
  kind : FileKind
  /-- When its content was changed, in nanoseconds. -/
  changed : Nat
deriving DecidableEq, Repr

/-- What comes of waiting for a process. -/
inductive WaitAnswer where
  | ended (status : WaitStatus)
  /-- A signal arrived first that the waiting process catches. -/
  | interrupted
  /-- The process is no child of the one that waits. -/
  | unknown
deriving DecidableEq, Repr

/-- A request of a process. Open files are named by descriptors. -/
inductive Request where
  /-- Up to `most` bytes; none at the end. -/
  | read (descriptor most : Nat)
  /-- Go back by so many bytes of a file that were read. -/
  | goBack (descriptor count : Nat)
  | write (descriptor : Nat) (bytes : Bytes)
  | openFile (path : Path) (access : Access)
  /-- The two ends of a new pipe: the one to read from, the one to write to. -/
  | pipe
  /-- Let `target` name what `descriptor` names. -/
  | copy (descriptor target : Nat)
  /-- Let an unused descriptor of ten or more name what `descriptor` names. -/
  | save (descriptor : Nat)
  | close (descriptor : Nat)
  /-- Wait for the end of a process that was split off. -/
  | wait (process : Nat)
  /-- Whether a process that was split off has ended. -/
  | poll (process : Nat)
  | kill (process signal : Nat)
  /-- Choose what to do about a signal. -/
  | handle (signal : Nat) (disposition : Disposition)
  /-- What is done about a signal. -/
  | disposition (signal : Nat)
  /-- The signals that were caught since the last time. -/
  | signals
  | sleep (time : Duration)
  | inspect (path : Path)
  /-- The names in a directory. -/
  | list (path : Path)
  | changeDirectory (path : Path)
  | currentDirectory
  | identity
  /-- The process that split off this one; the harness has no number. -/
  | parent
  | time
  | createDir (path : Path)
  | createDirs (path : Path)
  | remove (path : Path) (whole : Bool)
  | rename (source target : Path)
  | setExecutable (path : Path) (executable : Bool)
  /-- Mark a file as changed now. -/
  | touch (path : Path)
  /-- Go on as the program at a path, with arguments and an environment of lines `NAME=VALUE`. It
  is answered only if that fails. -/
  | execute (path : Octets) (args env : List Octets)

/-- The answer to a request. -/
def Request.Answer : Request → Type
  | .read .. => Except IoError Bytes
  | .goBack .. => Unit
  | .write .. => Except IoError Unit
  | .openFile .. => Except IoError Nat
  | .pipe => Nat × Nat
  | .copy .. => Except IoError Unit
  | .save _ => Except IoError Nat
  | .close _ => Unit
  | .wait _ => WaitAnswer
  | .poll _ => Bool
  | .kill .. => Bool
  | .handle .. => Unit
  | .disposition _ => Disposition
  | .signals => List Nat
  | .sleep _ => Unit
  | .inspect _ => Except IoError FileStatus
  | .list _ => Except IoError (List String)
  | .changeDirectory _ => Except IoError Unit
  | .currentDirectory => Location
  | .identity => Nat
  | .parent => Nat
  | .time => Nat
  | .createDir _ => Except IoError Unit
  | .createDirs _ => Except IoError Unit
  | .remove .. => Except IoError Unit
  | .rename .. => Except IoError Unit
  | .setExecutable .. => Except IoError Unit
  | .touch _ => Except IoError Unit
  | .execute .. => IoError

/-- What a process does from some point on. -/
inductive Task where
  | exit (code : Nat)
  | ask (r : Request) (next : r.Answer → Task)
  /-- Split off a process, which starts with the same open files. -/
  | fork (child : Task) (next : Nat → Task)

instance : Inhabited Task := ⟨.exit 0⟩

/-- A task that begins after some time. -/
def Task.after (time : Duration) (t : Task) : Task := .ask (.sleep time) fun _ => t

/-- A part of a task with a state `σ` of its own and a result. -/
def Program (σ α : Type) := (α → σ → Task) → σ → Task

namespace Program

variable {σ α β : Type}

instance : Monad (Program σ) where
  pure a := fun k s => k a s
  bind p f := fun k s => p (fun a s => f a k s) s

instance : MonadStateOf σ (Program σ) where
  get := fun k s => k s s
  set s := fun k _ => k () s
  modifyGet f := fun k s => k (f s).1 (f s).2

instance [Inhabited α] : Inhabited (Program σ α) := ⟨pure default⟩

/-- Put a request. -/
def ask (r : Request) : Program σ r.Answer := fun k s => .ask r fun a => k a s

/-- End the process, whatever would follow. -/
def exit (code : Nat) : Program σ α := fun _ _ => .exit (code % 256)

/-- The task of a whole program, whose result is its exit status. -/
def toTask (p : Program σ Nat) (s : σ) : Task := p (fun code _ => .exit (code % 256)) s

/-- Split off a process that runs a program from the present state on. -/
def fork (p : Program σ Nat) : Program σ Nat := fun k s =>
  .fork (p.toTask s) fun child => k child s

/-- Write to a descriptor, whether or not that succeeds. -/
def put (descriptor : Nat) (o : Octets) : Program σ Unit := do
  unless o.isEmpty do
    let _ ← ask (.write descriptor o.toBytes)

/-- Read to the end, in at most `turns` turns. -/
def readAll (descriptor : Nat) : Nat → Program σ Bytes
  | 0 => pure []
  | turns + 1 => do
    match ← ask (.read descriptor 65536) with
    | .error _ => return []
    | .ok bytes =>
      if bytes.isEmpty then return []
      return bytes ++ (← readAll descriptor turns)

end Program
end ClusterHarness.Machine
