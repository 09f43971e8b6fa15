import ClusterHarness.Machine.Basic
import ClusterHarness.Machine.Loading
import ClusterHarness.Machine.Tool

/-!
# Serving requests

What a machine does for a process that asks for something. Whoever reads from a pipe waits until
something is in it or nobody can write to it any more; whoever writes to a pipe waits until all of
it is in the pipe, and is ended by a signal if nobody can read it any more.
-/

namespace ClusterHarness.Machine

/-- What becomes of a request. -/
inductive Served (α : Type) where
  | answer (a : α) (m : Machine)
  /-- It cannot be answered yet. -/
  | waits (m : Machine)
  /-- It has no answer, but something was done: the process ended, or goes on as another program, or
  wrote a part of what it has to. -/
  | moved (m : Machine)

/-- The least number that is not in use, from `start` on. -/
def unused (start : Nat) (used : List Nat) : Nat :=
  ((List.range (used.length + 1)).map (· + start)).find? (!used.contains ·) |>.getD start

/-- How long a program takes to start, in which others go on. -/
def startTime : Duration := ⟨400000⟩

/-- The task of a program from its start. -/
def starting (t : Task) : Task := t.after startTime

/-! ## Files -/

/-- Bytes with others written over them from an offset on. -/
def overwrite (content : Bytes) (offset : Nat) (bytes : Bytes) : Bytes :=
  let before := content.take offset
  before ++ List.replicate (offset - before.length) 0 ++ bytes ++
    content.drop (offset + bytes.length)

def isExecutable : Except IoError FileTree → Bool
  | .ok (.file _ executable) => executable
  | _ => false

def contentAt (m : Machine) (place : Location) : Bytes :=
  match m.files.find place with
  | .ok (.file content _) => content
  | _ => []

/-- The step in which the times of changes are counted. -/
def changeStep : Duration := .ofMillis 4

/-- Note that a file was changed now. -/
def markChanged (m : Machine) (place : Location) : Machine :=
  let time := m.now / changeStep.nanos * changeStep.nanos
  { m with changes := (place, time) :: m.changes.filter (·.1 != place) }

/-- Replace the content of a file. -/
def setContentAt (m : Machine) (place : Location) (content : Bytes) : Machine :=
  let executable := isExecutable (m.files.find place)
  { m.markChanged place with files := m.files.put place (.file content executable) }

/-- The descriptor that a place among the devices stands for. -/
def descriptorAt? (place : Location) : Option Nat :=
  match place with
  | ["dev", "fd", n] => n.toNat?
  | ["dev", "stdin"] => some 0
  | ["dev", "stdout"] => some 1
  | ["dev", "stderr"] => some 2
  | _ => none

/-- What may be known about what is at a place. -/
def statusOf (m : Machine) (place : Location) (t : FileTree) : FileStatus :=
  let kind : FileKind :=
    match t with
    | .directory _ => .directory
    | .file content executable => .file content.length executable
    | .tool _ => .file 1 true
    | .device _ => .device
  ⟨place, kind, (m.changes.lookup place).getD 0⟩

/-- What may be known about what a path stands for. The path of a descriptor stands for what the
descriptor names. -/
def statusAt (m : Machine) (j : Job) (path : Path) : Except IoError FileStatus :=
  match m.files.locate j.directory path with
  | .error e => .error e
  | .ok place =>
    match descriptorAt? place with
    | none => (m.files.resolve j.directory path).map fun (place, t) => m.statusOf place t
    | some descriptor =>
      match m.openFile? j descriptor with
      | none => .error .notFound
      | some (_, .nothing) => .ok ⟨place, .device, 0⟩
      | some (_, .directory) => .ok ⟨place, .directory, 0⟩
      | some (_, .reader _) => .ok ⟨place, .pipe, 0⟩
      | some (_, .writer _) => .ok ⟨place, .pipe, 0⟩
      | some (_, .file place _ _) => (m.files.find place).map (m.statusOf place)

/-- The names in the directory at a path. -/
def namesAt (m : Machine) (base : Location) (path : Path) : Except IoError (List String) :=
  match m.files.resolve base path with
  | .error e => .error e
  | .ok (_, .directory entries) => .ok (entries.map (·.1))
  | .ok _ => .error .notADirectory

/-- Remove a file, or with `whole` a directory and all in it. -/
def removeAt (m : Machine) (base : Location) (path : Path) (whole : Bool) :
    Except IoError FileTree :=
  match m.files.resolve base path with
  | .error e => .error e
  | .ok (place, t) =>
    if t.isDirectory && !whole then .error .isADirectory else .ok (m.files.remove place)

/-- Give a file or a directory another path. A file that had that path is gone. -/
def renameAt (m : Machine) (base : Location) (source target : Path) :
    Except IoError FileTree :=
  match m.files.resolve base source with
  | .error e => .error e
  | .ok (place, t) =>
    match m.files.locate base target with
    | .error e => .error e
    | .ok there =>
      if place.isPrefixOf there then
        if place = there then .ok m.files else .error .invalidArgument
      else
        match m.files.find there with
        | .ok (.directory entries) =>
          if !t.isDirectory then .error .isADirectory
          else if !entries.isEmpty then .error .notEmpty
          else .ok ((m.files.remove place).put there t)
        | .ok _ =>
          if t.isDirectory then .error .notADirectory
          else .ok ((m.files.remove place).put there t)
        | .error .notFound => .ok ((m.files.remove place).put there t)
        | .error e => .error e

/-! ## Opening -/

/-- The open file that stands for a descriptor of a process once more. -/
def reopen (m : Machine) (j : Job) (descriptor : Nat) (access : Access) :
    Except IoError (OpenFile × Machine) :=
  match m.openFile? j descriptor with
  | none => .error .notFound
  | some (_, .reader pipe) => .ok (if access = .read then .reader pipe else .writer pipe, m)
  | some (_, .writer pipe) => .ok (if access = .read then .reader pipe else .writer pipe, m)
  | some (_, .file place _ _) =>
    .ok (.file place 0 access, if access = .replace then m.setContentAt place [] else m)
  | some (_, f) => .ok (f, m)

/-- Open what is at a path, or create a file there. -/
def openAt (m : Machine) (j : Job) (path : Path) (access : Access) :
    Except IoError (OpenFile × Machine) :=
  match (m.files.locate j.directory path).toOption.bind descriptorAt? with
  | some descriptor => m.reopen j descriptor access
  | none =>
    match access with
    | .read =>
      match m.files.resolve j.directory path with
      | .error e => .error e
      | .ok (_, .directory _) => .ok (.directory, m)
      | .ok (_, .device _) => .ok (.nothing, m)
      | .ok (place, _) => .ok (.file place 0 .read, m)
    | access =>
      match m.files.locateFile j.directory path with
      | .error e => .error e
      | .ok place =>
        match m.files.find place with
        | .ok (.device _) => .ok (.nothing, m)
        | found =>
          let fresh := found.toOption.isNone || access = .replace
          .ok (.file place 0 access, if fresh then m.setContentAt place [] else m)

/-! ## Signals -/

/-- Send a signal to a process. One that is about to end takes no notice of it. -/
def signal (m : Machine) (target signal : Nat) : Machine :=
  let dispositionOf (j : Job) : Disposition :=
    if j.status?.isSome then .ignore else j.disposition signal
  match ((m.job? target).map dispositionOf).getD .ignore with
  | .ignore => m
  | .catch => m.updateJob target (·.tell signal)
  | .byDefault =>
    match Signal.effect signal with
    | .ends => m.endJob target (.signaled signal)
    | .stops => m.updateJob target fun j => { j with stopped := true }
    | .continues => m.updateJob target fun j => { j with stopped := false }
    | .nothing => m

/-- Whether a process is at work. -/
def isAlive (m : Machine) (id : Nat) : Bool := (m.job? id).any (·.ended.isNone)

/-! ## Reading and writing -/

def serveRead (m : Machine) (j : Job) (descriptor most : Nat) : Served (Except IoError Bytes) :=
  match m.openFile? j descriptor with
  | none => .answer (.error .badDescriptor) m
  | some (_, .nothing) => .answer (.ok []) m
  | some (_, .directory) => .answer (.error .isADirectory) m
  | some (_, .writer _) => .answer (.error .badDescriptor) m
  | some (_, .reader pipe) =>
    if !(m.pipe pipe).isEmpty then
      let (bytes, p) := (m.pipe pipe).read most
      .answer (.ok bytes) (m.setPipe pipe p)
    else if !m.hasWriter pipe then .answer (.ok []) m
    else if j.caught.isEmpty then .waits m
    else .answer (.error .interrupted) m
  | some (id, .file place offset access) =>
    if access = .replace || access = .append then .answer (.error .badDescriptor) m
    else
      let bytes := ((m.contentAt place).drop offset).take most
      .answer (.ok bytes) (m.setOpenFile id (.file place (offset + bytes.length) access))

/-- Write to a pipe that can be read: bytes, or what is left of them. -/
def serveWriteTo (m : Machine) (j : Job) (pipe : Nat) (bytes : Bytes) :
    Served (Except IoError Unit) :=
  let p := m.pipe pipe
  let written : Option (Pipe × Bytes) :=
    match j.unwritten with
    | none => some (p.write bytes)
    | some rest => if p.isFull then none else some (p.fill rest)
  match written with
  | none => .waits m
  | some (p, []) => .answer (.ok ()) (m.setPipe pipe p)
  | some (p, rest) =>
    .moved ((m.setPipe pipe p).updateJob j.id fun j => { j with unwritten := some rest })

def serveWrite (m : Machine) (j : Job) (descriptor : Nat) (bytes : Bytes) :
    Served (Except IoError Unit) :=
  match m.openFile? j descriptor with
  | none => .answer (.error .badDescriptor) m
  | some (_, .nothing) => .answer (.ok ()) m
  | some (_, .directory) => .answer (.error .badDescriptor) m
  | some (_, .reader _) => .answer (.error .badDescriptor) m
  | some (_, .writer pipe) =>
    if m.hasReader pipe then m.serveWriteTo j pipe bytes
    else
      let m := m.signal j.id Signal.brokenPipe
      if m.isAlive j.id then .answer (.error .brokenPipe) m else .moved m
  | some (_, .file _ _ .read) => .answer (.error .badDescriptor) m
  | some (id, .file place offset access) =>
    let old := m.contentAt place
    let offset := if access = .append then old.length else offset
    let m := m.setContentAt place (overwrite old offset bytes)
    .answer (.ok ()) (m.setOpenFile id (.file place (offset + bytes.length) access))

/-- The first of the descriptors that name what another descriptor named before. -/
def firstSaved : Nat := 10

/-- Close the descriptors of a process that a program which it goes on as does not get. -/
def closeSaved (m : Machine) (j : Job) : Machine :=
  (j.descriptors.filter (firstSaved ≤ ·.1)).foldl (fun m d => m.bindDescriptor j d.1 none) m

/-- What becomes of a change of the files. -/
def changed (m : Machine) (r : Except IoError FileTree) : Served (Except IoError Unit) :=
  match r with
  | .ok files => .answer (.ok ()) { m with files }
  | .error e => .answer (.error e) m

/-- Serve a request of a process. -/
def serve (m : Machine) (j : Job) : (r : Request) → Served r.Answer
  | .read descriptor most => m.serveRead j descriptor most
  | .goBack descriptor count =>
    match m.openFile? j descriptor with
    | some (id, .file place offset access) =>
      .answer () (m.setOpenFile id (.file place (offset - count) access))
    | _ => .answer () m
  | .write descriptor bytes => m.serveWrite j descriptor bytes
  | .openFile path access =>
    match m.openAt j path access with
    | .error e => .answer (.error e) m
    | .ok (f, m) =>
      let (id, m) := m.addOpenFile f
      let descriptor := unused 0 (j.descriptors.map (·.1))
      .answer (.ok descriptor) (m.bindDescriptor j descriptor (some id))
  | .pipe =>
    let (pipe, m) := m.newPipe
    let (reader, m) := m.addOpenFile (.reader pipe)
    let (writer, m) := m.addOpenFile (.writer pipe)
    let used := j.descriptors.map (·.1)
    let first := unused 0 used
    let second := unused 0 (first :: used)
    .answer (first, second)
      ((m.bindDescriptor j first (some reader)).bindDescriptor j second (some writer))
  | .copy descriptor target =>
    match j.descriptors.lookup descriptor with
    | none => .answer (.error .badDescriptor) m
    | some id => .answer (.ok ()) (m.bindDescriptor j target (some id))
  | .save descriptor =>
    match j.descriptors.lookup descriptor with
    | none => .answer (.error .badDescriptor) m
    | some id =>
      let target := unused firstSaved (j.descriptors.map (·.1))
      .answer (.ok target) (m.bindDescriptor j target (some id))
  | .close descriptor => .answer () (m.bindDescriptor j descriptor none)
  | .wait target =>
    match m.jobs.find? fun k => k.id == target && k.parent == some j.id with
    | none => .answer WaitAnswer.unknown m
    | some k =>
      match k.ended with
      | some status =>
        .answer (WaitAnswer.ended status) { m with jobs := m.jobs.filter (·.id != target) }
      | none => if j.caught.isEmpty then .waits m else .answer WaitAnswer.interrupted m
  | .poll target => .answer (!m.isAlive target) m
  | .kill target signal =>
    if !m.exists? target then .answer false m
    else if !m.isAlive target then .answer true m
    else
      let m := m.signal target signal
      if m.isAlive j.id then .answer true m else .moved m
  | .handle signal disposition =>
    .answer () (m.updateJob j.id fun j =>
      { j with dispositions := assign signal (some disposition) j.dispositions })
  | .disposition signal => .answer (j.disposition signal) m
  | .signals => .answer j.caught (m.updateJob j.id fun j => { j with caught := [] })
  | .sleep time =>
    match j.wake with
    | none =>
      if time.nanos = 0 then .answer () m
      else .waits (m.updateJob j.id fun j => { j with wake := some (m.now + time.nanos) })
    | some wake =>
      if wake ≤ m.now then .answer () (m.updateJob j.id fun j => { j with wake := none })
      else .waits m
  | .inspect path => .answer (m.statusAt j path) m
  | .list path => .answer (m.namesAt j.directory path) m
  | .changeDirectory path =>
    match m.files.resolve j.directory path with
    | .error e => .answer (.error e) m
    | .ok (place, t) =>
      if t.isDirectory then
        .answer (.ok ()) (m.updateJob j.id fun j => { j with directory := place })
      else .answer (.error .notADirectory) m
  | .currentDirectory => .answer j.directory m
  | .identity => .answer j.id m
  | .parent => .answer (j.parent.getD 0) m
  | .time => .answer m.now m
  | .createDir path => m.changed (m.files.createDir j.directory path)
  | .createDirs path =>
    let (r, files) := m.files.createDirs j.directory path
    .answer r { m with files }
  | .remove path whole => m.changed (m.removeAt j.directory path whole)
  | .rename source target => m.changed (m.renameAt j.directory source target)
  | .setExecutable path executable =>
    match m.files.resolve j.directory path with
    | .error e => .answer (.error e) m
    | .ok (place, .file content _) =>
      .answer (.ok ()) { m with files := m.files.put place (.file content executable) }
    | .ok _ => .answer (.ok ()) m
  | .touch path =>
    match m.files.resolve j.directory path with
    | .error e => .answer (.error e) m
    | .ok (place, _) => .answer (.ok ()) (m.markChanged place)
  | .execute path args env =>
    match load m.files j.directory path args env with
    | .error e => .answer e m
    | .ok ⟨tool, args⟩ =>
      .moved ((m.closeSaved j).updateJob j.id fun j =>
        { j with
          task := starting (Tool.task tool args env)
          dispositions := j.dispositions.filter (·.2 == .ignore)
          caught := [] })

end ClusterHarness.Machine
