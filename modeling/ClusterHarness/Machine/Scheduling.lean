import ClusterHarness.Machine.Serving

/-!
# Running processes

Processes take turns as long as one of them can go on. The harness reads what it wants of their
output between the turns, and a line that it waits for as soon as that is written. The clock moves
to the next process that wakes up only when all of them wait.
-/

namespace ClusterHarness.Machine

/-! ## Reading by the harness -/

/-- The most bytes that are read at once to find a line. -/
def blockSize : Nat := 8192

/-- How many bytes the harness would read now. -/
def Outlet.wanted (o : Outlet) : Nat :=
  match o.reading with
  | .nothing => 0
  | .line => if o.unread.contains 10 then 0 else blockSize
  | .everything => Pipe.capacity * Page.size
  | .drain d => if d.ended.isSome then 0 else Pipe.capacity * Page.size

/-- Take note of bytes that were read, of which `closed` says whether they are the last: what is
held then, and the lines that are forwarded. -/
def Outlet.receive (o : Outlet) (bytes : Bytes) (closed : Bool) : Outlet × List Shown :=
  match o.reading with
  | .drain d =>
    let (lines, d) := d.receive bytes closed
    ({ o with reading := .drain d, pipe := if d.ended.isSome then none else o.pipe },
      lines.map fun text => ⟨d.label, text⟩)
  | _ => ({ o with unread := o.unread ++ bytes }, [])

/-- Let the harness read once from what a process writes. Says whether it got anything. -/
def readOutlet (m : Machine) (o : Outlet) : Bool × Outlet × Machine :=
  match o.pipe with
  | none => (false, o, m)
  | some pipe =>
    let (bytes, p) := (m.pipe pipe).read o.wanted
    let m := m.setPipe pipe p
    let (o, lines) := o.receive bytes (m.isAtEnd pipe)
    (!bytes.isEmpty, o, m.present lines)

/-- Let the harness read once from a process that it started. -/
def readAttachment (a : Attachment) (m : Machine) : Bool × Machine :=
  let (gotOutput, output, m) := m.readOutlet a.output
  let (gotErrors, errors, m) := m.readOutlet a.errors
  (gotOutput || gotErrors, m.updateAttachment a.child fun a => { a with output, errors })

/-- Let the harness read once from all that it started. Says whether it got anything. -/
def readAttachments (m : Machine) : Bool × Machine :=
  m.attachments.foldl (fun (moved, m) a =>
    let (now, m) := readAttachment a m
    (moved || now, m)) (false, m)

/-- Let the harness read where it waits for a line. -/
def readLines (m : Machine) : Machine :=
  m.attachments.foldl
    (fun m a => if a.output.reading matches .line then (readAttachment a m).2 else m) m

/-! ## Turns -/

/-- How long it takes to split off a process. -/
def forkTime : Duration := ⟨100000⟩

/-- How long it takes a process to end. -/
def endTime : Duration := ⟨100000⟩

/-- Let a process take one step, if it can. -/
def step (m : Machine) (j : Job) : Bool × Machine :=
  match j.task with
  | .exit code =>
    match j.wake with
    | none =>
      (true, m.updateJob j.id fun j => { j with wake := some (m.now + endTime.nanos) })
    | some wake => if wake ≤ m.now then (true, m.endJob j.id (.exited code)) else (false, m)
  | .fork child next =>
    let id := m.next
    let new : Job := {
      id, task := child.after forkTime, directory := j.directory, descriptors := j.descriptors
      dispositions := j.dispositions, parent := some j.id }
    let m := m.updateJob j.id fun j => { j with task := next id }
    (true, { m with next := m.next + 1, jobs := m.jobs ++ [new] })
  | .ask r next =>
    match m.serve j r with
    | .answer a m =>
      let m := m.updateJob j.id fun j => { j with task := next a, unwritten := none }
      (true, if r matches .write .. then m.readLines else m)
    | .waits m => (false, m)
    | .moved m => (true, m)

/-- The most steps of one turn. -/
def turnLimit : Nat := 10000

/-- Let a process take up to some steps. Says whether it took any. -/
def turn (id : Nat) : Nat → Machine → Bool × Machine
  | 0, m => (true, m)
  | steps + 1, m =>
    match m.job? id with
    | none => (false, m)
    | some j =>
      if j.ended.isSome || j.stopped then (false, m)
      else
        match m.step j with
        | (false, m) => (false, m)
        | (true, m) => (true, (turn id steps m).2)

/-- Let every process take a turn. Says whether any of them took a step. -/
def round (ids : List Nat) (m : Machine) : Bool × Machine :=
  ids.foldl (fun (moved, m) id =>
    let (now, m) := turn id turnLimit m
    (moved || now, m)) (false, m)

/-! ## Time -/

/-- The most rounds that processes take without the clock moving. -/
def roundLimit : Nat := 10000

/-- Let processes and the harness work until all of them wait. -/
def settleWithin : Nat → Machine → Machine
  | 0, m => m
  | rounds + 1, m =>
    let (moved, m) := m.round (m.jobs.map (·.id))
    let (got, m) := m.readAttachments
    if moved || got then settleWithin rounds m else m

def settle (m : Machine) : Machine := settleWithin roundLimit m

/-- The time at which the next process wakes up. -/
def nextWake (m : Machine) : Option Nat :=
  (m.jobs.filter fun j => j.ended.isNone && !j.stopped).filterMap (·.wake) |>.min?

/-- The most times that the clock moves in one wait. -/
def waitLimit : Nat := 10000000

/-- Let time pass until something holds, a deadline is reached, or nobody will ever wake up. Says
whether it holds. -/
def waitWithin (holds : Machine → Bool) (deadline : Option Nat) :
    Nat → Machine → Bool × Machine
  | 0, m => (false, m)
  | moves + 1, m =>
    let m := m.settle
    if holds m then (true, m)
    else
      let late (time : Nat) : Bool := deadline.any (· ≤ time)
      match m.nextWake with
      | some time =>
        if late time then (false, { m with now := max m.now (deadline.getD m.now) })
        else waitWithin holds deadline moves { m with now := max m.now time }
      | none => (false, { m with now := max m.now (deadline.getD m.now) })

/-- Let time pass until something holds, for at most `limit`. -/
def waitFor (holds : Machine → Bool) (limit : Option Duration) (m : Machine) : Bool × Machine :=
  waitWithin holds (limit.map (m.now + ·.nanos)) waitLimit m

end ClusterHarness.Machine
