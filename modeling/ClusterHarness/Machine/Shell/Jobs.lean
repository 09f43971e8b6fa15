import ClusterHarness.Machine.Shell.Options

/-!
# Jobs

Processes of a shell: waiting for those in the foreground, and the list of those in the background,
which scripts wait for, look at and send signals to.
-/

namespace ClusterHarness.Machine.Shell

/-- The status by which scripts know how a process ended. -/
def statusOf : WaitStatus → Nat
  | .exited code => code
  | .signaled signal => 128 + signal

/-- Say that a signal ended a process, unless that is nothing to speak of. -/
def mention (w : WaitStatus) : Action Unit := do
  match w with
  | .exited _ => return
  | .signaled signal =>
    unless signal = Signal.interrupt || signal = Signal.brokenPipe do
      put 2 ((Signal.description signal).toList ++ ['\n'])

/-- The most signals that may interrupt waiting. -/
def interruptionLimit : Nat := 100000

/-- Wait for the end of a process, however many signals arrive. -/
def await (process : Nat) : Nat → Action (Option WaitStatus)
  | 0 => return none
  | fuel + 1 => do
    match ← ask (.wait process) with
    | .ended w => return some w
    | .unknown => return none
    | .interrupted =>
      noteSignals
      await process fuel

/-- Wait for processes in the foreground. The status is that of the last one. -/
def awaitAll (processes : List Nat) : Action Unit :=
  processes.forM fun p => do
    if let some w ← await p interruptionLimit then
      mention w
      setStatus (statusOf w)

/-! ## The list of jobs -/

namespace Jobs

def update (job : BackgroundJob) : Action Unit :=
  modify fun s =>
    { s with jobs := s.jobs.map fun j => if j.number = job.number then job else j }

def remove (job : BackgroundJob) : Action Unit :=
  modify fun s => { s with jobs := s.jobs.filter (·.number != job.number) }

/-- The number of a new job: the least one that is free, or whose job was waited for. -/
def take : Action Nat := do
  let jobs := (← get).jobs
  let inUse (n : Nat) : Bool := jobs.any fun j => j.number = n && !(j.left.isEmpty && j.waited)
  let n := ((List.range (jobs.length + 1)).map (· + 1)).find? (!inUse ·) |>.getD 1
  modify fun s => { s with jobs := s.jobs.filter (·.number != n) }
  return n

/-- Put processes on the list. -/
def add (processes : List Nat) : Action Unit := do
  let number ← take
  modify fun s =>
    { s with
      jobs := { number, processes, left := processes } :: s.jobs
      lastProcess := processes.getLast? }

/-- Wait for a job, but not longer than until a signal arrives. Says whether it ended. -/
def wait (mentions : Bool) (job : BackgroundJob) : Action Bool := go job job.left
where
  go (job : BackgroundJob) : List Nat → Action Bool
    | [] => return true
    | p :: rest => do
      match ← ask (.wait p) with
      | .interrupted =>
        noteSignals
        return false
      | .unknown =>
        update { job with left := rest }
        go { job with left := rest } rest
      | .ended w =>
        if mentions then mention w
        let job := { job with left := rest, ended := w }
        update job
        go job rest

/-- Take note of the jobs that have ended. -/
def refresh : Action Unit := do
  (← get).jobs.forM fun job => do
    if ← job.left.allM fun p => ask (.poll p) then
      let _ ← wait false job

/-- The job that a word names, or complain and stop. With `control` it must be under the control of
the shell, which no job is. -/
def named (control : Bool) (word : Option Octets) : Action BackgroundJob := do
  let jobs := (← get).jobs
  let checked (found : Option BackgroundJob) (text : String) : Action BackgroundJob :=
    match found with
    | some job => do
      if control then
        fail ("job ".toList ++ word.getD "(null)".toList ++
          " not created under job control".toList)
      return job
    | none => fail text.toList
  let unknown (o : Octets) : Action BackgroundJob := fail ("No such job: ".toList ++ o)
  match word with
  | none => checked jobs.head? "No current job"
  | some ['%'] => checked jobs.head? "No current job"
  | some ['%', c] =>
    if c = '+' || c = '%' then checked jobs.head? "No current job"
    else if c = '-' then checked jobs.tail.head? "No previous job"
    else
      match jobs.find? fun j => Octets.ofNat j.number == [c] with
      | some job => checked (some job) ""
      | none => unknown ['%', c]
  | some o =>
    match o, o.tail with
    | '%' :: _, n =>
      match jobs.find? fun j => Octets.toNat? n == some j.number with
      | some job => checked (some job) ""
      | none => unknown o
    | _, _ => unknown o

/-- What is said of a job. -/
def stateOf (job : BackgroundJob) : String :=
  if !job.left.isEmpty then "Running"
  else
    match job.ended with
    | .exited 0 => "Done"
    | .exited code => s!"Done({code})"
    | .signaled signal => Signal.description signal

/-- Print a job, perhaps with its processes, and forget it if it has ended. -/
def «show» (mode : Option Char) (job : BackgroundJob) : Action Unit := do
  let jobs := (← get).jobs
  let first := (job.processes.headD 0)
  if mode = some 'p' then print (Octets.ofNat first ++ ['\n'])
  else
    let rank (j : Option BackgroundJob) : Bool := j.any (·.number = job.number)
    let mark := if rank jobs.head? then "+" else if rank jobs.tail.head? then "-" else " "
    let padded (s : String) : String := s ++ "".pushn ' ' (max 1 (33 - s.length))
    if mode = some 'l' then
      let line := padded s!"[{job.number}] {mark} {first} {stateOf job}"
      let more := job.processes.tail.map fun p => " |\n" ++ padded s!"      {p} "
      print (line ++ String.join more ++ "\n").toList
    else print (padded s!"[{job.number}] {mark} {stateOf job}" ++ "\n").toList
    if job.left.isEmpty then remove job

/-- Print the jobs that arguments name, or all. -/
def list (args : List Octets) : Action Nat := do
  let (found, words) ← Options.split "lp".toList args
  let mode := found.getLast?.map (·.1)
  refresh
  if words.isEmpty then
    (← get).jobs.forM («show» mode)
  else words.forM fun w => do «show» mode (← named false (some w))
  return 0

/-- Bring jobs to the foreground, or let them go on, which needs control over them. -/
def resume (args : List Octets) : Action Nat := do
  let words ← Options.operands args
  let _ ← named true words.head?
  return 0

/-- The status that waiting has when a signal arrives first. -/
def interruptedStatus : Action Nat := return 128 + ((← get).pending.getLastD 0)

/-- Wait for each job that is at work, unless a signal arrives. -/
def waitForAll : List BackgroundJob → Action Nat
  | [] => return 0
  | job :: rest => do
    if ← wait false job then
      modify fun s =>
        { s with
          jobs := s.jobs.map fun j =>
            if j.number = job.number then { j with waited := true } else j }
      waitForAll rest
    else interruptedStatus

/-- Wait for the jobs and processes that words name. -/
def waitForEach : Nat → List Octets → Action Nat
  | status, [] => return status
  | status, w :: rest => do
    let job : Option BackgroundJob ←
      if w.head? == some '%' then do pure (some (← named false (some w)))
      else do
        let n ← number w
        pure ((← get).jobs.find? (·.processes.getLast? == some n))
    match job with
    | none => waitForEach status rest
    | some job =>
      if !(← wait true job) then return ← interruptedStatus
      match (← get).jobs.find? (·.number = job.number) with
      | some job =>
        update { job with waited := true }
        waitForEach (statusOf job.ended) rest
      | none => waitForEach status rest

def waitFor (args : List Octets) : Action Nat := do
  let words ← Options.operands args
  if words.isEmpty then waitForAll (← get).jobs else waitForEach 127 words

/-! ## Sending signals -/

def usage : String :=
  "Usage: kill [-s sigspec | -signum | -sigspec] [pid | job]... or\nkill -l [exitstatus]"

/-- Send a signal to the processes that words name. -/
def sendAll (signal : Nat) : Nat → List Octets → Action Nat
  | status, [] => return status
  | status, w :: rest => do
    let sent ←
      match w with
      | '%' :: _ => do
        let _ ← named false (some w)
        pure false
      | '-' :: digits => do
        let _ ← number digits
        pure false
      | w => do ask (.kill (← number w) signal)
    if sent then sendAll signal status rest
    else
      complain "No such process\n".toList
      sendAll signal 1 rest

/-- Print the names of all signals, or that of one that ended a process with a status. -/
def listSignals (words : List Octets) : Action Nat := do
  match words with
  | [] =>
    let names := ((List.range Signal.last).map fun n => Signal.name (n + 1))
    print (("0" :: names).flatMap fun n => n.toList ++ ['\n'])
    return 0
  | w :: _ =>
    let n ← number w
    let n := if 128 < n then n - 128 else n
    if n = 0 || Signal.last < n then
      fail ("invalid signal number or exit status: ".toList ++ w)
    print ((Signal.name n).toList ++ ['\n'])
    return 0

/-- Send signals, or list them. -/
def send (args : List Octets) : Action Nat := do
  let (signal, lists, words) : Option Nat × Bool × List Octets ←
    match args with
    | [] => fail usage.toList
    | ('-' :: name) :: rest =>
      match Signal.ofOctets? 1 name with
      | some n => pure (some n, false, rest)
      | none => do
        let (found, words) ← Options.split "ls:".toList args
        let lists := found.any (·.1 == 'l')
        let named := found.filter (·.1 == 's')
        let signals ← named.mapM fun (_, o) =>
          match Signal.ofOctets? 1 o with
          | some n => pure n
          | none => fail ("invalid signal number or name: ".toList ++ o)
        pure (signals.getLast?, lists, words)
    | words => pure (none, false, words)
  let signal := if lists then signal else some (signal.getD Signal.terminate)
  if (signal.isNone || words.isEmpty) != lists then fail usage.toList
  if lists then listSignals words
  else sendAll (signal.getD 0) 0 words

end Jobs

/-! ## Traps -/

namespace Trap

/-- Set or remove what a shell does about a signal, or at its end. -/
def set (signal : Nat) (action : Option Octets) : Action Unit := do
  let s ← get
  let before := s.traps.lookup signal
  let rest := s.traps.filter (·.1 != signal)
  let traps :=
    match action with
    | some o => (signal, o) :: rest
    | none => rest
  MonadStateOf.set { s with traps }
  if signal != 0 && Signal.isCatchable signal then
    let foreign ←
      if before == some [] then pure false
      else do
        let now : Disposition ← ask (.disposition signal)
        pure (decide (now = .ignore))
    unless foreign do
      ask (.handle signal
        (match action with
        | none => .byDefault
        | some [] => .ignore
        | some _ => .catch))

/-- Set the traps of signals by their names, up to the first that is none. -/
def setAll (action : Option Octets) : List Octets → Action Nat
  | [] => return 0
  | name :: rest => do
    match Signal.ofOctets? 0 name with
    | none =>
      put 2 ("trap: ".toList ++ name ++ ": bad trap\n".toList)
      return 1
    | some signal =>
      set signal action
      setAll action rest

/-- Set traps, or print them. -/
def command (args : List Octets) : Action Nat := do
  let words ← Options.operands args
  match words with
  | [] =>
    let traps := (← get).traps.mergeSort fun a b => a.1 ≤ b.1
    print (traps.flatMap fun (signal, o) =>
      "trap -- ".toList ++ quote o ++ ' ' :: (Signal.name signal).toList ++ ['\n'])
    return 0
  | [name] => setAll none [name]
  | action :: names =>
    if (Octets.toNat? action).any (· ≤ Signal.last) then setAll none words
    else setAll (if action == ['-'] then none else some action) names

/-- Forget the traps that carry something out, as a process that was split off does. -/
def clear : Action Unit := do
  let caught := (← get).traps.filter fun t => !t.2.isEmpty
  caught.forM fun (signal, _) => set signal none
  modify fun s => { s with pending := [] }

end Trap
end ClusterHarness.Machine.Shell
