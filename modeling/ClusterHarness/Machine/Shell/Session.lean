import ClusterHarness.Machine.Shell.Run

/-!
# Sessions

A shell from its start to its end: the variables that it starts with, its arguments, and the script
that it reads from an argument, a file or its input.
-/

namespace ClusterHarness.Machine.Shell.Session

/-! ## Reading a script while it is carried out -/

/-- The most bytes that are read at once. -/
def blockSize : Nat := 8192

/-- What is left of a script after its next commands, right or wrong. -/
def afterNext (r : Reader) : Reader :=
  match nextCommands.run { r with ranOut := false } with
  | .ok _ r => r
  | .error _ r => r

/-- Read on until the next commands of a script are all there. Says whether nothing follows. -/
def fill (descriptor : Nat) : Nat → Reader → Bool → Action (Reader × Bool)
  | 0, r, _ => return (r, true)
  | fuel + 1, r, ended => do
    if ended || !(afterNext r).ranOut then return (r, ended)
    match ← ask (.read descriptor blockSize) with
    | .error .interrupted =>
      noteSignals
      fill descriptor fuel r false
    | .error _ => return (r, true)
    | .ok bytes =>
      let more := (Octets.ofBytes bytes).filter (· != '\x00')
      fill descriptor fuel { r with input := r.input ++ more.map .char } bytes.isEmpty

/-- The characters at the start of the input of a reader. -/
def charactersOf (symbols : List Symbol) : Octets :=
  symbols.filterMap fun
    | .char c => some c
    | .aliasEnd .. => none

/-- The lines of a script that its next commands take, after so many characters that were taken
before, and how many characters of the last line are left. -/
def linesTaken (before after : Reader) (ahead : Nat) : Octets × Nat :=
  let all := charactersOf before.input
  let left := charactersOf after.input
  let taken := all.length - left.length
  if taken ≤ ahead then ([], ahead - taken)
  else
    let rest :=
      if (all.take taken).getLast? == some '\n' then []
      else
        let line := left.takeWhile (· != '\n')
        line ++ (left.drop line.length).take 1
    ((all.take taken).drop ahead ++ rest, rest.length)

/-- Carry out the commands that a descriptor yields. Of the input of the reader so many characters
belong to lines that were taken before. -/
def readAndRun (descriptor : Nat) : Nat → Reader → Bool → Nat → Action Unit
  | 0, _, _, _ => return
  | fuel + 1, r, ended, ahead => do
    let s ← get
    let (r, ended) ← fill descriptor Run.bound { r with aliases := s.aliases } ended
    let (lines, ahead) := linesTaken r (afterNext r) ahead
    if s.has 'v' then put 2 lines
    match ← Run.next r with
    | (.nothingLeft, _) => return
    | (.commands none, r) => readAndRun descriptor fuel r ended ahead
    | (.commands (some c), r) =>
      if (← Run.command {} c) = .next then readAndRun descriptor fuel r ended ahead

/-! ## The start -/

/-- The variables of a shell that was given an environment. -/
def initialVars (env : List Octets) (parent : Nat) : State :=
  let fixed (name : String) (value : Option String) : Variable :=
    { name := name.toList, value := value.map String.toList, fixed := true }
  let start : State := {
    vars := [fixed "IFS" (some " \t\n"), fixed "MAIL" none, fixed "MAILPATH" none,
      { fixed "PATH" none with value := some State.standardPath }, fixed "PS1" (some "# "),
      fixed "PS2" (some "> "), fixed "PS4" (some "+ "), fixed "OPTIND" (some "1")] }
  let set (name value : Octets) (exports : Bool) (s : State) : State :=
    s.putVariable (s.changed name fun v =>
      { v with value := some value, exported := v.exported || exports })
  let given := env.foldl (fun s line =>
    match assignment? line with
    | some (name, value) => set name value true s
    | none => s) start
  set "PPID".toList (Octets.ofNat parent) false
    (set "OPTIND".toList ['1'] false (set "IFS".toList [' ', '\t', '\n'] false given))

/-- Remember the directory: as the environment calls it if that is right. -/
def rememberDirectory : Action Unit := do
  let place : Location ← ask .currentDirectory
  let plain := Octets.ofText ("/" ++ "/".intercalate place)
  let directory : Octets ←
    match (← get).get? "PWD".toList with
    | some o =>
      if o.head? == some '/' then
        match ← ask (.inspect ⟨o.toText⟩) with
        | .ok status => pure (if status.place = place then o else plain)
        | .error _ => pure plain
      else pure plain
    | none => pure plain
  modify fun s => { s with directory }
  changeVariable "PWD".toList fun v => { v with value := some directory, exported := true }

/-- Read a script from a file, or from the input. -/
def fromDescriptor (descriptor : Nat) : Action Unit :=
  readAndRun descriptor Run.bound (.ofOctets []) false 0

/-- Carry out what the arguments ask for. -/
def start (args : List Octets) : Action Unit := do
  let given ← Options.read true args.length args false
  match given.script, given.rest with
  | true, [] => fail "-c requires an argument".toList
  | true, text :: rest =>
    if let name :: args := rest then modify fun s => { s with script := name, args }
    Options.settle
    let reads := (← get).has 's'
    let f ← Run.script Run.command { last := !reads } text
    if reads && f = .next then fromDescriptor 0
  | false, rest =>
    match rest, (← get).has 's' with
    | path :: args, false =>
      match ← ask (.openFile ⟨path.toText⟩ .read) with
      | .error e =>
        fail ("cannot open ".toList ++ path ++ ": ".toList ++ reasonOr "No such file" e)
      | .ok d =>
        let kept := (← ask (.save d)).toOption.getD d
        if kept != d then ask (.close d)
        modify fun s => { s with script := path, args }
        Options.settle
        fromDescriptor kept
    | args, _ =>
      modify fun s => { s.setOption 's' true with args }
      Options.settle
      fromDescriptor 0

/-- A shell with its arguments, the first of which is its name. -/
def session (args env : List Octets) : Program State Nat := do
  let identity ← Program.ask .identity
  let parent ← Program.ask .parent
  set { initialVars env parent with script := args.headD "sh".toList, identity }
  let r ← (do
    rememberDirectory
    start args.tail : Action Unit).run
  Run.leave Run.command r

def task (args env : List Octets) : Task := (session args env).toTask {}

end ClusterHarness.Machine.Shell.Session
