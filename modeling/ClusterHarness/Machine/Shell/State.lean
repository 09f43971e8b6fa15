import ClusterHarness.Machine.Shell.Command
import ClusterHarness.Machine.Task

/-!
# The state of a shell

What a shell remembers between commands: variables, arguments, functions, options, traps, and how
the last command ended.
-/

namespace ClusterHarness.Machine.Shell

structure Variable where
  name : Octets
  /-- A variable may have properties and no value. -/
  value : Option Octets := none
  /-- Whether programs that the shell starts are given it. -/
  exported : Bool := false
  constant : Bool := false
  /-- Whether its properties outlive its value. -/
  fixed : Bool := false
deriving DecidableEq, Repr, Inhabited

/-- What is put back after a function or a command. -/
inductive Saved where
  | variable (name : Octets) (before : Option Variable)
  | options (letters : List Char)
deriving Repr

/-- A job in the background. -/
structure BackgroundJob where
  number : Nat
  processes : List Nat
  /-- The processes that are not known to have ended. -/
  left : List Nat
  /-- How its last process ended, once all have. -/
  ended : WaitStatus := .exited 0
  /-- Whether the script has been told how it ended. -/
  waited : Bool := false
deriving Repr, Inhabited

structure State where
  vars : List Variable := []
  options : List Char := []
  /-- The name by which the script was started. -/
  script : Octets := []
  /-- The line that complaints show. -/
  line : Nat := 0
  /-- The line up to which the script was read. -/
  lineRead : Nat := 1
  /-- The builtin that is carried out. -/
  builtin : Option Octets := none
  /-- Whether the builtin that is carried out could not write all that it had to. -/
  outputFailed : Bool := false
  args : List Octets := []
  /-- The argument that options are looked for in next, and how much of it was looked at. -/
  optionIndex : Nat := 1
  optionOffset : Option Nat := none
  status : Nat := 0
  /-- How the command ended that was carried out before a trap. -/
  trappedStatus : Option Nat := none
  /-- How the last command ended whose output was read. -/
  outputStatus : Nat := 0
  functions : List (Octets × Command) := []
  aliases : List (Octets × Octets) := []
  traps : List (Nat × Octets) := []
  /-- Signals that were caught and whose traps were not carried out yet. -/
  pending : List Nat := []
  /-- What programs were found by their names. -/
  tracked : List (Octets × Octets) := []
  documents : Array Word := #[]
  /-- What is put back after each function and command that is carried out, the innermost first. -/
  locals : List (List Saved) := []
  loops : Nat := 0
  /-- How many functions are carried out inside each other. -/
  depth : Nat := 0
  /-- The directory as scripts see it. -/
  directory : Octets := []
  mask : Nat := 18
  /-- The process of the shell that runs the script. -/
  identity : Nat := 0
  /-- The last process in the background. -/
  lastProcess : Option Nat := none
  /-- Jobs in the background, the latest first. -/
  jobs : List BackgroundJob := []
  /-- Where complaints went before the present redirections. -/
  traceTo : Nat := 2
  tracing : Bool := false
deriving Inhabited

/-- Why a shell stops what it does. -/
inductive Halt where
  /-- It complained of an error. -/
  | failure
  /-- It was told to end. -/
  | exit
  /-- Nothing is left to do, or a command failed that may not. -/
  | finished
deriving DecidableEq, Repr

/-- What a shell does. -/
abbrev Action := ExceptT Halt (Program State)

/-- Where a script goes on after a command. -/
inductive Flow where
  | next
  /-- Behind the loop that many levels out, or with `again` at its next turn. -/
  | leave (levels : Nat) (again : Bool)
  /-- Behind the function or the script that is carried out. With `told` its status was given. -/
  | finish (told : Bool)
deriving DecidableEq, Repr, Inhabited

/-- How a command is carried out. -/
structure Mode where
  /-- Something asks how it ends, so that it may fail. -/
  tested : Bool := false
  /-- Nothing is left to do after it. -/
  last : Bool := false
deriving DecidableEq, Repr, Inhabited

/-- What carries out commands. -/
abbrev Runner := Mode → Command → Action Flow

/-- Put a request. -/
def ask (r : Request) : Action r.Answer := ExceptT.lift (Program.ask r)

/-- Write to a descriptor, whether or not that succeeds. -/
def put (descriptor : Nat) (o : Octets) : Action Unit := ExceptT.lift (Program.put descriptor o)

/-- The most bytes that a builtin prints before some are written. -/
def bufferSize : Nat := 8192

/-- What is written at once of pieces that are printed, after some that were kept back: the latest
of those first, and how many bytes they are. -/
def gather (kept : List Octets) (size : Nat) : List Octets → List Octets
  | [] => whole
  | o :: rest =>
    if size + o.length ≤ bufferSize then gather (o :: kept) (size + o.length) rest
    else if o.length < bufferSize then whole ++ gather [o] o.length rest
    else whole ++ o :: gather [] 0 rest
where
  whole : List Octets := if size = 0 then [] else [kept.reverse.flatten]

/-- Write what a builtin prints. -/
def printPieces (pieces : List Octets) : Action Unit :=
  (gather [] 0 pieces).forM fun o => do
    if let .error _ ← ask (.write 1 o.toBytes) then
      modify fun s => { s with outputFailed := true }

/-- Write what a builtin prints in one piece. -/
def print (o : Octets) : Action Unit := printPieces [o]

instance {α : Type} : Inhabited (Action α) := ⟨throw .finished⟩

namespace State

/-! ## Options -/

/-- The names of the options, with their letters. The last two have none, and controls in their
places. -/
def optionNames : List (String × Char) :=
  [("errexit", 'e'), ("noglob", 'f'), ("ignoreeof", 'I'), ("interactive", 'i'), ("monitor", 'm'),
    ("noexec", 'n'), ("stdin", 's'), ("xtrace", 'x'), ("verbose", 'v'), ("vi", 'V'),
    ("emacs", 'E'), ("noclobber", 'C'), ("allexport", 'a'), ("notify", 'b'), ("nounset", 'u'),
    ("privileged", 'p'), ("nolog", '\x01'), ("debug", '\x02')]

def has (s : State) (option : Char) : Bool := s.options.contains option

def setOption (s : State) (option : Char) (on : Bool) : State :=
  let rest := s.options.filter (· != option)
  { s with options := if on then option :: rest else rest }

/-- The letters of the options that are on. -/
def optionLetters (s : State) : Octets :=
  ((optionNames.map (·.2)).filter (·.isAlpha)).reverse.filter s.has

/-! ## Variables -/

def setting? (s : State) (name : Octets) : Option Variable := s.vars.find? (·.name == name)

/-- The value of a variable. -/
def get? (s : State) (name : Octets) : Option Octets := (s.setting? name).bind (·.value)

/-- Put a variable in the place of the one with its name, or after all others. -/
def putVariable (s : State) (v : Variable) : State :=
  let vars :=
    if s.vars.any (·.name == v.name) then
      s.vars.map fun w => if w.name == v.name then v else w
    else s.vars ++ [v]
  { s with vars }

def removeVariable (s : State) (name : Octets) : State :=
  { s with vars := s.vars.filter (·.name != name) }

/-- The variable that a name and a change of its properties give. -/
def changed (s : State) (name : Octets) (f : Variable → Variable) : Variable :=
  f ((s.setting? name).getD { name })

/-- The place of a variable among those that programs are given. -/
def slot (name : Octets) : Nat :=
  (name.foldl (fun n c => n + c.toNat) ((name.headD '\x00').toNat * 16)) % 39

/-- The environment of the programs that the shell starts. -/
def environment (s : State) : List Octets :=
  let given := s.vars.filter fun v => v.exported && v.value.isSome
  let sorted := given.mergeSort fun a b => slot a.name ≤ slot b.name
  sorted.map fun v => v.name ++ '=' :: v.value.getD []

/-- The characters that separate the words in a value. -/
def separators (s : State) : Octets := (s.get? "IFS".toList).getD [' ', '\t', '\n']

/-- The directories in which programs are looked for at first. -/
def standardPath : Octets :=
  "/usr/local/sbin:/usr/local/bin:/usr/sbin:/usr/bin:/sbin:/bin".toList

def searchPath (s : State) : Octets := (s.get? "PATH".toList).getD []

end State

/-- Take note of the signals that were caught. -/
def noteSignals : Action Unit := do
  let caught ← ask .signals
  modify fun s => { s with pending := s.pending ++ caught.filter (!s.pending.contains ·) }

/-! ## Complaints -/

/-- Write a line to standard error, after the name of the script, the line and the builtin. -/
def complain (text : Octets) : Action Unit := do
  let s ← get
  let builtin := match s.builtin with
    | some o => o ++ ": ".toList
    | none => []
  put 2 (s.script ++ ": ".toList ++ Octets.ofNat s.line ++ ": ".toList ++ builtin ++ text ++ ['\n'])

def setStatus (status : Nat) : Action Unit := modify fun s => { s with status }

/-- Complain and stop. -/
def fail {α : Type} (text : Octets) : Action α := do
  setStatus 2
  complain text
  throw .failure

/-- Complain of an operand and stop. -/
def failAt {α : Type} (operand : Octets) (text : String) : Action α :=
  fail (operand ++ ": ".toList ++ text.toList)

def badNumber {α : Type} (o : Octets) : Action α := fail ("Illegal number: ".toList ++ o)

/-- The number that an operand is, which has at most 31 bits. -/
def number (o : Octets) : Action Nat :=
  match Octets.toInt? 10 o with
  | some n => if 0 ≤ n && n < Nat.pow 2 31 then return n.toNat else badNumber o
  | none => badNumber o

/-- The words for a failure, where `missing` says that something is not there. -/
def reasonOr (missing : String) (e : IoError) : Octets :=
  if e = .notFound || e = .notADirectory then missing.toList else e.words.toList

/-! ## Setting variables -/

/-- Change a variable that may be changed. -/
def changeVariable (name : Octets) (f : Variable → Variable) : Action Unit := do
  unless isName name do failAt name "bad variable name"
  let s ← get
  if (s.setting? name).any (·.constant) then failAt name "is read only"
  let v := s.changed name f
  let v := if s.has 'a' then { v with exported := true } else v
  let s := s.putVariable v
  if name == "PATH".toList then set { s with tracked := [] }
  else if name == "OPTIND".toList then
    let n ← number (v.value.getD [])
    set { s with optionIndex := max n 1, optionOffset := none }
  else set s

/-- The name of the variable that a word is about: a value in the word does not count. -/
def nameIn (o : Octets) : Octets := o.takeWhile (· != '=')

def setVariable (name value : Octets) : Action Unit :=
  changeVariable (nameIn name) fun v => { v with value := some value }

/-- Remove a variable and its properties. -/
def unsetVariable (word : Octets) : Action Unit := do
  let name := nameIn word
  unless isName name do failAt name "bad variable name"
  let s ← get
  match s.setting? name with
  | none => set (s.removeVariable name)
  | some v =>
    if v.constant then failAt name "is read only"
    let s := if v.fixed then s.putVariable { v with value := none } else s.removeVariable name
    set (if name == "PATH".toList then { s with tracked := [] } else s)

/-- Keep a variable until the end of the present function or command. -/
def keep (name : Octets) : Action Unit :=
  modify fun s =>
    match s.locals with
    | frame :: frames =>
      { s with locals := (.variable name (s.setting? name) :: frame) :: frames }
    | [] => s

/-- Put back what was kept. -/
def State.restore (s : State) (saved : Saved) : State :=
  let forget (name : Octets) (s : State) : State :=
    if name == "PATH".toList then { s with tracked := [] } else s
  match saved with
  | .options letters => { s with options := letters }
  | .variable name (some v) => forget name (s.putVariable v)
  | .variable name none => forget name (s.removeVariable name)

/-- Put back what was kept since there were so many functions and commands around. -/
def unwind (depth : Nat) : Action Unit :=
  modify fun s =>
    let (inner, outer) := s.locals.splitAt (s.locals.length - depth)
    { inner.flatten.foldl State.restore s with locals := outer }

/-- Carry out `a`, and put back what was kept meanwhile. If `a` halts, whoever goes on does
so. -/
def keeping {α : Type} (a : Action α) : Action α := do
  let depth := (← get).locals.length
  modify fun s => { s with locals := [] :: s.locals }
  let r ← a
  unwind depth
  return r

/-! ## Lists of values -/

/-- A text between single quotes, where a single quote stands between double quotes. -/
def quote (o : Octets) : Octets :=
  go (o.length + 1) o
where
  go : Nat → Octets → Octets
    | 0, _ => []
    | fuel + 1, o =>
      let plain := o.takeWhile (· != '\'')
      let rest := o.drop plain.length
      let quotes := rest.takeWhile (· == '\'')
      let rest := rest.drop quotes.length
      let here := '\'' :: plain ++ ['\''] ++
        if quotes.isEmpty then [] else '"' :: quotes ++ ['"']
      if rest.isEmpty then here else here ++ go fuel rest

/-- Print variables, sorted, after a word each. -/
def listVariables (word : Octets) (vs : List Variable) : Action Unit := do
  let sorted := vs.mergeSort fun a b => !decide (b.name < a.name)
  let line (v : Variable) : Octets :=
    (if word.isEmpty then [] else word ++ [' ']) ++ v.name ++
      (match v.value with
        | some value => '=' :: quote value
        | none => []) ++ ['\n']
  print (sorted.flatMap line)

end ClusterHarness.Machine.Shell
