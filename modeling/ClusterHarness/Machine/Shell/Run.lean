import ClusterHarness.Machine.Shell.Builtin
import ClusterHarness.Machine.Shell.Redirection

/-!
# Running commands

What a shell does for each form of command. Everything here is told by `run` how to carry out a
smaller command; the last definitions tie the knot with bounds on commands inside each other and on
turns of loops.
-/

namespace ClusterHarness.Machine.Shell.Run

/-- The most commands of a script and turns of a loop. -/
def bound : Nat := 10000000

def setLine (line : Nat) : Action Unit := modify fun s => { s with line }

/-! ## Scripts -/

/-- Read the next commands of a script, or complain and stop. -/
def next (r : Reader) : Action (Grammar.Listed × Reader) := do
  let s ← get
  match nextCommands.run { r with aliases := s.aliases, documents := s.documents } with
  | .ok listed r =>
    set { s with documents := r.documents, lineRead := r.line }
    return (listed, r)
  | .error fault r =>
    set { s with line := r.line, documents := r.documents }
    fail ("Syntax error: ".toList ++ fault.message.toList)

/-- Whether a script was read to its end. -/
def atEnd (r : Reader) : Bool := r.again && r.token == .endOfFile

/-- Carry out the commands of a script one by one. The status is that of the last one, or zero. -/
def commands (run : Runner) (mode : Mode) : Nat → Reader → Nat → Action Flow
  | 0, _, status => do
    setStatus status
    return .next
  | fuel + 1, r, status => do
    match ← next r with
    | (.nothingLeft, _) =>
      setStatus status
      return .next
    | (.commands none, r) => commands run mode fuel r status
    | (.commands (some c), r) =>
      match ← run { mode with last := mode.last && atEnd r } c with
      | .next => commands run mode fuel r (← get).status
      | f => return f

/-- Carry out a text as a script. -/
def script (run : Runner) (mode : Mode) (source : Octets) : Action Flow := do
  let line := (← get).lineRead
  let f ← commands run mode bound (.ofOctets source) 0
  modify fun s => { s with lineRead := line }
  return f

/-! ## Traps -/

/-- Carry out the traps of the signals that were caught, by their numbers. -/
def traps (run : Runner) : Action Flow := do
  let s ← get
  if s.traps.all fun t => t.1 = 0 || t.2.isEmpty then return .next
  noteSignals
  let pending := (← get).pending.mergeSort
  let before := (← get).trappedStatus
  if pending.isEmpty then return .next
  let status := before.getD (← get).status
  modify fun s => { s with trappedStatus := some status, pending := [] }
  let f ← each status pending
  modify fun s => { s with trappedStatus := before }
  return f
where
  each (status : Nat) : List Nat → Action Flow
    | [] => return .next
    | signal :: rest => do
      match (← get).traps.lookup signal with
      | none => each status rest
      | some action =>
        let f ← script run {} action
        unless f = .finish true do setStatus status
        if f = .next then each status rest
        else
          modify fun s => { s with pending := rest }
          return f

/-! ## The end of a shell -/

/-- What is left to do when a shell ends, for the reason given: the trap for its end. Gives the
status that it ends with. -/
def leave (run : Runner) (why : Except Halt Unit) : Program State Nat := do
  let settle (r : Except Halt Unit) (kept : Option Nat) (always : Bool) : Program State Unit :=
    modify fun s =>
      match r, kept with
      | .error .exit, some n => { s with status := n, trappedStatus := none }
      | .ok (), some n =>
        { s with status := if always then n else s.status, trappedStatus := none }
      | _, _ => { s with trappedStatus := none }
  settle why (← get).trappedStatus false
  let s ← get
  match s.traps.lookup 0 with
  | none => return s.status
  | some action =>
    set { s with traps := s.traps.filter (·.1 != 0), trappedStatus := some s.status }
    let r ← (script run {} action).run
    settle (r.map fun _ => ()) (← get).trappedStatus true
    return (← get).status

/-- Split off a process that carries something out and ends. It starts without the traps and the
jobs of the shell. -/
def split (run : Runner) (a : Action Unit) : Action Nat :=
  ExceptT.lift (Program.fork do
    let r ← (do
      Trap.clear
      modify fun s => { s with jobs := [] }
      a : Action Unit).run
    leave run r)

/-- Split off a process that goes on as a program and keeps nothing of the shell. -/
def splitProgram (a : Action Unit) : Action Nat :=
  ExceptT.lift (Program.fork do
    let _ ← a.run
    return (← get).status)

/-- What a process in the background does before its command: it leaves the signals of the keyboard
to others and, if it is the first of its job, reads nothing. -/
def enterBackground (first : Bool) : Action Unit := do
  ask (.handle Signal.interrupt .ignore)
  ask (.handle Signal.quit .ignore)
  if first then
    ask (.close 0)
    let _ ← ask (.openFile ⟨"/dev/null"⟩ .read)

/-! ## Output of commands -/

/-- What a command prints, without the line feeds at its end. -/
def output (run : Runner) (c : Command) : Action Octets := do
  let (reader, writer) ← ask .pipe
  let child ← split run do
    ask (.close reader)
    if writer != 1 then
      let _ ← ask (.copy writer 1)
      ask (.close writer)
    let _ ← run { last := true } c
  ask (.close writer)
  let bytes ← readAll reader bound
  ask (.close reader)
  let before := (← get).status
  awaitAll [child]
  modify fun s => { s with outputStatus := s.status, status := before }
  let text := (Octets.ofBytes bytes).filter (· != '\x00')
  return (text.reverse.dropWhile (· == '\n')).reverse
where
  /-- Read to the end, however many signals arrive. -/
  readAll (descriptor : Nat) : Nat → Action Bytes
    | 0 => return []
    | turns + 1 => do
      match ← ask (.read descriptor 65536) with
      | .error .interrupted =>
        noteSignals
        readAll descriptor turns
      | .error _ => return []
      | .ok bytes =>
        if bytes.isEmpty then return []
        return bytes ++ (← readAll descriptor turns)

/-! ## Simple commands -/

/-- Expand words up to the first that becomes at least one. -/
def firstWords (out : Command → Action Octets) : List Word → Action (List Octets × List Word)
  | [] => return ([], [])
  | w :: rest => do
    match ← Expansion.fields out w with
    | [] => firstWords out rest
    | fields => return (fields, rest)

/-- A simple command whose name is known. -/
structure Invocation where
  /-- The words before the name. -/
  before : List Octets := []
  /-- The name and the words after it that are expanded. -/
  words : List Octets
  /-- The words that are not yet. -/
  rest : List Word
  found : Found
  /-- Whether the name at the very start is that of a special builtin, if it is a builtin. -/
  special : Option Bool := none
  /-- The directories to look for a program in, if not the search path. -/
  directories : Option Octets := none

/-- What the options of `command` ask for. -/
inductive CommandOptions where
  /-- To carry out the command that some words begin after others, perhaps looked for in the
  standard directories. -/
  | carryOut (before words : List Octets) (rest : List Word) (standard : Bool)
  | describe (words : List Octets) (rest : List Word)

/-- Read the options of `command`, of which all words so far are given. -/
def commandOptions (out : Command → Action Octets) :
    Nat → Bool → List Octets → List Octets → List Word → Action CommandOptions
  | 0, _, before, words, rest => return .describe (before ++ words) rest
  | fuel + 1, standard, before, words, rest => do
    match words, rest with
    | [], [] => return .describe before []
    | [], rest =>
      let (words, rest) ← firstWords out rest
      if words.isEmpty then return .describe before []
      commandOptions out fuel standard before words rest
    | ['-', '-'] :: w :: ws, rest =>
      return .carryOut (before ++ [['-', '-']]) (w :: ws) rest standard
    | [['-', '-']], rest =>
      let (words, rest) ← firstWords out rest
      if words.isEmpty then return .describe (before ++ [['-', '-']]) []
      return .carryOut (before ++ [['-', '-']]) words rest standard
    | ('-' :: c :: cs) :: ws, rest =>
      if (c :: cs).all (· == 'p') then
        commandOptions out fuel true (before ++ ['-' :: c :: cs]) ws rest
      else return .describe (before ++ words) rest
    | words, rest => return .carryOut before words rest standard

/-- Find out what the name of a command stands for, through any number of `command`s. -/
def resolve (out : Command → Action Octets) : Nat → Bool → Invocation → Action Invocation
  | 0, _, i => return i
  | fuel + 1, functions, i => do
    let name := i.words.headD []
    match find (← get) functions name with
    | .builtin name =>
      let i := { i with
        found := .builtin name, special := some (i.special.getD (isSpecialBuiltin name)) }
      if name != "command".toList then return i
      match ← commandOptions out bound false [name] i.words.tail i.rest with
      | .describe words rest => return { i with words, rest }
      | .carryOut before words rest standard =>
        resolve out fuel false { i with
          before := i.before ++ before
          words, rest
          directories := if standard then some State.standardPath else i.directories }
    | found => return { i with found }

/-- Expand the words that are left. -/
def finishWords (out : Command → Action Octets) (i : Invocation) : Action (List Octets) := do
  let assigns :=
    match i.found with
    | .builtin name => takesAssignments name
    | _ => false
  let more ← i.rest.mapM fun w => do
    if assigns && w.isAssignment then
      return [← Expansion.text out { assignment := true } w]
    Expansion.fields out w
  return i.words ++ more.flatten

/-- Set the variable that an assignment names: for the time of the command if `isLocal`, and
perhaps for other programs. -/
def assign (out : Command → Action Octets) (isLocal exports : Bool) (w : Word) :
    Action Octets := do
  let o ← Expansion.text out { assignment := true } w
  let (name, value) := Settings.split o
  if isLocal then
    unless isName name do failAt name "bad variable name"
    keep name
  changeVariable name fun v =>
    { v with value := some (value.getD []), exported := v.exported || isLocal || exports }
  return o

/-- Show a command that is about to be carried out. -/
def trace (out : Command → Action Octets) (assignments words : List Octets) : Action Unit := do
  let s ← get
  if s.has 'x' && !s.tracing then
    modify fun s => { s with tracing := true }
    let source := (s.get? "PS4".toList).getD []
    let mark ←
      match quotedText.run (.ofOctets source) with
      | .ok w _ =>
        tryCatch (Expansion.text out { quoted := true } w) fun h =>
          if h = .failure then return source else throw h
      | .error _ _ => pure source
    modify fun s => { s with tracing := false }
    put s.traceTo (mark ++ [' '].intercalate (assignments ++ words) ++ ['\n'])

/-- The most functions that are carried out inside each other. -/
def callLimit : Nat := 1000

/-- Carry out a function with arguments of its own. -/
def call (run : Runner) (mode : Mode) (body : Command) (args : List Octets) : Action Flow := do
  let s ← get
  if callLimit ≤ s.depth then
    fail s!"Maximum function recursion depth ({callLimit}) reached".toList
  set { s with args, optionIndex := 1, optionOffset := none, loops := 0, depth := s.depth + 1 }
  let restore : Action Unit := modify fun t =>
    { t with
      args := s.args, optionIndex := s.optionIndex, optionOffset := s.optionOffset
      loops := s.loops, depth := s.depth }
  let f ← tryCatch (keeping (run { tested := mode.tested } body)) fun h => do
    restore
    throw h
  restore
  return match f with
    | .finish _ => .next
    | f => f

/-- Carry out what is in a file. -/
def source (run : Runner) (path : Octets) : Action Flow := do
  let cannotOpen (e : IoError) : Action Octets :=
    fail ("cannot open ".toList ++ path ++ ": ".toList ++ reasonOr "No such file" e)
  let readFile (path : Octets) : Action Octets := do
    match ← ask (.openFile ⟨path.toText⟩ .read) with
    | .error e => cannotOpen e
    | .ok d =>
      let bytes ← output.readAll d bound
      ask (.close d)
      return Octets.ofBytes bytes
  let place ←
    if path.contains '/' then pure path
    else firstFile ((candidates (← get).searchPath path))
  let content ← readFile place
  modify fun s => { s with builtin := some place }
  match ← script run {} content with
  | .finish _ => return .next
  | f => return f
where
  firstFile : List Octets → Action Octets
    | [] => failAt path "not found"
    | p :: rest => do
      match ← ask (.inspect ⟨p.toText⟩) with
      | .ok { kind := .file .., .. } => return p
      | _ => firstFile rest

/-- Carry out a builtin: one that changes where the script goes on or carries out commands itself,
or any other. -/
def builtin (run : Runner) (mode : Mode) (name : Octets) (args : List Octets) : Action Flow := do
  let levels : Action Nat := do
    let loops := (← get).loops
    match args with
    | [] => return min 1 loops
    | a :: _ =>
      let n ← number a
      if n = 0 then badNumber a
      return min n loops
  let escape (again : Bool) : Action Flow := do
    let n ← levels
    setStatus 0
    return if n = 0 then .next else .leave n again
  match String.ofList name with
  | "break" => escape false
  | "continue" => escape true
  | "return" =>
    match args with
    | [] => return .finish false
    | a :: _ =>
      setStatus (← number a)
      return .finish true
  | "exit" =>
    if let a :: _ := args then
      let n ← number a
      modify fun s => { s with trappedStatus := some n }
    throw .exit
  | "eval" =>
    if args.isEmpty then
      setStatus 0
      return .next
    script run { tested := mode.tested } ([' '].intercalate args)
  | "." =>
    match ← Options.operands args with
    | [] =>
      setStatus 0
      return .next
    | path :: _ => source run path
  | "exec" =>
    match args with
    | [] =>
      setStatus 0
      return .next
    | name :: args =>
      let directories := (← get).searchPath
      execute name args (if name.contains '/' then [name] else candidates directories name)
      return .next
  | _ =>
    setStatus (← Builtin.carryOut name args)
    return .next

/-- Carry out a builtin under its name. An error ends the script only where it must: after a
`special` builtin. -/
def named (run : Runner) (mode : Mode) (special : Bool) (name : Octets) (args : List Octets) :
    Action Flow := do
  let s ← get
  set { s with builtin := some name, outputFailed := false }
  let finish : Action Unit := modify fun t =>
    { t with builtin := s.builtin, outputFailed := false, lineRead := s.lineRead }
  tryCatch
    (do
      let f ← builtin run mode name args
      let t ← get
      if t.outputFailed then
        complain (name ++ ": I/O error".toList)
        setStatus (if t.status % 2 = 0 then t.status + 1 else t.status)
      finish
      return f)
    fun h => do
      finish
      if h = .failure && !special then
        unwind s.locals.length
        modify fun t => { t with loops := s.loops }
        return .next
      throw h

/-- Carry out a program. Where nothing is left to do the shell becomes it. -/
def program (mode : Mode) (directories : Option Octets) (name : Octets) (args : List Octets) :
    Action Unit := do
  match ← locate directories name with
  | .error e =>
    complainOf name e
    setStatus 127
  | .ok found =>
    let paths ← pathsFrom directories name found
    let hasTraps := (← get).traps.any fun t => !t.2.isEmpty
    if mode.last && !hasTraps then execute name args paths
    else awaitAll [← splitProgram (execute name args paths)]

/-- A simple command. -/
def simple (run : Runner) (mode : Mode) (line : Nat) (assignments words : List Word)
    (redirections : List Redirection) : Action Flow := do
  let out := output run
  modify fun s => { s with line, outputStatus := 0 }
  let (first, rest) ← firstWords out words
  let i ←
    if first.isEmpty then pure ({ words := [], rest := [], found := .elsewhere } : Invocation)
    else resolve out bound true { words := first, rest, found := .elsewhere }
  let words ← finishWords out i
  let executes :=
    match i.found with
    | .builtin name => name == "exec".toList
    | _ => false
  let isSpecial := i.special == some true
  let isLocal := !words.isEmpty && !isSpecial
  let targets ← redirections.mapM (Redirection.target out)
  let body : Action Flow := do
    let os ← assignments.mapM (assign out isLocal (executes && 1 < words.length))
    trace out os (i.before ++ words)
    match words, i.found with
    | [], _ =>
      setStatus (← get).outputStatus
      return .next
    | name :: args, .builtin _ => named run mode isSpecial name args
    | _ :: args, .function body => call run mode body args
    | name :: args, .elsewhere =>
      program mode i.directories name args
      return .next
  let keepsVariables := isLocal && !assignments.isEmpty
  match ← Redirection.within out executes targets
      (if keepsVariables then keeping body else body) with
  | some f => return f
  | none =>
    if isSpecial then throw .failure
    return .next

/-! ## Compound commands -/

/-- Carry out the parts of a pipeline, each in a process of its own, of which the first reads from a
descriptor if there is one. -/
def pipeline (run : Runner) (mode : Mode) (background : Bool) :
    Bool → Option Nat → List Command → Action (List Nat)
  | _, _, [] => return []
  | isFirst, input, c :: cs => do
    if let .simple _ _ (w :: _) _ := c then
      if let some name := Word.plain? w then
        if name.all isNameChar && !(name.headD '0').isDigit then
          if let .elsewhere := find (← get) true name then
            let _ ← locate none name
    let ends ← if cs.isEmpty then pure none else do pure (some (← ask .pipe))
    let child ← split run do
      if background then enterBackground isFirst
      if let some (reader, _) := ends then ask (.close reader)
      if let some d := input then
        if d != 0 then
          let _ ← ask (.copy d 0)
          ask (.close d)
      if let some (_, writer) := ends then
        if writer != 1 then
          let _ ← ask (.copy writer 1)
          ask (.close writer)
      let _ ← run { mode with last := true } c
    if let some d := input then ask (.close d)
    if let some (_, writer) := ends then ask (.close writer)
    let children ← pipeline run mode background false (ends.map (·.1)) cs
    return child :: children

/-- Wait for processes, or put them on the list of jobs. -/
def settle (background : Bool) (processes : List Nat) : Action Unit := do
  if background then
    Jobs.add processes
    setStatus 0
  else
    setStatus 0
    awaitAll processes

/-- Carry out a command in a process of its own. -/
def subshell (run : Runner) (mode : Mode) (background : Bool) (line : Nat)
    (body : Option Command) (redirections : List Redirection) : Action Flow := do
  setLine line
  let out := output run
  let targets ← redirections.mapM (Redirection.target out)
  let hasTraps := (← get).traps.any fun t => !t.2.isEmpty
  let work (mode : Mode) : Action Unit := do
    Redirection.redirect out targets
    if let some c := body then
      let _ ← run { mode with last := true } c
  if !background && mode.last && !hasTraps then
    work mode
    throw .finished
  let child ← split run do
    if background then enterBackground true
    work (if background then {} else mode)
  settle background [child]
  return .next

/-- Where a loop goes on after its condition or its body: at the next turn, or not. -/
def afterTurn : Flow → Except Flow Bool
  | .next => .ok false
  | .leave 0 _ => .ok true
  | .leave 1 true => .ok true
  | .leave 1 false => .error .next
  | .leave (n + 1) again => .error (.leave n again)
  | .finish told => .error (.finish told)

/-- How long a turn of a loop takes. -/
def turnTime : Duration := ⟨2000⟩

/-- The turns of a loop, of which the last one had a status. -/
def loop (run : Runner) (mode : Mode) (untilHolds : Bool) (condition body : Option Command) :
    Nat → Nat → Action Flow
  | 0, status => do
    setStatus status
    return .next
  | turns + 1, status => do
    ask (.sleep turnTime)
    let part (mode : Mode) (c : Option Command) : Action Flow :=
      match c with
      | some c => run mode c
      | none => return .next
    match afterTurn (← part { tested := true } condition) with
    | .error f =>
      unless f matches .finish _ do setStatus status
      return f
    | .ok true => loop run mode untilHolds condition body turns status
    | .ok false =>
      if ((← get).status == 0) == untilHolds then
        setStatus status
        return .next
      match afterTurn (← part { tested := mode.tested } body) with
      | .error f => return f
      | .ok _ => loop run mode untilHolds condition body turns (← get).status

/-- The turns of a loop over words. -/
def each (run : Runner) (mode : Mode) (name : Octets) (body : Option Command) :
    List Octets → Action Flow
  | [] => return .next
  | w :: ws => do
    setVariable name w
    let f ←
      match body with
      | some c => run { tested := mode.tested } c
      | none => pure .next
    match afterTurn f with
    | .error f => return f
    | .ok _ => each run mode name body ws

/-- Carry out the turns of a loop with one more loop around what is carried out. -/
def looping (a : Action Flow) : Action Flow := do
  modify fun s => { s with loops := s.loops + 1 }
  let f ← a
  modify fun s => { s with loops := s.loops - 1 }
  return f

/-- The body of the first arm of which a pattern covers a word. -/
def select (out : Command → Action Octets) (word : Octets) :
    List (List Word × Option Command) → Action (Option Command)
  | [] => return none
  | (patterns, body) :: arms => do
    if ← patterns.anyM fun p => do return (← Expansion.pattern out p).covers word then return body
    select out word arms

/-- Carry out a command apart from traps, and say whether its failure may end the shell. -/
def step (run : Runner) (mode : Mode) (c : Command) : Action (Flow × Bool) := do
  let inner : Mode := { tested := mode.tested }
  let optional (mode : Mode) (c : Option Command) : Action Flow :=
    match c with
    | some c => run mode c
    | none => do
      setStatus 0
      return .next
  let plain (a : Action Flow) : Action (Flow × Bool) := return (← a, false)
  match c with
  | .simple line assignments words redirections =>
    return (← simple run mode line assignments words redirections, true)
  | .pipeline parts background =>
    settle background (← pipeline run mode background true none parts)
    return (.next, true)
  | .background line body redirections =>
    return (← subshell run mode true line (some body) redirections, true)
  | .subshell line body redirections =>
    return (← subshell run mode false line body redirections, true)
  | .redirected line body redirections =>
    setLine line
    let targets ← redirections.mapM (Redirection.target (output run))
    match ← Redirection.within (output run) false targets (optional inner body) with
    | some f => return (f, false)
    | none => return (.next, true)
  | .sequence first second => plain do
    match ← run inner first with
    | .next => run mode second
    | f => return f
  | .conjunction first second => plain do
    match ← run { tested := true } first with
    | .next => if (← get).status = 0 then run mode second else return .next
    | f => return f
  | .disjunction first second => plain do
    match ← run { tested := true } first with
    | .next => if (← get).status = 0 then return .next else run mode second
    | f => return f
  | .negation body => plain do
    let f ← run { tested := true } body
    if f = .next then setStatus (if (← get).status = 0 then 1 else 0)
    return f
  | .choice condition yes no => plain do
    match ← optional { tested := true } condition with
    | .next => optional mode (if (← get).status = 0 then yes else no)
    | f => return f
  | .loop untilHolds condition body =>
    plain (looping (loop run mode untilHolds condition body bound 0))
  | .forEach line name words body => plain do
    setLine line
    let words ←
      match words with
      | none => pure (← get).args
      | some ws => Expansion.allFields (output run) ws
    if words.isEmpty then setStatus 0
    looping (each run mode name body words)
  | .select line word arms => plain do
    setLine line
    let out := output run
    let word ← Expansion.text out {} word
    match ← select out word arms with
    | some body => run mode body
    | none =>
      setStatus 0
      return .next
  | .define name body =>
    modify fun s =>
      { s with
        functions := (name, body) :: s.functions.filter (·.1 != name)
        status := 0 }
    return (.next, false)

/-- Carry out a command and the traps of signals that arrive before and after it. -/
def whole (run : Runner) (mode : Mode) (c : Command) : Action Flow := do
  let early ← traps run
  if (← get).has 'n' then
    if mode.last then throw .finished
    return early
  let (f, strict) ← step run mode c
  let status := (← get).status
  let f := if f = .next then early else f
  let late ← if f = .next then traps run else pure f
  if strict && (← get).has 'e' && !mode.tested && status != 0 then throw .finished
  if mode.last then throw .finished
  return late

/-- The most commands inside each other. -/
def depthLimit : Nat := 100000

/-- Carry out a command with at most so many commands inside each other. -/
def nested : Nat → Runner
  | 0, _, _ => throw .finished
  | depth + 1, mode, c => whole (nested depth) mode c

def command : Runner := nested depthLimit

end ClusterHarness.Machine.Shell.Run
