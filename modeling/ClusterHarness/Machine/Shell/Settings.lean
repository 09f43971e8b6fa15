import ClusterHarness.Machine.Shell.Field
import ClusterHarness.Machine.Shell.Options

/-!
# Settings

The builtins that change what a shell remembers: variables and their properties, arguments, options
and aliases, and the one that reads a line into variables.
-/

namespace ClusterHarness.Machine.Shell.Settings

/-- A name and the value after an equals sign. -/
def split (o : Octets) : Octets × Option Octets :=
  let name := o.takeWhile (· != '=')
  (name, if name.length < o.length then some (o.drop (name.length + 1)) else none)

/-- A change of a variable that may give it a value. -/
def given (value : Option Octets) (v : Variable) : Variable := { v with value := value.or v.value }

/-- Export variables or make them constant, or list those that are. -/
def declare (word : String) (args : List Octets) : Action Nat := do
  let (found, words) ← Options.split ['p'] args
  let constant := word == "readonly"
  if !found.isEmpty || words.isEmpty then
    let vs := (← get).vars.filter fun v => if constant then v.constant else v.exported
    listVariables word.toList vs
  else
    words.forM fun w => do
      let (name, value) := split w
      let f (v : Variable) : Variable :=
        let v := given value v
        if constant then { v with constant } else { v with exported := true }
      match value, (← get).setting? name with
      | none, some v => modify (·.putVariable (f v))
      | _, _ => changeVariable name f
  return 0

/-- Let variables, or the options, be put back at the end of the present function. -/
def localize (args : List Octets) : Action Nat := do
  if (← get).locals.isEmpty then fail "not in a function".toList
  args.forM fun a => do
    if a == ['-'] then
      modify fun s =>
        match s.locals with
        | frame :: frames => { s with locals := (.options s.options :: frame) :: frames }
        | [] => s
    else
      let (name, value) := split a
      match value, (← get).setting? name with
      | none, some _ => keep name
      | value, _ =>
        unless isName name do failAt name "bad variable name"
        keep name
        changeVariable name (given value)
  return 0

def unset (args : List Octets) : Action Nat := do
  let (found, words) ← Options.split "vf".toList args
  let functions := (found.getLast?.map (·.1)) == some 'f'
  words.forM fun w =>
    if functions then modify fun s => { s with functions := s.functions.filter (·.1 != w) }
    else unsetVariable w
  return 0

/-! ## Arguments and options -/

def setArguments (args : List Octets) : Action Unit :=
  modify fun s => { s with args, optionIndex := 1, optionOffset := none }

/-- Set options and arguments, or list the variables. -/
def configure (args : List Octets) : Action Nat := do
  if args.isEmpty then
    listVariables [] ((← get).vars.filter (·.value.isSome))
    return 0
  let given ← Options.read false args.length args false
  if given.minus then
    modify fun s => (s.setOption 'x' false).setOption 'v' false
  Options.settle
  if given.ended || !given.rest.isEmpty then setArguments given.rest
  return 0

def shift (args : List Octets) : Action Nat := do
  let n ←
    match args with
    | [] => pure 1
    | a :: _ => number a
  let s ← get
  if s.args.length < n then fail "can't shift that many".toList
  setArguments (s.args.drop n)
  return 0

/-- Look for the next option among some words. The status says whether there was none. -/
def nextOption (allowed name : Octets) (words : List Octets) : Action Nat := do
  let s ← get
  let (index, offset) :=
    if words.length + 1 < s.optionIndex then (1, none) else (s.optionIndex, s.optionOffset)
  let silent := allowed.head? == some ':'
  let rest : Octets :=
    match offset with
    | some n => if index ≤ 1 then [] else ((words[index - 2]?).getD []).drop n
    | none => []
  let finish (c : Char) (index : Nat) (offset : Option Nat) (status : Nat) : Action Nat := do
    setVariable "OPTIND".toList (Octets.ofNat index)
    setVariable name [c]
    modify fun s => { s with optionIndex := index, optionOffset := offset }
    return status
  let wrong (c shown : Char) (text : Octets) (index : Nat) (offset : Option Nat) : Action Nat := do
    if silent then setVariable "OPTARG".toList [c]
    else
      put 2 (text ++ ['\n'])
      unsetVariable "OPTARG".toList
    finish shown index offset 0
  let look (index : Nat) (c : Char) (cs : Octets) : Action Nat := do
    let here := some (((words[index - 2]?).getD []).length - cs.length)
    match takesArgument? c (if silent then allowed.tail else allowed) with
    | none => wrong c '?' ("Illegal option -".toList ++ [c]) index here
    | some false =>
      setVariable "OPTARG".toList []
      finish c index here 0
    | some true =>
      match cs, words[index - 1]? with
      | [], none =>
        wrong c (if silent then ':' else '?') ("No arg for -".toList ++ c :: " option".toList)
          index here
      | [], some o =>
        setVariable "OPTARG".toList o
        finish c (index + 1) none 0
      | cs, _ =>
        setVariable "OPTARG".toList cs
        finish c index none 0
  match rest with
  | c :: cs => look index c cs
  | [] =>
    match words[index - 1]? with
    | some ['-', '-'] => finish '?' (index + 1) none 1
    | some ('-' :: c :: cs) => look (index + 1) c cs
    | _ => finish '?' index none 1

def getOption (args : List Octets) : Action Nat := do
  match args with
  | [allowed, name] => nextOption allowed name (← get).args
  | allowed :: name :: words => nextOption allowed name words
  | _ => fail "Usage: getopts optstring var [arg...]".toList

/-! ## Reading a line -/

/-- The most bytes of a line. -/
def lineLimit : Nat := 100000000

/-- Read a line as regions, of which those after a backslash are not split. Without `raw` a
backslash quotes a character and joins lines. Says whether the line ended. -/
def readLine (raw : Bool) : Nat → Bool → List Cell → Action (List Region × Bool)
  | 0, _, cells => return ([⟨cells.reverse, .atSeparators⟩], false)
  | fuel + 1, escaped, cells => do
    let here : Region := ⟨cells.reverse, .atSeparators⟩
    match ← ask (.read 0 1) with
    | .error e =>
      if e = .interrupted then noteSignals
      return ([here], false)
    | .ok bytes =>
      match Octets.ofBytes bytes with
      | [] => return ([here], false)
      | c :: _ =>
        if c == '\x00' then readLine raw fuel escaped cells
        else if escaped then
          let (more, ended) ← readLine raw fuel false []
          if c == '\n' then return (here :: more, ended)
          return (here :: ⟨[.ofChar true c], .nowhere⟩ :: more, ended)
        else if c == '\\' && !raw then readLine raw fuel true cells
        else if c == '\n' then return ([here], true)
        else readLine raw fuel false (.ofChar false c :: cells)

def readVariables (args : List Octets) : Action Nat := do
  let (found, names) ← Options.split "p:r".toList args
  if names.isEmpty then fail "arg count".toList
  let (regions, ended) ← readLine (found.any (·.1 == 'r')) lineLimit false []
  let fields := Field.split (← get).separators (some names.length) regions
  let texts := fields.map Cell.octets
  (names.zip (texts ++ List.replicate names.length [])).forM fun (name, o) => setVariable name o
  return if ended then 0 else 1

/-! ## Aliases -/

def showAlias (a : Octets × Octets) : Octets := a.1 ++ '=' :: quote a.2 ++ ['\n']

/-- Set aliases, or print them. -/
def setAliases (args : List Octets) : Action Nat := do
  if args.isEmpty then
    let sorted := (← get).aliases.mergeSort fun a b => State.slot a.1 ≤ State.slot b.1
    print (sorted.flatMap showAlias)
    return 0
  let statuses ← args.mapM fun a => do
    let s ← get
    match a with
    | [] => missing a
    | c :: cs =>
      let name := c :: cs.takeWhile (· != '=')
      if name.length < a.length then
        let text := a.drop (name.length + 1)
        let aliases :=
          if s.aliases.any (·.1 == name) then
            s.aliases.map fun e => if e.1 == name then (name, text) else e
          else s.aliases ++ [(name, text)]
        set { s with aliases }
        return 0
      else
        match s.aliases.lookup a with
        | some text =>
          print (showAlias (a, text))
          return 0
        | none => missing a
  return if statuses.all (· == 0) then 0 else 1
where
  missing (a : Octets) : Action Nat := do
    put 2 ("alias: ".toList ++ a ++ " not found\n".toList)
    return 1

def removeAliases (args : List Octets) : Action Nat := do
  let (found, names) ← Options.split ['a'] args
  if !found.isEmpty then
    modify fun s => { s with aliases := [] }
    return 0
  let statuses ← names.mapM fun name => do
    let s ← get
    if (s.aliases.lookup name).isSome then
      set { s with aliases := s.aliases.filter (·.1 != name) }
      return 0
    put 2 ("unalias: ".toList ++ name ++ " not found\n".toList)
    return 1
  return if statuses.all (· == 0) then 0 else 1

end ClusterHarness.Machine.Shell.Settings
