import ClusterHarness.Machine.Condition
import ClusterHarness.Machine.Loading
import ClusterHarness.Machine.Tool.Basic

/-!
# Time, conditions and other programs

Tools that wait, test conditions, send signals or go on as other programs.
-/

namespace ClusterHarness.Machine.Tool

/-! ## Waiting -/

/-- A length of time that no run outlasts. -/
def forever : Duration := .ofSeconds 1000000000000

/-- The decimal exponent after a number, and what follows it. -/
def exponent (o : Octets) : Int × Octets :=
  match o with
  | e :: rest =>
    if e.toLower != 'e' || rest.head?.any Octets.isBlank then (0, o)
    else (Octets.leadingInt? 10 rest).getD (0, o)
  | [] => (0, [])

/-- A length of time: a decimal number of seconds, or of the unit after it. -/
def duration? (o : Octets) : Option Duration := do
  let o := Octets.skipBlanks o
  let o := if o.head? == some '+' then o.tail else o
  let lower := String.ofList (o.map Char.toLower)
  if ["inf", "infinity"].contains lower then return forever
  let whole := o.takeWhile Char.isDigit
  let (places, rest) : Octets × Octets :=
    match o.drop whole.length with
    | '.' :: rest => (rest.takeWhile Char.isDigit, rest.dropWhile Char.isDigit)
    | rest => ([], rest)
  if whole.isEmpty && places.isEmpty then none
  else
    let (power, unit) := exponent rest
    let units := [("", 1), ("s", 1), ("m", 60), ("h", 3600), ("d", 86400)]
    let scale ← units.lookup (String.ofList unit)
    let power := max (-100) (min 100 (power + 9 - places.length))
    let n := Octets.ofDigits 10 (whole ++ places) * scale
    let nanos := if 0 ≤ power then n * Nat.pow 10 power.toNat
      else (n + Nat.pow 10 (-power).toNat - 1) / Nat.pow 10 (-power).toNat
    return ⟨min nanos forever.nanos⟩

/-- Wait for the sum of some lengths of time. -/
def sleep (args : List Octets) : Simple Nat :=
  reading ⟨[], []⟩ args fun a => do
    match a.operands.filter (duration? · |>.isNone) with
    | [] =>
      if a.operands.isEmpty then misused "missing operand".toList
      else
        let times := a.operands.filterMap duration?
        Program.ask (.sleep ⟨times.foldl (fun n time => n + time.nanos) 0⟩)
        return 0
    | wrong =>
      let words (o : Octets) : Octets := "invalid time interval ".toList ++ quoted o
      wrong.dropLast.forM fun o => complain (words o)
      misused (words (wrong.getLastD []))

/-! ## Other programs -/

/-- Go on as the program that a name stands for, or say why not. A shell takes over a file that is
no program. -/
def become (name : Octets) (args env : List Octets) : Simple IoError :=
  if name.isEmpty then return .notFound
  else if name.contains '/' then attempt .notFound [name]
  else attempt .notFound (candidates ((lookupLine env "PATH".toList).getD defaultSearch) name)
where
  attempt (worst : IoError) : List Octets → Simple IoError
    | [] => return worst
    | path :: rest => do
      match (← Program.ask (.execute path (name :: args) env) : IoError) with
      | .badExecutable => Program.ask (.execute scriptShell (scriptShell :: path :: args) env)
      | .notFound => attempt worst rest
      | .notADirectory => attempt worst rest
      | .permissionDenied => attempt .permissionDenied rest
      | e => return e

/-- An environment without a variable. -/
def withoutVariable (name : Octets) (vars : List Octets) : List Octets :=
  vars.filter (!(name ++ ['=']).isPrefixOf ·)

/-- Print the environment, or go on as another program with variables set in it. -/
def withVariables : List Octets → List Octets → Simple Nat
  | [], vars => do
    say (vars.flatMap (· ++ ['\n']))
    return 0
  | a :: args, vars =>
    let name := a.takeWhile (· != '=')
    if name.length < a.length then withVariables args (withoutVariable name vars ++ [a])
    else do
      let e : IoError ← become a args vars
      complainOf (quoted a) e
      return if e = .notFound then 127 else 126

/-- Change the environment as options say, and go on with `withVariables`. -/
def env : List Octets → List Octets → Simple Nat
  | ['-', '-'] :: args, vars => withVariables args vars
  | ['-'] :: args, _ => withVariables args []
  | ['-', 'i'] :: args, _ => env args []
  | ['-', 'u'] :: name :: args, vars => env args (withoutVariable name vars)
  | ['-', 'u'] :: [], _ => misused (Arguments.Fault.letterAlone 'u').words
  | ('-' :: 'u' :: name) :: args, vars => env args (withoutVariable name vars)
  | ('-' :: '-' :: name) :: args, vars =>
    if name == "ignore-environment".toList then env args []
    else if "unset=".toList.isPrefixOf name then env args (withoutVariable (name.drop 6) vars)
    else misused (Arguments.Fault.unknownName name).words
  | ('-' :: c :: _) :: _, _ => misused (Arguments.Fault.unknownLetter c).words
  | args, vars => withVariables args vars

/-! ## Conditions -/

def test (words : List Octets) : Simple Nat := do
  match ← Condition.evaluate words with
  | .ok true => return 0
  | .ok false => return 1
  | .error text =>
    complain text
    return 2

def testBracketed (args : List Octets) : Simple Nat := do
  if args.getLast? == some [']'] then test args.dropLast
  else
    complain "missing ']'".toList
    return 2

/-! ## Others -/

/-- Send a signal to processes. -/
def kill (args : List Octets) : Simple Nat := do
  let (signal, words) : Option Nat × List Octets :=
    match args with
    | ['-', 's'] :: name :: rest => (Signal.ofOctets? 1 name, rest)
    | ('-' :: name) :: rest => (Signal.ofOctets? 1 name, rest)
    | rest => (some Signal.terminate, rest)
  match signal with
  | none => return 1
  | some signal =>
    if words.isEmpty then return 1
    forOperands words fun w => do
      match Octets.toNat? w with
      | none =>
        complain ("failed to parse argument: ".toList ++ quoted w)
        return false
      | some process =>
        let sent : Bool ← Program.ask (.kill process signal)
        unless sent do complain ('(' :: w ++ "): No such process".toList)
        return sent

def pwd : Simple Nat := do
  let place ← Program.ask .currentDirectory
  say (Octets.ofText ("/" ++ "/".intercalate place ++ "\n"))
  return 0

end ClusterHarness.Machine.Tool
