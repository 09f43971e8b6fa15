import ClusterHarness.Machine.Condition
import ClusterHarness.Machine.Print
import ClusterHarness.Machine.Shell.Directory
import ClusterHarness.Machine.Shell.Jobs
import ClusterHarness.Machine.Shell.Search
import ClusterHarness.Machine.Shell.Settings

/-!
# Builtins

The builtins that neither carry out other commands nor change where the script goes on, by their
names. Each gives its status.
-/

namespace ClusterHarness.Machine.Shell.Builtin

/-- Print words in a format. -/
def printFormatted (args : List Octets) : Action Nat := do
  match ← Options.operands args with
  | [] => fail "usage: printf format [arg ...]".toList
  | format :: words =>
    let p := Print.formatted format words
    p.complaints.forM complain
    match p.fault with
    | some text =>
      printPieces p.pieces
      fail text
    | none =>
      printPieces p.pieces
      return if p.complaints.isEmpty then 0 else 1

/-- Test a condition. -/
def test (words : List Octets) : Action Nat := do
  match ← ExceptT.lift (Condition.evaluate words) with
  | .ok true => return 0
  | .ok false => return 1
  | .error text => fail text

def testBracketed (args : List Octets) : Action Nat := do
  if args.getLast?.bind (·.head?) == some ']' then test args.dropLast else fail "missing ]".toList

/-- Look for programs and remember where they are, or print those that are remembered. -/
def hash (args : List Octets) : Action Nat := do
  let (found, names) ← Options.split ['r'] args
  if !found.isEmpty then
    modify fun s => { s with tracked := [] }
    return 0
  if names.isEmpty then
    let slot (o : Octets) : Nat :=
      (o.foldl (fun n c => n + c.toNat) ((o.headD '\x00').toNat * 16)) % 31
    let sorted := (← get).tracked.mergeSort fun a b => slot a.1 ≤ slot b.1
    print (sorted.flatMap fun e => e.2 ++ ['\n'])
    return 0
  let statuses ← names.mapM fun name => do
    modify fun s => { s with tracked := s.tracked.filter (·.1 != name) }
    match find (← get) true name with
    | .elsewhere =>
      match ← locate none name with
      | .ok _ => return 0
      | .error e =>
        complainOf name e
        return 1
    | _ => return 0
  return if statuses.all (· == 0) then 0 else 1

/-- Describe each of some names. -/
def describeAll (names : List Octets) : Action Nat := do
  let statuses ← names.mapM (describe true none)
  return statuses.foldl (· ||| ·) 0

/-- What `command` does where it does not carry out another command: it describes one. -/
def describeOne (args : List Octets) : Action Nat := do
  let (found, words) ← Options.split "pvV".toList args
  let has (c : Char) : Bool := found.any (·.1 == c)
  let directories := if has 'p' then some State.standardPath else none
  match words with
  | name :: _ => if has 'v' || has 'V' then describe (has 'V') directories name else return 0
  | [] => return 0

/-- The limits of processes with their letters; there is one on a few only. -/
def limits : List (Char × String × String) :=
  [('t', "time(seconds)", "unlimited"), ('f', "file(blocks)", "unlimited"),
    ('d', "data(kbytes)", "unlimited"), ('s', "stack(kbytes)", "8192"),
    ('c', "coredump(blocks)", "0"), ('m', "memory(kbytes)", "unlimited"),
    ('l', "locked memory(kbytes)", "8192"), ('p', "process", "unlimited"),
    ('n', "nofiles", "1024"), ('v', "vmemory(kbytes)", "unlimited"),
    ('w', "locks", "unlimited"), ('r', "rtprio", "0")]

/-- Print limits. To set one has no effect. -/
def limit (args : List Octets) : Action Nat := do
  let (found, words) ← Options.split "HSatfdscmlpnvwr".toList args
  let letters := (found.map (·.1)).filter fun c => c != 'H' && c != 'S'
  if letters.getLast? == some 'a' && words.isEmpty then
    print (limits.flatMap fun (_, name, value) =>
      (name ++ "".pushn ' ' (20 - name.length) ++ " " ++ value ++ "\n").toList)
    return 0
  match words, limits.lookup (letters.getLast?.getD 'f') with
  | [], some (_, value) => print (value.toList ++ ['\n'])
  | [w], _ =>
    if letters.contains 'a' then fail "too many arguments".toList
    unless w == "unlimited".toList || w.all Char.isDigit do fail "bad number".toList
  | _, _ => fail "too many arguments".toList
  return 0

/-- Print the time that was used up: none. -/
def times : Action Nat := do
  let line := "0m0.000000s 0m0.000000s\n"
  print (line ++ line).toList
  return 0

/-- Carry out a builtin with its arguments. -/
def carryOut (name : Octets) (args : List Octets) : Action Nat :=
  match String.ofList name with
  | "false" => return 1
  | "echo" => do
    printPieces (Print.echo args)
    return 0
  | "printf" => printFormatted args
  | "test" => test args
  | "[" => testBracketed args
  | "cd" => Directory.change args
  | "chdir" => Directory.change args
  | "pwd" => Directory.show_ args
  | "umask" => Directory.mask args
  | "export" => Settings.declare "export" args
  | "readonly" => Settings.declare "readonly" args
  | "local" => Settings.localize args
  | "unset" => Settings.unset args
  | "set" => Settings.configure args
  | "shift" => Settings.shift args
  | "getopts" => Settings.getOption args
  | "read" => Settings.readVariables args
  | "alias" => Settings.setAliases args
  | "unalias" => Settings.removeAliases args
  | "hash" => hash args
  | "type" => describeAll args
  | "command" => describeOne args
  | "jobs" => Jobs.list args
  | "fg" => Jobs.resume args
  | "bg" => Jobs.resume args
  | "wait" => Jobs.waitFor args
  | "kill" => Jobs.send args
  | "trap" => Trap.command args
  | "ulimit" => limit args
  | "times" => times
  | _ => return 0

end ClusterHarness.Machine.Shell.Builtin
