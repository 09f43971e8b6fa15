import ClusterHarness.Machine.Print
import ClusterHarness.Machine.Tool.Basic

/-!
# Printing arguments

Tools that print what their arguments say.
-/

namespace ClusterHarness.Machine.Tool

/-- What `echo` prints. Its options are single arguments of the letters `n`, `e` and `E`. -/
def echo (args : List Octets) : Simple Nat := do
  let isOption (o : Octets) : Bool :=
    match o with
    | '-' :: c :: cs => (c :: cs).all "neE".toList.contains
    | _ => false
  let options := (args.takeWhile isOption).flatMap (·.drop 1)
  let words := args.dropWhile isOption
  let escapes := (options.filter (· != 'n')).getLast? == some 'e'
  let bare := options.contains 'n'
  let text := [' '].intercalate words
  let (o, stopped) := if escapes then Print.unescape (text.length + 1) text else (text, false)
  say (if bare || stopped then o else o ++ ['\n'])
  return 0

def printf (args : List Octets) : Simple Nat := do
  match args with
  | [] => misused "missing operand".toList
  | format :: words =>
    let p := Print.formatted format words
    say p.output
    p.complaints.forM complain
    return if p.complaints.isEmpty && p.fault.isNone then 0 else 1

/-- Print numbers in a row. -/
def seq (args : List Octets) : Simple Nat := do
  match args.mapM (Octets.toInt? 10) with
  | some [last] => count 1 1 last
  | some [first, last] => count first 1 last
  | some [first, step, last] => count first step last
  | some [] => misused "missing operand".toList
  | some (_ :: _ :: _ :: extra :: _) =>
    misused ("extra operand ".toList ++ quoted (Octets.ofInt extra))
  | none =>
    let isWrong (o : Octets) : Bool := (Octets.toInt? 10 o).isNone
    misused ("invalid floating point argument: ".toList ++ quoted ((args.find? isWrong).getD []))
where
  count (first step last : Int) : Simple Nat := do
    if step = 0 then misused "invalid Zero increment value: '0'".toList
    else
      let n := if 0 < step then (last - first) / step + 1 else (first - last) / (-step) + 1
      say ((List.range n.toNat).flatMap fun (i : Nat) => Octets.ofInt (first + i * step) ++ ['\n'])
      return 0

end ClusterHarness.Machine.Tool
