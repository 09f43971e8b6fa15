import ClusterHarness.Machine.Arguments
import ClusterHarness.Machine.Task

/-!
# Running tools

What the tools have in common: what they know while they run, how they complain, and how they read
their arguments. Output that is lost makes a tool fail at its end.
-/

namespace ClusterHarness.Machine.Tool

/-- What a tool knows while it runs. -/
structure Running where
  /-- The name that it was called by. -/
  name : Octets
  /-- The status with which it fails. -/
  failure : Nat := 1
  /-- Why output was lost. -/
  lost : Option IoError := none

/-- What a tool does. -/
abbrev Simple := Program Running

/-- The most turns of reading. -/
def turnLimit : Nat := 10000000

/-! ## Showing operands -/

/-- Characters that a shell reads as they stand. -/
def isPlain (c : Char) : Bool := c.isAlphanum || "%+,-./@]_".toList.contains c

/-- The escape of a character that is not shown as it is. -/
def escape (c : Char) : Octets :=
  match c with
  | '\x07' => "\\a".toList
  | '\x08' => "\\b".toList
  | '\t' => "\\t".toList
  | '\n' => "\\n".toList
  | '\x0b' => "\\v".toList
  | '\x0c' => "\\f".toList
  | '\r' => "\\r".toList
  | c =>
    let digits := Nat.toDigits 8 c.toNat
    '\\' :: List.replicate (3 - digits.length) '0' ++ digits

/-- The characters of a text between quotes, where `escaping` says that escapes are open. -/
def quotedAfter (escaping : Bool) : Octets → Octets
  | [] => []
  | c :: cs =>
    if ' ' ≤ c && c ≤ '~' then
      (if escaping then "''".toList else []) ++
        (if c == '\'' then "'\\''".toList else [c]) ++ quotedAfter false cs
    else (if escaping then [] else "'$'".toList) ++ escape c ++ quotedAfter true cs

/-- A text between quotes, as a shell would read it. -/
def quoted (o : Octets) : Octets :=
  if o.contains '\'' && o.all fun c => isPlain c || " ':#~\x7b\x7d".toList.contains c then
    '"' :: o ++ ['"']
  else '\'' :: quotedAfter false o ++ ['\'']

/-- A text between quotes if a shell would not read it as it stands. -/
def shown (o : Octets) : Octets :=
  let isWhole (c : Char) : Bool := o != [c] && (c == '\x7b' || c == '\x7d')
  let isInside (c : Char) : Bool := o.head? != some c && (c == '#' || c == '~')
  if !o.isEmpty && o.all fun c => isPlain c || isWhole c || isInside c then o else quoted o

/-! ## Complaints -/

def complain (words : Octets) : Simple Unit := do
  Program.put 2 ((← get).name ++ ": ".toList ++ words ++ ['\n'])

/-- Complain that something failed. -/
def complainOf (what : Octets) (e : IoError) : Simple Unit :=
  complain (what ++ ": ".toList ++ e.words.toList)

/-- Complain that what was meant to be done to an operand failed. -/
def cannot (purpose : String) (operand : Octets) (e : IoError) : Simple Unit :=
  complainOf ("cannot ".toList ++ purpose.toList ++ ' ' :: quoted operand) e

/-- Fail with a hint, and say where there is more to read. -/
def advise (hint : String) : Simple Nat := do
  let s ← get
  Program.put 2 hint.toList
  Program.put 2 ("Try '".toList ++ s.name ++ " --help' for more information.\n".toList)
  return s.failure

/-- Complain of arguments that mean nothing. -/
def misused (words : Octets) : Simple Nat := do
  complain words
  advise ""

/-! ## Arguments and output -/

/-- Carry out `f` with the arguments that a usage allows. -/
def reading (u : Arguments.Usage) (args : List Octets) (f : Arguments → Simple Nat) :
    Simple Nat :=
  match Arguments.read u args with
  | .ok a => f a
  | .error fault => misused fault.words

/-- Carry out `f` on each operand; the tool fails if any of them does. -/
def forOperands (operands : List Octets) (f : Octets → Simple Bool) : Simple Nat := do
  let results ← operands.mapM f
  let s ← get
  return if results.all id then 0 else s.failure

/-- Write to standard output. -/
def say (o : Octets) : Simple Unit := do
  unless o.isEmpty do
    if let .error e := ← Program.ask (.write 1 o.toBytes) then
      modify fun s => { s with lost := some e }

/-- Say what is done, under the name of the tool. -/
def tell (words : Octets) : Simple Unit := do
  say ((← get).name ++ ": ".toList ++ words ++ ['\n'])

/-- The task of a tool that was called by a name, given what it does. -/
def taskOf (name : Octets) (failure : Nat) (p : Simple Nat) : Task :=
  let whole : Simple Nat := do
    let status ← p
    match (← get).lost with
    | none => return status
    | some e =>
      complainOf "write error".toList e
      return failure
  whole.toTask { name, failure }

/-! ## Reading -/

/-- What a tool calls its standard input. -/
def standardInput : Octets := "standard input".toList

/-- Open an operand to read from it; a dash is standard input. -/
def openOperand (o : Octets) : Simple (Except IoError Nat) := do
  if o = ['-'] then return .ok 0
  match ← Program.ask (.openFile ⟨o.toText⟩ .read) with
  | .ok d => return .ok d
  | .error e => return .error e

/-- Close what was opened for an operand. -/
def closeOperand (descriptor : Nat) : Simple Unit :=
  if descriptor = 0 then return else Program.ask (.close descriptor)

/-- Read to the end, or give what went wrong. -/
def readAll (descriptor : Nat) : Nat → Simple (Except IoError Bytes)
  | 0 => return .ok []
  | turns + 1 => do
    match ← Program.ask (.read descriptor 65536) with
    | .error e => return .error e
    | .ok [] => return .ok []
    | .ok bytes =>
      match ← readAll descriptor turns with
      | .error e => return .error e
      | .ok more => return .ok (bytes ++ more)

/-- What is known of the file that a descriptor names, if it is open. -/
def describe (descriptor : Nat) : Simple (Option FileStatus) := do
  let path : Path := ⟨s!"/dev/fd/{descriptor}"⟩
  return (← Program.ask (.inspect path)).toOption

/-- Whether standard input is open, without which a tool that was to read from it fails. -/
def inputIsOpen : Simple Bool := do return (← describe 0).isSome

end ClusterHarness.Machine.Tool
