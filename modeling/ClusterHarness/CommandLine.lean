import ClusterHarness.CommandLine.Splitting
import ClusterHarness.Text.Literal

/-!
# Command lines

A program with its arguments, checked for the characters that no child process may receive.
-/

namespace ClusterHarness

/-- A program and its arguments. -/
structure CommandLine where
  program : String
  args : List String := []
deriving DecidableEq, Repr, Inhabited

namespace CommandLine

/-- Why a line is no command line, or a command line may not be launched. -/
inductive Fault where
  /-- The named part holds a character that no command line may carry. -/
  | forbidden (part : String) (c : Char)
  | unfinished (what : Unfinished) (line : String)
  /-- A line without words. -/
  | emptyLine
  | emptyProgram
  | other (text : String)
deriving DecidableEq, Repr

namespace Fault

def message : Fault → String
  | forbidden part c => s!"{part} contains forbidden character {Text.charLiteral c}"
  | unfinished what line => s!"{what.name} in {Text.literal line}"
  | emptyLine => "empty command line"
  | emptyProgram => "program cannot be empty"
  | other text => text

end Fault

/-- The characters that end an argument or a line for the programs that read them. -/
def isForbidden (c : Char) : Bool := c == '\x00' || c == '\n' || c == '\r'

/-- Refuse a text that holds a forbidden character; the first one is named. Models
`validate_argument`. -/
def checkText (text part : String) : Except Fault Unit :=
  match text.toList.find? isForbidden with
  | some c => .error (.forbidden part c)
  | none => .ok ()

/-- A command may be launched when it has a program and no part holds a forbidden character. Models
`CommandLine.validate`. -/
def validate (c : CommandLine) : Except Fault Unit := do
  if c.program.isEmpty then throw .emptyProgram
  checkText c.program "program"
  c.args.forM (checkText · "argument")

end CommandLine
end ClusterHarness
