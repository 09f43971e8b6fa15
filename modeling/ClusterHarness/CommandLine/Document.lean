import ClusterHarness.CommandLine
import ClusterHarness.Document.Fields

/-!
# Writing and reading command lines

A command line is written as one line of words, and read back from a line. A word is written bare
when it is not empty and holds only characters that no reader of command lines treats specially;
otherwise it stands between double quotes, where a double quote and a backslash are escaped by a
backslash. In a document a command line is the text of its line.
-/

namespace ClusterHarness.CommandLine

/-! ## Quoting -/

/-- Characters that need no quoting. Models `is_safe_char`. -/
def isPlain (c : Char) : Bool :=
  c.isAlphanum || ['_', '@', '%', '+', '=', ':', ',', '.', '/', '-'].contains c

/-- One character inside double quotes. -/
def escape (c : Char) : List Char :=
  if c = '\\' ∨ c = '"' then ['\\', c] else [c]

/-- The written form of one word. -/
def quoteWord (w : List Char) : List Char :=
  if !w.isEmpty && w.all isPlain then w else '"' :: w.flatMap escape ++ ['"']

/-- The written form of a list of words. -/
def joinWords : List (List Char) → List Char
  | [] => []
  | [w] => quoteWord w
  | w :: ws => quoteWord w ++ ' ' :: joinWords ws

/-- Quote one argument. Models `quote_arg`. -/
def quote (arg : String) : String := String.ofList (quoteWord arg.toList)

/-- Quote every argument and join them with spaces. Models `join_args`. -/
def join (args : List String) : String := String.ofList (joinWords (args.map String.toList))

/-! ## Lines -/

/-- The words of a line. Models `split_command_line`. -/
def split (line : String) : Except Fault (List String) :=
  match splitWords line.toList with
  | .ok words => .ok (words.map String.ofList)
  | .error what => .error (.unfinished what line)

/-- Read a line: its first word is the program. Models `CommandLine.parse`. -/
def parse (line : String) : Except Fault CommandLine :=
  match split line with
  | .error e => .error e
  | .ok [] => .error .emptyLine
  | .ok (program :: args) => .ok { program, args }

/-- The line that is read back as this command. Models `CommandLine.render`. -/
def render (c : CommandLine) : String :=
  if c.args.isEmpty then quote c.program else quote c.program ++ " " ++ join c.args

/-! ## Documents -/

/-- A command line in a document is the line that is read back as it. -/
def toDocument (c : CommandLine) : Document := .text c.render

/-- A command line is written as a text only, and the text must be a command line. -/
def ofDocument? (d : Document) : Option CommandLine :=
  d.asText.bind fun line => (parse line).toOption

end ClusterHarness.CommandLine
