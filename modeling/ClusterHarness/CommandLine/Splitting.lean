import ClusterHarness.Text.Lines

/-!
# Splitting a command line into words

Words are separated by blank characters. A word is made of plain characters, of characters after
a backslash, of groups between double quotes, in which a backslash escapes a double quote or a
backslash and otherwise stands for itself, and of groups between single quotes, which are
literal. A line that ends inside a group or right after a backslash has no words.
-/

namespace ClusterHarness.CommandLine

/-- What is still open where a line ends too early. -/
inductive Unfinished where
  | doubleQuote
  | singleQuote
  | backslash
deriving DecidableEq, Repr

namespace Unfinished

/-- The name of the open construct in a message. -/
def name : Unfinished → String
  | doubleQuote => "unterminated double quote"
  | singleQuote => "unterminated single quote"
  | backslash => "trailing backslash"

end Unfinished

/-- Where the scanner stands. The word read so far is kept in reverse. -/
inductive Position where
  | gap
  | word (sofar : List Char)
  /-- Right after a backslash outside quotes. -/
  | escaped (sofar : List Char)
  | double (sofar : List Char)
  /-- Right after a backslash between double quotes. -/
  | doubleEscaped (sofar : List Char)
  | single (sofar : List Char)
deriving DecidableEq, Repr

namespace Position

/-- The position after a character outside quotes that is not blank. -/
def outside (sofar : List Char) (c : Char) : Position :=
  if c = '"' then double sofar
  else if c = '\'' then single sofar
  else if c = '\\' then escaped sofar
  else word (c :: sofar)

/-- The position after one more character. -/
def next : Position → Char → Position
  | gap, c => if Text.isBlank c then gap else outside [] c
  | word w, c => if Text.isBlank c then gap else outside w c
  | escaped w, c => word (c :: w)
  | double w, c =>
    if c = '"' then word w else if c = '\\' then doubleEscaped w else double (c :: w)
  | doubleEscaped w, c =>
    if c = '\\' ∨ c = '"' then double (c :: w) else double (c :: '\\' :: w)
  | single w, c => if c = '\'' then word w else single (c :: w)

/-- The word that a character ends. -/
def ended? : Position → Char → Option (List Char)
  | word w, c => if Text.isBlank c then some w.reverse else none
  | _, _ => none

/-- The words that a line which ends at a position still has. -/
def finish : Position → Except Unfinished (List (List Char))
  | gap => .ok []
  | word w => .ok [w.reverse]
  | escaped _ => .error .backslash
  | double _ | doubleEscaped _ => .error .doubleQuote
  | single _ => .error .singleQuote

end Position

/-- The words of the rest of a line, read from a position. Models the loop of
`split_command_line`. -/
def scan : Position → List Char → Except Unfinished (List (List Char))
  | p, [] => p.finish
  | p, c :: cs =>
    match p.ended? c with
    | none => scan (p.next c) cs
    | some w => (scan (p.next c) cs).map (w :: ·)

/-- The words of a line. -/
def splitWords (line : List Char) : Except Unfinished (List (List Char)) := scan .gap line

end ClusterHarness.CommandLine
