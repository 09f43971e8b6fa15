import ClusterHarness.Machine.Octets

/-!
# Shell commands

The commands of a shell script and the words that they are made of, as they are before anything is
expanded. A command keeps the number of its line for complaints.
-/

namespace ClusterHarness.Machine.Shell

/-- What is made of the value of a parameter. -/
inductive Use where
  | value
  | length
  /-- The word stands in for a missing value. -/
  | default
  /-- The word stands in for a value that is there. -/
  | alternative
  /-- A missing value is an error, which the word describes. -/
  | demand
  /-- A missing value is set to the word. -/
  | assign
  | trimEnd (longest : Bool)
  | trimStart (longest : Bool)
  /-- What stands after the name means nothing. -/
  | nothing
deriving DecidableEq, Repr, Inhabited

/-- What a redirection does with the file that it names. -/
inductive Direction where
  | input
  | output
  /-- Write even to a file that must not be replaced. -/
  | clobber
  | append
  | both
deriving DecidableEq, Repr, Inhabited

mutual

/-- A part of a word. -/
inductive Part where
  | char (c : Char) (quoted : Bool)
  /-- A quotation begins or ends. -/
  | mark
  /-- The value of a parameter, where an empty value may count as missing. -/
  | parameter (name : Octets) (use : Use) (emptyCounts : Bool) (word : List Part)
  /-- What a command prints. -/
  | output (command : Option Command)
  | arithmetic (expression : List Part)

/-- A redirection of a descriptor. -/
inductive Redirection where
  | file (descriptor : Nat) (direction : Direction) (target : List Part)
  /-- The descriptor that a word names takes the place, or nothing does. -/
  | copy (descriptor : Nat) (source : List Part)
  /-- A text of the script, which is known by its number. -/
  | document (descriptor number : Nat)

/-- A command. -/
inductive Command where
  | simple (line : Nat) (assignments words : List (List Part))
      (redirections : List Redirection)
  | pipeline (parts : List Command) (background : Bool)
  | background (line : Nat) (body : Command) (redirections : List Redirection)
  | subshell (line : Nat) (body : Option Command) (redirections : List Redirection)
  | redirected (line : Nat) (body : Option Command) (redirections : List Redirection)
  | sequence (first second : Command)
  | conjunction (first second : Command)
  | disjunction (first second : Command)
  | negation (body : Command)
  | choice (condition yes no : Option Command)
  /-- A loop that goes on while its condition fails or, unless `untilHolds`, while it holds. -/
  | loop (untilHolds : Bool) (condition body : Option Command)
  /-- A loop for each of some words, which are the arguments if there are none. -/
  | forEach (line : Nat) (name : Octets) (words : Option (List (List Part)))
      (body : Option Command)
  | select (line : Nat) (word : List Part) (arms : List (List (List Part) × Option Command))
  | define (name : Octets) (body : Command)

end

instance : Inhabited Part := ⟨.mark⟩
instance : Inhabited Command := ⟨.pipeline [] false⟩
instance : Inhabited Redirection := ⟨.document 0 0⟩

/-- A word as written. -/
abbrev Word := List Part

namespace Word

/-- A word of quoted characters. -/
def ofOctets (o : Octets) : Word := o.map (.char · true)

/-- The characters of a word in which nothing is to be expanded, without its quotation marks. -/
def characters (w : Word) : Octets :=
  w.filterMap fun
    | .char c _ => some c
    | _ => none

/-- The text of a word that is all unquoted characters. -/
def plain? (w : Word) : Option Octets :=
  w.mapM fun
    | .char c false => some c
    | _ => none

end Word

/-! ## Names -/

def isNameStart (c : Char) : Bool := c.isAlpha || c == '_'

def isNameChar (c : Char) : Bool := c.isAlphanum || c == '_'

def isName (o : Octets) : Bool :=
  match o with
  | [] => false
  | c :: cs => isNameStart c && cs.all isNameChar

/-- Whether a word sets a variable: it begins with a name and an equals sign. -/
def Word.isAssignment (w : Word) : Bool :=
  let isPlain (p : Char → Bool) : Part → Bool
    | .char c false => p c
    | _ => false
  match w with
  | [] => false
  | first :: rest =>
    isPlain isNameStart first &&
      ((rest.dropWhile (isPlain isNameChar)).head?).any (isPlain (· == '='))

/-- The name and the value of an assignment. -/
def assignment? (o : Octets) : Option (Octets × Octets) :=
  let name := o.takeWhile isNameChar
  match o.drop name.length with
  | '=' :: value => if isName name then some (name, value) else none
  | _ => none

end ClusterHarness.Machine.Shell
