import ClusterHarness.Machine.Octets

/-!
# Arguments

Options among the arguments of a program: single letters after a dash, several of them in one
argument, and names after two dashes. A text lists the letters; a colon after one says that it takes
an argument of its own.
-/

namespace ClusterHarness.Machine

/-- Whether a letter is among those allowed, and if so whether it takes an argument. -/
def takesArgument? (c : Char) : Octets → Option Bool
  | [] => none
  | [d] => if c = d then some false else none
  | d :: ':' :: rest => if c = d then some true else takesArgument? c rest
  | d :: rest => if c = d then some false else takesArgument? c rest

/-- The arguments of a program: options with what they were given, and operands. -/
structure Arguments where
  options : List (Char × Octets) := []
  operands : List Octets := []
deriving DecidableEq, Repr, Inhabited

namespace Arguments

/-- The options that a program has. -/
structure Usage where
  letters : Octets
  /-- Names of options that have a letter, too. -/
  names : List (String × Char) := []

/-- What is wrong with arguments. -/
inductive Fault where
  | unknownLetter (c : Char)
  | unknownName (name : Octets)
  | letterAlone (c : Char)
  | nameAlone (name : Octets)
  | valueRefused (name : Octets)
deriving DecidableEq, Repr

def Fault.words : Fault → Octets
  | unknownLetter c => "invalid option -- '".toList ++ [c, '\'']
  | unknownName name => "unrecognized option '--".toList ++ name ++ ['\'']
  | letterAlone c => "option requires an argument -- '".toList ++ [c, '\'']
  | nameAlone name => "option '--".toList ++ name ++ "' requires an argument".toList
  | valueRefused name => "option '--".toList ++ name ++ "' doesn't allow an argument".toList

def has (a : Arguments) (c : Char) : Bool := a.options.any (·.1 == c)

/-- What an option was given the last time. -/
def value? (a : Arguments) (c : Char) : Option Octets :=
  (a.options.reverse.find? (·.1 == c)).map (·.2)

/-- The options that letters in one argument stand for, and the last one if its own argument is yet
to come. -/
def letters (u : Usage) : Octets → Except Fault (List (Char × Octets) × Option Char)
  | [] => .ok ([], none)
  | c :: cs =>
    match takesArgument? c u.letters with
    | none => .error (.unknownLetter c)
    | some true => .ok (if cs.isEmpty then ([], some c) else ([(c, cs)], none))
    | some false => (letters u cs).map fun (found, waiting) => ((c, []) :: found, waiting)

/-- The letter of an option that is called by its name, and what it is given after a sign. -/
def named (u : Usage) (o : Octets) : Except Fault (Char × Option Octets) :=
  let name := o.takeWhile (· != '=')
  let value := if name.length < o.length then some (o.drop (name.length + 1)) else none
  match u.names.lookup (String.ofList name) with
  | none => .error (.unknownName o)
  | some c =>
    if value.isSome && takesArgument? c u.letters != some true then .error (.valueRefused name)
    else .ok (c, value)

/-- Read arguments. Options and operands stand in any order, and what comes after two dashes is an
operand. -/
def read (u : Usage) : List Octets → Except Fault Arguments
  | [] => .ok {}
  | ['-', '-'] :: rest => .ok { operands := rest }
  | ('-' :: '-' :: name) :: rest =>
    match named u name, rest with
    | .error f, _ => .error f
    | .ok (c, some value), rest => (read u rest).map (withOption c value)
    | .ok (c, none), [] =>
      if takesArgument? c u.letters = some true then .error (.nameAlone name)
      else .ok { options := [(c, [])] }
    | .ok (c, none), value :: rest =>
      if takesArgument? c u.letters = some true then (read u rest).map (withOption c value)
      else (read u (value :: rest)).map (withOption c [])
  | ('-' :: c :: cs) :: rest =>
    match letters u (c :: cs), rest with
    | .error f, _ => .error f
    | .ok (found, none), rest =>
      (read u rest).map fun a => { a with options := found ++ a.options }
    | .ok (_, some c), [] => .error (.letterAlone c)
    | .ok (found, some c), value :: rest =>
      (read u rest).map fun a => { a with options := found ++ (c, value) :: a.options }
  | operand :: rest =>
    (read u rest).map fun a => { a with operands := operand :: a.operands }
where
  withOption (c : Char) (value : Octets) (a : Arguments) : Arguments :=
    { a with options := (c, value) :: a.options }

end Arguments
end ClusterHarness.Machine
