import ClusterHarness.Machine.Arguments
import ClusterHarness.Machine.Shell.State

/-!
# Options

The options of builtins, and those of the shell itself, which its arguments and `set` switch on and
off by letter or by name.
-/

namespace ClusterHarness.Machine.Shell.Options

/-- The options in one argument, and the last letter if its argument is yet to come. -/
def letters (allowed : Octets) : Octets → Action (List (Char × Octets) × Option Char)
  | [] => return ([], none)
  | c :: cs => do
    match takesArgument? c allowed with
    | none => fail ("Illegal option -".toList ++ [c])
    | some true => return if cs.isEmpty then ([], some c) else ([(c, cs)], none)
    | some false =>
      let (found, open_) ← letters allowed cs
      return ((c, []) :: found, open_)

/-- The options of a builtin with their arguments, and its operands. -/
def split (allowed : Octets) : List Octets → Action (List (Char × Octets) × List Octets)
  | [] => return ([], [])
  | ['-', '-'] :: rest => return ([], rest)
  | ('-' :: c :: cs) :: rest => do
    match ← letters allowed (c :: cs), rest with
    | (found, none), rest =>
      let (more, operands) ← split allowed rest
      return (found ++ more, operands)
    | (_, some c), [] => fail ("No arg for -".toList ++ c :: " option".toList)
    | (found, some c), argument :: rest =>
      let (more, operands) ← split allowed rest
      return (found ++ (c, argument) :: more, operands)
  | operands => return ([], operands)

/-- The operands of a builtin without options. -/
def operands (args : List Octets) : Action (List Octets) := return (← split [] args).2

/-! ## Options of the shell -/

/-- Switch an option of the shell by its letter. -/
def switch (letter : Char) (on : Bool) : Action Unit := do
  unless letter.isAlpha && State.optionNames.any (·.2 == letter) do
    fail ("Illegal option -".toList ++ [letter])
  modify fun s =>
    let s := s.setOption letter on
    if on && letter == 'V' then s.setOption 'E' false
    else if on && letter == 'E' then s.setOption 'V' false
    else s

/-- Switch an option by its name. -/
def switchNamed (name : Octets) (on : Bool) : Action Unit := do
  match State.optionNames.lookup (String.ofList name) with
  | some letter => modify (·.setOption letter on)
  | none => fail ("Illegal option -o ".toList ++ name)

/-- Print all options, as a table or as commands that set them. -/
def list (table : Bool) : Action Unit := do
  let s ← get
  let line (name : String) (letter : Char) : String :=
    let on := s.has letter
    if table then
      name ++ "".pushn ' ' (16 - name.length) ++ (if on then "on" else "off") ++ "\n"
    else (if on then "set -o " else "set +o ") ++ name ++ "\n"
  if table then print "Current option settings\n".toList
  print (State.optionNames.flatMap fun (name, letter) => (line name letter).toList)

/-- What arguments with options say besides the options. -/
structure Given where
  /-- The arguments after the options. -/
  rest : List Octets
  /-- An argument ended the options; it was a single minus sign. -/
  minus : Bool := false
  /-- Two minus signs ended the options. -/
  ended : Bool := false
  /-- A script comes as an argument. -/
  script : Bool := false

/-- Switch the options that letters name; with `o` the next argument is a name. -/
def switchAll (start on : Bool) : Octets → List Octets → Bool → Action (List Octets × Bool)
  | [], rest, script => return (rest, script)
  | c :: cs, rest, script => do
    if start && c == 'c' then switchAll start on cs rest true
    else if start && c == 'l' then switchAll start on cs rest script
    else if c == 'o' then
      match rest with
      | [] => list on
      | name :: _ => switchNamed name on
      switchAll start on cs rest.tail script
    else
      switch c on
      switchAll start on cs rest script

/-- Switch the options among arguments, of which there are at most so many. At the start of a shell
a script may come as an argument. -/
def read (start : Bool) : Nat → List Octets → Bool → Action Given
  | 0, args, script => return { rest := args, script }
  | _, [], script => return { rest := [], script }
  | fuel + 1, a :: rest, script => do
    match a with
    | ['-'] => return { rest, script, minus := true }
    | ['-', '-'] => return { rest, script, ended := true }
    | '-' :: letters =>
      let (rest, script) ← switchAll start true letters rest script
      read start fuel rest script
    | '+' :: letters =>
      let (rest, script) ← switchAll start false letters rest script
      read start fuel rest script
    | _ => return { rest := a :: rest, script }

/-- Let changed options take effect: jobs cannot be controlled without a terminal. -/
def settle : Action Unit := do
  if (← get).has 'm' then
    complain "can't access tty; job control turned off".toList
    modify (·.setOption 'm' false)

end ClusterHarness.Machine.Shell.Options
