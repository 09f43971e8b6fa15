import ClusterHarness.FileTree
import ClusterHarness.Machine.Octets

/-!
# Finding programs

Which tool runs the program that a name stands for. A script names its interpreter in its first
line; a name without a separator is looked for in the directories of a search path. Arguments and
environment are limited in size.
-/

namespace ClusterHarness.Machine

/-- A tool and the arguments that it is given, the first of which is its name. -/
structure Loaded where
  tool : String
  args : List Octets
deriving DecidableEq, Repr

/-- How many programs may stand in for one another. -/
def interpreterLimit : Nat := 5

/-- The interpreter that a script names in its first line, and the argument for it. -/
def interpreter? (content : Bytes) : Option (Octets × List Octets) :=
  let isBlank (c : Char) : Bool := c == ' ' || c == '\t'
  match Octets.ofBytes content with
  | '#' :: '!' :: rest =>
    let line := (rest.takeWhile (· != '\n')).dropWhile isBlank
    let line := (line.reverse.dropWhile isBlank).reverse
    let name := line.takeWhile (!isBlank ·)
    let argument := (line.drop name.length).dropWhile isBlank
    if name.isEmpty then none
    else some (name, if argument.isEmpty then [] else [argument])
  | _ => none

/-- The tool that runs the program at a path, and the arguments that it is given. -/
def programAt (files : FileTree) (base : Location) :
    Nat → Octets → List Octets → Except IoError Loaded
  | 0, _, _ => .error .tooManyLinks
  | fuel + 1, path, args =>
    match files.resolve base ⟨path.toText⟩ with
    | .error e => .error e
    | .ok (_, .tool name) => .ok ⟨name, args⟩
    | .ok (_, .file content true) =>
      match interpreter? content with
      | none => .error .badExecutable
      | some (name, more) => programAt files base fuel name (name :: more ++ path :: args.tail)
    | .ok _ => .error .permissionDenied

/-! ## Arguments and environment -/

/-- The most bytes of one argument with the NUL after it. -/
def argumentLimit : Nat := 131072

/-- The most bytes of all arguments and the environment, with the pointers to them. -/
def argumentsLimit : Nat := 2097152

/-- Whether a program can be given arguments and an environment of these sizes. -/
def fits (path : Octets) (args env : List Octets) : Bool :=
  let strings := args ++ env
  strings.all (fun o => o.length < argumentLimit) &&
    strings.foldl (fun n o => n + o.length + 9) (path.length + 9) ≤ argumentsLimit

/-- The value of a variable in an environment. -/
def lookupLine (env : List Octets) (name : Octets) : Option Octets :=
  (env.find? fun line => (name ++ ['=']).isPrefixOf line).map (·.drop (name.length + 1))

/-- The program at a path with its arguments and its environment. -/
def load (files : FileTree) (base : Location) (path : Octets) (args env : List Octets) :
    Except IoError Loaded :=
  if !fits path args env then .error .argumentsTooLong
  else if path.isEmpty then .error .notFound
  else programAt files base interpreterLimit path args

/-! ## Searching -/

/-- The directories in which programs are looked for where the environment names none. -/
def defaultSearch : Octets := "/bin:/usr/bin".toList

/-- The shell that takes over a file which is executable and no program. -/
def scriptShell : Octets := "/bin/sh".toList

/-- The paths of a name in the directories of a search path. -/
def candidates (directories name : Octets) : List Octets :=
  (directories.splitOn ':').map fun d => if d.isEmpty then name else d ++ '/' :: name

/-- Try paths in order. A program that may not be run is passed over, and reported if there is no
other. -/
def firstOf {α : Type} (attempt : Octets → Except IoError α) (refused : Bool) :
    List Octets → Except IoError α
  | [] => .error (if refused then .permissionDenied else .notFound)
  | path :: rest =>
    match attempt path with
    | .error .notFound => firstOf attempt refused rest
    | .error .notADirectory => firstOf attempt refused rest
    | .error .permissionDenied => firstOf attempt true rest
    | r => r

/-- The program that a name stands for. A name with a separator is a path, any other is looked for
in the directories of a search path. With `scripts` a shell takes over a file that is no
program. -/
def find (files : FileTree) (base : Location) (scripts : Bool) (directories : Octets)
    (name : Octets) (args env : List Octets) : Except IoError Loaded :=
  let attempt (path : Octets) : Except IoError Loaded :=
    match load files base path args env with
    | .error .badExecutable =>
      if scripts then load files base scriptShell (scriptShell :: path :: args.tail) env
      else .error .badExecutable
    | r => r
  if name.isEmpty then .error .notFound
  else if name.contains '/' then attempt name
  else if FileTree.maxName < name.length then .error .nameTooLong
  else firstOf attempt false (candidates directories name)

end ClusterHarness.Machine
