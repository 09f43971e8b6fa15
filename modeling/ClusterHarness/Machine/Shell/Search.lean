import ClusterHarness.Machine.Loading
import ClusterHarness.Machine.Shell.Grammar
import ClusterHarness.Machine.Shell.State

/-!
# Finding commands

What a name stands for where a command begins: a builtin, a function or a program. A shell remembers
where it found a program until the directories to look in change.
-/

namespace ClusterHarness.Machine.Shell

/-- The names of the builtins that a function can replace. -/
def plainBuiltins : List String :=
  ["alias", "bg", "cd", "chdir", "command", "echo", "false", "fg", "getopts", "hash", "jobs",
    "kill", "printf", "pwd", "read", "test", "[", "true", "type", "ulimit", "umask", "unalias",
    "wait"]

def isBuiltin (name : Octets) : Bool :=
  let name := String.ofList name
  Grammar.specialBuiltins.contains name || plainBuiltins.contains name

def isSpecialBuiltin (name : Octets) : Bool :=
  Grammar.specialBuiltins.contains (String.ofList name)

/-- Whether assignments among the arguments of a builtin are not split. -/
def takesAssignments (name : Octets) : Bool :=
  ["alias", "export", "local", "readonly"].contains (String.ofList name)

/-- What a name stands for, as far as no directory has to be looked at. -/
inductive Found where
  | builtin (name : Octets)
  | function (body : Command)
  | elsewhere

def find (s : State) (functions : Bool) (name : Octets) : Found :=
  match if functions then s.functions.lookup name else none with
  | some body => .function body
  | none => if isBuiltin name then .builtin name else .elsewhere

/-- The first path at which there is a program. What cannot be run is passed over, and reported if
there is no other. -/
def firstProgram (worst : IoError) : List Octets → Action (Except IoError Octets)
  | [] => return .error worst
  | path :: rest => do
    match ← ask (.inspect ⟨path.toText⟩) with
    | .ok { kind := .file _ true, .. } => return .ok path
    | .ok _ => firstProgram .permissionDenied rest
    | .error .notFound => firstProgram worst rest
    | .error .notADirectory => firstProgram worst rest
    | .error e => firstProgram e rest

/-- The path of a program in some directories, or in those of the search path. -/
def locate (directories : Option Octets) (name : Octets) : Action (Except IoError Octets) := do
  let s ← get
  if name.contains '/' then return .ok name
  match directories, s.tracked.lookup name with
  | some ds, _ => firstProgram .notFound (candidates ds name)
  | none, some path => return .ok path
  | none, none =>
    let found ← firstProgram .notFound (candidates s.searchPath name)
    if let .ok path := found then
      modify fun s => { s with tracked := s.tracked ++ [(name, path)] }
    return found

/-- Complain that a program cannot be run. -/
def complainOf (name : Octets) (e : IoError) : Action Unit :=
  complain (name ++ ": ".toList ++ reasonOr "not found" e)

/-- Go on as the program at the first of some paths that can be run, given its arguments without its
name. A file that is no program is taken for a script. -/
def become (name : Octets) (args : List Octets) (worst : IoError) :
    List Octets → Action IoError
  | [] => return worst
  | path :: rest => do
    let env := (← get).environment
    match (← ask (.execute path (name :: args) env) : IoError) with
    | .badExecutable => ask (.execute scriptShell (scriptShell :: path :: args) env)
    | .notFound => become name args worst rest
    | .notADirectory => become name args worst rest
    | e => become name args e rest

/-- Go on as a program, or complain and end. -/
def execute (name : Octets) (args : List Octets) (paths : List Octets) : Action Unit := do
  let e ← become name args .notFound paths
  let isMissing := [.notFound, .notADirectory, .tooManyLinks, .nameTooLong].contains e
  setStatus (if isMissing then 127 else 126)
  complainOf name e
  throw .finished

/-- The paths at which a program may be, where it was found at the first of them. -/
def pathsFrom (directories : Option Octets) (name found : Octets) : Action (List Octets) := do
  if name.contains '/' then return [name]
  let s ← get
  return (candidates (directories.getD s.searchPath) name).dropWhile (· != found)

/-! ## Describing commands -/

/-- Print what a name stands for, with words around it or as it could be written. The status says
whether it stands for anything. -/
def describe (verbose : Bool) (directories : Option Octets) (name : Octets) : Action Nat := do
  let s ← get
  let say (text : String) (brief : Octets) : Action Nat := do
    print ((if verbose then name ++ text.toList else brief) ++ ['\n'])
    return 0
  if (Token.keyword? name).isSome then say " is a shell keyword" name
  else
    match s.aliases.lookup name, find s true name with
    | some text, _ =>
      if verbose then
        print (name ++ " is an alias for ".toList ++ text ++ ['\n'])
      else print ("alias ".toList ++ name ++ '=' :: quote text ++ ['\n'])
      return 0
    | none, .function _ => say " is a shell function" name
    | none, .builtin _ =>
      say (if isSpecialBuiltin name then " is a special shell builtin" else " is a shell builtin")
        name
    | none, .elsewhere =>
      let tracked := directories.isNone && (s.tracked.lookup name).isSome
      let exists_ : Bool ←
        if name.contains '/' then do
          pure (← ask (.inspect ⟨name.toText⟩)).toOption.isSome
        else pure true
      match ← locate directories name, exists_ with
      | .ok path, true =>
        let words := if tracked then " is a tracked alias for " else " is "
        print ((if verbose then name ++ words.toList else []) ++ path ++ ['\n'])
        return 0
      | _, _ =>
        if verbose then print (name ++ ": not found\n".toList)
        return 127

end ClusterHarness.Machine.Shell
