import ClusterHarness.Path
import ClusterHarness.Summary

/-!
# Command line arguments

The arguments of the program: two subcommands, options that may stand before or after the name of
the subcommand, short options that may be joined into one word, and `--`, after which nothing is
an option. An option of a subcommand wins over the same option before it.
-/

namespace ClusterHarness.Cli

/-- Why the arguments are refused, or that help is asked for. -/
inductive UsageError where
  | unknownArgument
  | invalidSubcommand
  | invalidValue
  /-- An option that may stand once stands twice. -/
  | argumentConflict
  /-- A value for an option that takes none. -/
  | tooManyValues
  | missingRequiredArgument
  | missingSubcommand
  | displayHelp
  | displayVersion
  | helpOnMissingArgument
deriving DecidableEq, Repr, Inhabited

namespace UsageError

/-- Asking for help or for the version is no failure. -/
def exitCode : UsageError → Int
  | displayHelp => 0
  | displayVersion => 0
  | _ => 2

end UsageError

inductive Opt where
  | format
  | verbose
  | loop
  | manifest
  | help
  | version
deriving DecidableEq, Repr

namespace Opt

def short : Opt → Char
  | format => 'f'
  | verbose => 'v'
  | loop => 'l'
  | manifest => 'm'
  | help => 'h'
  | version => 'V'

def long : Opt → String
  | format => "format"
  | verbose => "verbose"
  | loop => "loop"
  | manifest => "manifest"
  | help => "help"
  | version => "version"

def takesValue : Opt → Bool
  | format | manifest => true
  | _ => false

end Opt

inductive Subcommand where
  | suite
  | fixture
  | help
deriving DecidableEq, Repr

namespace Subcommand

def ofName? : String → Option Subcommand
  | "suite" => some suite
  | "fixture" => some fixture
  | "help" => some help
  | _ => none

end Subcommand

/-- Where arguments are read: before the name of a subcommand, or after it. -/
inductive Level where
  | top
  | suite
  | fixture
deriving DecidableEq, Repr

namespace Level

def options : Level → List Opt
  | top => [.format, .verbose, .help, .version]
  | suite => [.loop, .manifest, .format, .verbose, .help]
  | fixture => [.format, .verbose, .help]

end Level

/-- The values given at one level. -/
structure Given where
  format : Option Summary.Format := none
  verbose : Option Nat := none
  loop : Bool := false
  manifest : Option String := none
  plan : Option String := none

/-- An option or a positional argument that is not entered yet. -/
inductive Pending where
  | nothing
  /-- An option whose value is the next argument. -/
  | awaiting (o : Opt)
  | option (o : Opt) (value : String)
  | plan (value : String)

/-- The state of reading one level. -/
structure Scan where
  given : Given := {}
  pending : Pending := .nothing
  /-- Whether the positional argument has been seen. -/
  planSeen : Bool := false

/-- A path argument is not empty. -/
def checkPath (value : String) : Except UsageError String :=
  if value.isEmpty then .error .invalidValue else .ok value

/-- Enter the value of an option, which may have one value only. -/
def enterOption (g : Given) (o : Opt) (value : String) : Except UsageError Given :=
  match o with
  | .format =>
    if g.format.isSome then .error .argumentConflict
    else
      match Summary.Format.all.find? (·.name = value) with
      | some format => .ok { g with format := some format }
      | none => .error .invalidValue
  | .manifest => do
    if g.manifest.isSome then throw .argumentConflict
    return { g with manifest := some (← checkPath value) }
  | _ => .error .tooManyValues

/-- Enter what is pending. -/
def settle (s : Scan) : Except UsageError Scan :=
  match s.pending with
  | .nothing => .ok s
  | .awaiting _ => .error .invalidValue
  | .option o value => do
    return { s with given := ← enterOption s.given o value, pending := .nothing }
  | .plan value => do
    let path ← checkPath value
    return { s with given := { s.given with plan := some path }, pending := .nothing }

/-- The greatest count of an option that is counted. -/
def countLimit : Nat := 255

/-- Enter an option without a value. -/
def enterFlag (s : Scan) (o : Opt) : Except UsageError Scan := do
  let s ← settle s
  match o with
  | .verbose =>
    let n := min countLimit (s.given.verbose.getD 0 + 1)
    return { s with given := { s.given with verbose := some n } }
  | .loop =>
    if s.given.loop then throw .argumentConflict
    return { s with given := { s.given with loop := true } }
  | .help => throw .displayHelp
  | .version => throw .displayVersion
  | _ => throw .invalidValue

/-- Enter an option with the value attached to it, or leave it pending until its value comes. -/
def enterValued (s : Scan) (o : Opt) (attached : Option String) : Except UsageError Scan := do
  let s ← settle s
  match attached with
  | some value => return { s with given := ← enterOption s.given o value }
  | none => return { s with pending := .awaiting o }

/-- A word of short options: flags, and perhaps one option with a value, which takes the rest of
the word. -/
def shortOptions (level : Level) (s : Scan) : List Char → Except UsageError Scan
  | [] => .ok s
  | c :: cs =>
    match level.options.find? (·.short = c) with
    | none => .error .unknownArgument
    | some o =>
      if o.takesValue then
        let attached :=
          match cs with
          | [] => none
          | '=' :: value => some (String.ofList value)
          | value => some (String.ofList value)
        enterValued s o attached
      else do shortOptions level (← enterFlag s o) cs

/-- A long option, perhaps with a value after an equals sign. -/
def longOption (level : Level) (s : Scan) (body : List Char) : Except UsageError Scan :=
  let name := String.ofList (body.takeWhile (· != '='))
  let attached := if body.contains '=' then
    some (String.ofList ((body.dropWhile (· != '=')).drop 1)) else none
  match level.options.find? (·.long = name) with
  | none => .error .unknownArgument
  | some o =>
    if o.takesValue then enterValued s o attached
    else if attached.isSome then .error .tooManyValues
    else enterFlag s o

/-- An argument that is no option. -/
def positional (level : Level) (trailing : Bool) (s : Scan) (arg : String) :
    Except UsageError Scan :=
  match level with
  | .top =>
    if trailing && (Subcommand.ofName? arg).isSome then .error .unknownArgument
    else .error .invalidSubcommand
  | .suite => .error .unknownArgument
  | .fixture =>
    if s.planSeen then .error .unknownArgument
    else do
      let s ← settle s
      return { s with pending := .plan arg, planSeen := true }

/-- The values of a level, and the subcommand that ends it with the arguments after it. -/
def readLevel (level : Level) (trailing : Bool) (s : Scan) :
    List String → Except UsageError (Scan × Option (Subcommand × List String))
  | [] => .ok (s, none)
  | arg :: rest => do
    if trailing then return ← readLevel level true (← positional level true s arg) rest
    let subcommand :=
      match level, s.pending with
      | .top, .awaiting _ => none
      | .top, _ => Subcommand.ofName? arg
      | _, _ => none
    if let some c := subcommand then return (s, some (c, rest))
    match arg.toList, s.pending with
    | ['-', '-'], _ => readLevel level true s rest
    | '-' :: '-' :: body, _ => do readLevel level false (← longOption level s body) rest
    | '-' :: c :: body, _ => do readLevel level false (← shortOptions level s (c :: body)) rest
    | _, .awaiting o => readLevel level false { s with pending := .option o arg } rest
    | _, _ => do readLevel level false (← positional level false s arg) rest

/-- What the program is asked to do. -/
inductive Command where
  | suite (repeated : Bool) (manifest : Path)
  | fixture (plan : Path)
deriving DecidableEq, Repr, Inhabited

/-- How the program is called. Models `Cli`. -/
structure Invocation where
  format : Summary.Format := .table
  verbose : Nat := 0
  command : Command
deriving DecidableEq, Repr, Inhabited

namespace Invocation

/-- The least severe messages that are logged. Models `Cli.log_level`. -/
def logLevel (i : Invocation) : String :=
  match i.verbose with
  | 0 => "warn"
  | 1 => "info"
  | 2 => "debug"
  | _ => "trace"

end Invocation

/-- The manifest of a suite, unless an option or the environment names another. -/
def defaultManifest : String := "suite.toml"

/-- The command of a level that has been read to its end. -/
def commandOf (level : Level) (given : Given) (manifestVariable : Option String) :
    Except UsageError Command :=
  match level with
  | .top => .error .missingSubcommand
  | .suite =>
    match given.manifest, manifestVariable with
    | some path, _ => .ok (.suite given.loop ⟨path⟩)
    | none, some path => do return .suite given.loop ⟨← checkPath path⟩
    | none, none => .ok (.suite given.loop ⟨defaultManifest⟩)
  | .fixture =>
    match given.plan with
    | some path => .ok (.fixture ⟨path⟩)
    | none => .error .missingRequiredArgument

/-- Read the arguments after the name of a subcommand. -/
def readSubcommand (c : Subcommand) (rest : List String) (manifestVariable : Option String) :
    Except UsageError (Given × Command) := do
  let level : Level ←
    match c with
    | .suite => pure .suite
    | .fixture => pure .fixture
    | .help =>
      if rest.all fun name => (Subcommand.ofName? name).isSome && rest.length ≤ 1 then
        throw .displayHelp
      else throw .invalidSubcommand
  let (s, _) ← readLevel level false {} rest
  let s ← settle s
  return (s.given, ← commandOf level s.given manifestVariable)

/-- Read the arguments of the program, without its name. `manifestVariable` is the environment
variable that may name the manifest. -/
def parse (args : List String) (manifestVariable : Option String) :
    Except UsageError Invocation := do
  let (s, subcommand) ← readLevel .top false {} args
  match subcommand with
  | none =>
    let s ← settle s
    if s.given.format.isNone && s.given.verbose.isNone then throw .helpOnMissingArgument
    throw .missingSubcommand
  | some (c, rest) =>
    let (given, command) ← readSubcommand c rest manifestVariable
    let s ← settle s
    return {
      format := (given.format.or s.given.format).getD .table
      verbose := (given.verbose.or s.given.verbose).getD 0
      command }

end ClusterHarness.Cli
