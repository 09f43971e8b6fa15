import ClusterHarness.Machine.Shell.Session
import ClusterHarness.Machine.Tool.Files
import ClusterHarness.Machine.Tool.Printing
import ClusterHarness.Machine.Tool.Processes
import ClusterHarness.Machine.Tool.Text

/-!
# Tools

The programs that every machine brings along. Each is a task made from its arguments, of which the
first is its name, and its environment.
-/

namespace ClusterHarness.Machine.Tool

/-- The names of the tools. -/
def names : List String :=
  ["sh", "dash", "true", "false", "cat", "tee", "head", "tail", "wc", "tr", "sort", "echo",
    "printf", "seq", "pwd", "basename", "dirname", "touch", "mkdir", "rm", "rmdir", "ls", "cp",
    "mv", "chmod", "sleep", "env", "test", "[", "kill"]

/-- What a tool that is no shell does with its arguments, and the status with which it fails. -/
def simple? (name : String) (args vars : List Octets) : Option (Nat × Simple Nat) :=
  match name with
  | "true" => some (1, return 0)
  | "false" => some (1, return 1)
  | "cat" => some (1, cat args)
  | "tee" => some (1, tee args)
  | "head" => some (1, head args)
  | "tail" => some (1, tail args)
  | "wc" => some (1, wc args)
  | "tr" => some (1, tr args)
  | "sort" => some (2, sort args)
  | "echo" => some (1, echo args)
  | "printf" => some (1, printf args)
  | "seq" => some (1, seq args)
  | "pwd" => some (1, pwd)
  | "basename" => some (1, basename args)
  | "dirname" => some (1, dirname args)
  | "touch" => some (1, touch args)
  | "mkdir" => some (1, mkdir args)
  | "rm" => some (1, rm args)
  | "rmdir" => some (1, rmdir args)
  | "ls" => some (2, ls args)
  | "cp" => some (1, cp args)
  | "mv" => some (1, mv args)
  | "chmod" => some (1, chmod args)
  | "sleep" => some (1, sleep args)
  | "env" => some (125, env args vars)
  | "test" => some (2, test args)
  | "[" => some (2, testBracketed args)
  | "kill" => some (1, kill args)
  | _ => none

/-- The task of a tool. -/
def task (name : String) (args vars : List Octets) : Task :=
  match simple? name args.tail vars with
  | some (failure, p) => taskOf (args.headD name.toList) failure p
  | none => Shell.Session.task args vars

end ClusterHarness.Machine.Tool
