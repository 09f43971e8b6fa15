import ClusterHarness.Text.Utf8

/-!
# What the system reports

The causes for which the operating system refuses a request of the harness, with their texts, and
how it tells that a process ended: with a status of its own or by a signal. The harness counts both
endings as one number.
-/

namespace ClusterHarness

/-! ## Failures -/

/-- Why an operation on a file or a process failed. -/
inductive IoError where
  | notFound
  | interrupted
  | argumentsTooLong
  | badExecutable
  | badDescriptor
  | permissionDenied
  | alreadyExists
  | notADirectory
  | isADirectory
  | invalidArgument
  | nameTooLong
  | notEmpty
  | brokenPipe
  | tooManyLinks
  /-- A text file that is not UTF-8. -/
  | notText
  /-- A line that is not UTF-8. -/
  | malformedLine (fault : Text.Malformed)
  /-- A path or an argument that holds a NUL. -/
  | containsNul
  | other (text : String)
deriving DecidableEq, Repr, Inhabited

namespace IoError

/-- The words of a failure, and the number by which the system reports it. -/
def described : IoError → String × Option Nat
  | notFound => ("No such file or directory", some 2)
  | interrupted => ("Interrupted system call", some 4)
  | argumentsTooLong => ("Argument list too long", some 7)
  | badExecutable => ("Exec format error", some 8)
  | badDescriptor => ("Bad file descriptor", some 9)
  | permissionDenied => ("Permission denied", some 13)
  | alreadyExists => ("File exists", some 17)
  | notADirectory => ("Not a directory", some 20)
  | isADirectory => ("Is a directory", some 21)
  | invalidArgument => ("Invalid argument", some 22)
  | brokenPipe => ("Broken pipe", some 32)
  | nameTooLong => ("File name too long", some 36)
  | notEmpty => ("Directory not empty", some 39)
  | tooManyLinks => ("Too many levels of symbolic links", some 40)
  | notText => ("stream did not contain valid UTF-8", none)
  | malformedLine ⟨start, some length⟩ =>
    (s!"invalid utf-8 sequence of {length} bytes from index {start}", none)
  | malformedLine ⟨start, none⟩ => (s!"incomplete utf-8 byte sequence from index {start}", none)
  | containsNul => ("file name contained an unexpected NUL byte", none)
  | other text => (text, none)

def words (e : IoError) : String := e.described.1

def message (e : IoError) : String :=
  match e.described with
  | (words, some number) => s!"{words} (os error {number})"
  | (words, none) => words

end IoError

/-! ## Endings of processes -/

/-- How a process ended. -/
inductive WaitStatus where
  | exited (code : Nat)
  | signaled (signal : Nat)
deriving DecidableEq, Repr, Inhabited

namespace WaitStatus

/-- The status as one number: a signal counts as 128 more than its own number. Models
`exit_code_of`. -/
def exitCode : WaitStatus → Int
  | exited code => code
  | signaled signal => 128 + signal

end WaitStatus
end ClusterHarness
