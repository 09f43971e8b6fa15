import ClusterHarness.Machine.Octets

/-!
# Signals

The signals that processes send each other, by number or by name, what a process may do about
them, and what they do to a process that has not prepared for them.
-/

namespace ClusterHarness.Machine

/-- What a process does about a signal. -/
inductive Disposition where
  /-- Let it have its effect. -/
  | byDefault
  | ignore
  /-- Be told of it. -/
  | catch
deriving DecidableEq, Repr, Inhabited

namespace Signal

/-- What a signal does. -/
inductive Effect where
  | ends
  | stops
  | continues
  | nothing
deriving DecidableEq, Repr

/-- The names of the signals from number one on, and what is said of a process that one ends. -/
def described : List (String × String) :=
  [("HUP", "Hangup"), ("INT", "Interrupt"), ("QUIT", "Quit"), ("ILL", "Illegal instruction"),
    ("TRAP", "Trace/breakpoint trap"), ("ABRT", "Aborted"), ("BUS", "Bus error"),
    ("FPE", "Floating point exception"), ("KILL", "Killed"), ("USR1", "User defined signal 1"),
    ("SEGV", "Segmentation fault"), ("USR2", "User defined signal 2"), ("PIPE", "Broken pipe"),
    ("ALRM", "Alarm clock"), ("TERM", "Terminated"), ("16", "Stack fault"),
    ("CHLD", "Child exited"), ("CONT", "Continued"), ("STOP", "Stopped (signal)"),
    ("TSTP", "Stopped"), ("TTIN", "Stopped (tty input)"), ("TTOU", "Stopped (tty output)"),
    ("URG", "Urgent I/O condition"), ("XCPU", "CPU time limit exceeded"),
    ("XFSZ", "File size limit exceeded"), ("VTALRM", "Virtual timer expired"),
    ("PROF", "Profiling timer expired"), ("WINCH", "Window changed"), ("IO", "I/O possible"),
    ("PWR", "Power failure"), ("SYS", "Bad system call")]

/-- The greatest number of a signal. -/
def last : Nat := 64

def hangup : Nat := 1

def interrupt : Nat := 2

def quit : Nat := 3

def arithmetic : Nat := 8

def kill : Nat := 9

/-- Sent to a process that writes to a pipe which nobody reads. -/
def brokenPipe : Nat := 13

def terminate : Nat := 15

/-- Sent to the parent of a process that ends. -/
def child : Nat := 17

def stop : Nat := 19

/-- Sent by a keyboard to stop a process. -/
def keyboardStop : Nat := 20

def effect (signal : Nat) : Effect :=
  if signal = 0 || signal = child || signal = 23 || signal = 28 then .nothing
  else if signal = 18 then .continues
  else if stop ≤ signal && signal ≤ 22 then .stops
  else .ends

/-- Whether a process may do something about a signal. -/
def isCatchable (signal : Nat) : Bool := signal != kill && signal != stop

/-- The name of a signal; those in real time are counted from both ends. -/
def name (signal : Nat) : String :=
  if signal = 0 then "EXIT"
  else if signal < 32 then ((described[signal - 1]?).map (·.1)).getD ""
  else if signal < 34 then toString signal
  else if signal = 34 then "RTMIN"
  else if signal < 50 then s!"RTMIN+{signal - 34}"
  else if signal < last then s!"RTMAX-{last - signal}"
  else "RTMAX"

/-- What is said of a process that a signal ended. -/
def description (signal : Nat) : String :=
  if 34 ≤ signal then s!"Real-time signal {signal - 34}"
  else ((described[signal - 1]?).map (·.2)).getD s!"Unknown signal {signal}"

/-- The number of a signal that is given by number, or by name in letters of any case. The name
of what is no signal counts only if `least` is zero. -/
def ofOctets? (least : Nat) (o : Octets) : Option Nat :=
  match Octets.toNat? o with
  | some n => if n ≤ last then some n else none
  | none =>
    let upper := String.ofList (o.map Char.toUpper)
    (List.range (last + 1)).find? fun n => least ≤ n && name n == upper

end Signal
end ClusterHarness.Machine
