import ClusterHarness.Text.Lines

/-!
# Draining output

A drain forwards the lines of a stream under a label until the stream ends, a line is no text, or
the drain is cancelled. It starts with what the reader before it had not consumed, so no line is
lost between the two.
-/

namespace ClusterHarness

/-- Why a drain is over. Models `DrainOutcome`. -/
inductive DrainEnd where
  | endOfStream
  | cancelled
deriving DecidableEq, Repr, Inhabited

namespace DrainEnd

def name : DrainEnd → String
  | endOfStream => "end-of-stream"
  | cancelled => "cancelled"

end DrainEnd

/-- The next line among bytes that were read from a stream, and the bytes after it. The last line
of a closed stream needs no line feed. -/
def nextLine? (closed : Bool) (unread : Bytes) : Option (Bytes × Bytes) :=
  match Text.cut 0x0a unread with
  | (line, some rest) => some (Text.dropReturn 0x0d line, rest)
  | (line, none) => if closed && !line.isEmpty then some (line, []) else none

/-- Taking a line consumes something. -/
theorem length_of_nextLine? {closed : Bool} {unread line rest : Bytes}
    (h : nextLine? closed unread = some (line, rest)) : rest.length < unread.length := by
  unfold nextLine? at h
  split at h
  · next l r hc =>
    simp only [Option.some.injEq, Prod.mk.injEq] at h
    exact h.2 ▸ Text.length_of_cut hc
  · next l hc =>
    split at h
    · next hne =>
      simp only [Option.some.injEq, Prod.mk.injEq] at h
      cases unread with
      | nil => simp [Text.cut] at hc; simp [hc] at hne
      | cons b bs => simp [← h.2]
    · simp at h

/-- A drain at work, or over. Models the task of a `DrainHandle`. -/
structure Drain where
  label : String
  /-- Bytes read from the stream of which no line is complete yet. -/
  unread : Bytes := []
  ended : Option DrainEnd := none
deriving DecidableEq, Repr, Inhabited

namespace Drain

/-- Forward the lines among the bytes read so far. Models the loop of `drain.start`. -/
def forward (closed : Bool) (d : Drain) : List String × Drain :=
  match _h : nextLine? closed d.unread with
  | none => ([], { d with ended := if closed then some .endOfStream else none })
  | some (line, rest) =>
    match Text.ofBytes? line with
    | none => ([], { d with unread := rest, ended := some .endOfStream })
    | some text =>
      let (lines, d) := forward closed { d with unread := rest }
      (text :: lines, d)
termination_by d.unread.length
decreasing_by exact length_of_nextLine? _h

/-- Take more bytes of the stream, of which `closed` says whether they are the last. -/
def receive (d : Drain) (bytes : Bytes) (closed : Bool) : List String × Drain :=
  if d.ended.isSome then ([], d) else forward closed { d with unread := d.unread ++ bytes }

/-- Stop a drain that is still at work. Models `DrainHandle.stop`. -/
def cancel (d : Drain) : Drain :=
  if d.ended.isSome then d else { d with ended := some .cancelled }

end Drain
end ClusterHarness
