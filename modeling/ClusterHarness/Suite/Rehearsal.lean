import ClusterHarness.Suite.Run

/-!
# Rehearsing a suite

An executor that runs nothing: every test answers the statuses that were written down for it, one
call after the other, and the calls are recorded.
-/

namespace ClusterHarness.Suite

/-- The calls made so far, the latest first, and how often each test was called. -/
structure Rehearsal where
  calls : List (String × Path) := []

namespace Rehearsal

/-- The status of a call: the last status of a test repeats, and a test without any passes. -/
def status (statuses : List (String × List Int)) (name : String) (before : Nat) : Int :=
  let answers := (statuses.lookup name).getD []
  (answers[before]?.or answers.getLast?).getD 0

/-- Answer from the statuses. The call number `last` fails with status 99, so that a run that
nothing else ends is ended by it. -/
def testRunner (statuses : List (String × List Int)) (last : Nat) : TestRunner Rehearsal :=
  fun t root s =>
    let before := (s.calls.filter (·.1 == t.name)).length
    let s' : Rehearsal := ⟨(t.name, t.scriptFile root) :: s.calls⟩
    (if s'.calls.length = last then 99 else status statuses t.name before, s')

end Rehearsal
end ClusterHarness.Suite
