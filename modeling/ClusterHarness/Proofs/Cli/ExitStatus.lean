import ClusterHarness.Cli.Run
import ClusterHarness.Proofs.Fixture.Endings
import ClusterHarness.Proofs.Loading
import ClusterHarness.Proofs.Suite.Endings

/-!
# The exit status of a command

The status of a child passes through the report of a suite or a fixture, or through a failure, and
then through one byte, before the program ends with it. No way changes it on the way or makes zero
of it: a command ends with zero only if every child that counts has ended with zero.
-/

namespace ClusterHarness.Cli

variable {σ : Type}

/-! ## One byte -/

private theorem statusByte_eq_zero_iff {status : Int} : statusByte status = 0 ↔ status = 0 := by
  unfold statusByte
  split <;> omega

private theorem statusByte_le (status : Int) : statusByte status ≤ 255 := by
  unfold statusByte
  split <;> omega

private theorem statusByte_natCast {n : Nat} (hn : n ≤ 255) : statusByte n = n := by
  unfold statusByte
  split <;> omega

/-- The status of the program is one byte. -/
theorem Outcome.exitStatus_le (o : Outcome) : o.exitStatus ≤ 255 := by
  unfold exitStatus
  cases o.status <;> exact statusByte_le _

/-- The exit status that a failure has: the status of the child that failed, or 128 more than the
number of the signal that it died of. It is 1 where no child has ended. -/
def StandsFor (status : Nat) : Option WaitStatus → Prop
  | some (.exited code) => code ≠ 0 ∧ status ≠ 0 ∧ (code ≤ 255 → status = code)
  | some (.signaled signal) => status ≠ 0 ∧ (signal ≤ 127 → status = 128 + signal)
  | none => status = 1

/-- Every status that a child can end with fits one byte. -/
theorem standsFor_statusByte {w : WaitStatus} (hw : w ≠ .exited 0) :
    StandsFor (statusByte w.exitCode) (some w) := by
  have hne : statusByte w.exitCode ≠ 0 := fun h ↦
    hw (WaitStatus.exitCode_eq_zero_iff.mp (statusByte_eq_zero_iff.mp h))
  cases w with
  | exited code => exact ⟨fun h ↦ hw (h ▸ rfl), hne, statusByte_natCast⟩
  | signaled signal =>
    refine ⟨hne, fun hsignal ↦ ?_⟩
    have hsum : 128 + signal ≤ 255 := by omega
    exact statusByte_natCast hsum

/-- An exit code that is that of a child, or 1 where none has ended, makes the exit status. -/
theorem standsFor_of_exitCode {ending : Option WaitStatus} {code : Int}
    (hchild : ∀ w, ending = some w → w ≠ .exited 0 ∧ code = w.exitCode)
    (hnone : ending = none → code = 1) : StandsFor (statusByte code) ending := by
  cases ending with
  | none =>
    rw [hnone rfl]
    rfl
  | some w =>
    obtain ⟨hw, rfl⟩ := hchild w rfl
    exact standsFor_statusByte hw

/-- The largest signal is the last status that fits, and what does not fit is no success. -/
example : [WaitStatus.signaled 127, .exited 256, .exited 512].map (statusByte ·.exitCode) =
    [255, 1, 1] := by decide

/-! ## Suites -/

/-- The exit status of a suite agrees with the scripts that were run for it: every test was run, and
all scripts have ended with zero, or the last script is the only one that has not. -/
structure SuiteAgrees (h : Host σ) (m : Suite.Manifest) (s : σ) (executions status : Nat) :
    Prop where
  eq_zero_iff : status = 0 ↔ m.tests.length ≤ executions ∧
    ∀ i < executions, Suite.scriptEnding h m s i = some (.exited 0)
  of_ne_zero : status ≠ 0 → ∃ n, executions = n + 1 ∧
    (∀ i < n, Suite.scriptEnding h m s i = some (.exited 0)) ∧
    StandsFor status (Suite.scriptEnding h m s n)

/-- What a suite ends with that is followed for `more` passes after the first. -/
def suiteOutcome (h : Host σ) (format : Summary.Format) (m : Suite.Manifest) (mode : Suite.Mode)
    (more : Nat) (s : σ) : Option Outcome :=
  let (o, written, _) := Suite.run (Suite.scripts h) m mode more ([], s)
  o.map fun o =>
    { status := .ok o.report.exitCode, notices := o.notices, written
      summary := Summary.suite format o.report }

section

variable {h : Host σ} {format : Summary.Format} {m : Suite.Manifest} {mode : Suite.Mode}
  {more : Nat} {s : σ}

private theorem suiteAgrees_of_suiteOutcome (hm : m.tests ≠ []) {o : Outcome}
    (ho : suiteOutcome h format m mode more s = some o) :
    SuiteAgrees h m s o.written.length o.exitStatus := by
  unfold suiteOutcome at ho
  cases hrun : Suite.run (Suite.scripts h) m mode more ([], s) with
  | mk ended rest =>
  obtain ⟨written, t⟩ := rest
  rw [hrun] at ho
  obtain ⟨x, rfl, rfl⟩ := Option.map_eq_some_iff.mp ho
  obtain ⟨hzero, hfails⟩ := Suite.exitCode_run_scripts hm hrun
  refine ⟨statusByte_eq_zero_iff.trans hzero, fun hne ↦ ?_⟩
  obtain ⟨n, hn, hbefore, hchild, hnone⟩ := hfails (mt statusByte_eq_zero_iff.mpr hne)
  exact ⟨n, hn, hbefore, standsFor_of_exitCode hchild hnone⟩

private theorem scriptEnding_of_suiteOutcome_eq_none (hm : m.tests ≠ [])
    (ho : suiteOutcome h format m mode more s = none) :
    mode.maxPasses = none ∧
      ∀ i < (more + 1) * m.tests.length, Suite.scriptEnding h m s i = some (.exited 0) := by
  unfold suiteOutcome at ho
  cases hrun : Suite.run (Suite.scripts h) m mode more ([], s) with
  | mk ended rest =>
  obtain ⟨written, t⟩ := rest
  rw [hrun] at ho
  rw [Option.map_eq_none_iff.mp ho] at hrun
  exact Suite.scriptEnding_of_run_eq_none hm hrun

end

/-! ## Fixtures -/

/-- The exit status of a fixture agrees with the steps of its run: all steps of the course went well
and with them the admin tool, the clients and the servers that were reaped, or the last step that
was taken is the only one that did not. -/
structure FixtureAgrees (h : Host σ) (plan : Plan) (s : σ) (status : Nat) : Prop where
  eq_zero_iff : status = 0 ↔
    ((Fixture.Setup.ofPlan h plan).moments s).map (·.step) = plan.course ∧
      ∀ m ∈ (Fixture.Setup.ofPlan h plan).moments s, m.outcome = .ok () ∧
        ∀ w ∈ Fixture.childEnding h plan m.found m.step, w = .exited 0
  of_ne_zero : status ≠ 0 → ∃ past m e,
    (Fixture.Setup.ofPlan h plan).moments s = past ++ [m] ∧ m.outcome = .error e ∧
      (∀ m' ∈ past, m'.outcome = .ok () ∧
        ∀ w ∈ Fixture.childEnding h plan m'.found m'.step, w = .exited 0) ∧
      StandsFor status (Fixture.childEnding h plan m.found m.step)

private theorem fixtureAgrees_run (h : Host σ) (plan : Plan) (s : σ) :
    FixtureAgrees h plan s (statusByte ((Fixture.Setup.ofPlan h plan).run s).1.exitCode) := by
  have hsucceeded := (Fixture.Setup.succeeded_iff (Fixture.Setup.ofPlan h plan) s).2.2.2
  refine ⟨?_, fun hne ↦ ?_⟩
  · rw [statusByte_eq_zero_iff]
    constructor
    · intro hzero
      exact ⟨(Fixture.Setup.trail_of_follow_eq_ok (hsucceeded.mp hzero)).1,
        Fixture.exitCode_run_eq_zero_iff.mp hzero⟩
    · rintro ⟨-, hall⟩
      exact Fixture.exitCode_run_eq_zero_iff.mpr hall
  · cases he : ((Fixture.Setup.ofPlan h plan).attempt.run { world := s }).1 with
    | ok => exact absurd (statusByte_eq_zero_iff.mpr (hsucceeded.mpr he)) hne
    | error e =>
      obtain ⟨past, m, hm, houtcome, hpast, hchild, hnone⟩ := Fixture.exitCode_run_of_error he
      exact ⟨past, m, e, hm, houtcome, hpast, standsFor_of_exitCode hchild hnone⟩

/-! ## Commands -/

/-- What is not loaded has a failure without a status, and the command ends with 1. -/
theorem exitStatus_of_statusless {α : Type} {r : Except Failure α} (hr : Statusless r) {e : Failure}
    (he : r = .error e) : (Outcome.exitStatus { status := .error (.harness e) }) = 1 := by
  show statusByte e.exitCode = 1
  rw [Failure.exitCode_eq, hr e he]
  rfl

/-- No layer of the program turns a failure into a success. A suite ends with zero exactly if every
test was run and every script that was run has ended with zero, and a fixture exactly if all its
steps went well and every run of the admin tool, every client and every reaped server has ended with
zero. Otherwise the program ends with the status of the one child that failed, and with 1 if none
did: if a script cannot be started, the harness fails in any other way, or there is no plan or
manifest to be loaded. A suite comes to no end only if it is repeated without a bound and none of
its scripts fails. -/
theorem exit_status_of_children (h : Host σ) (i : Invocation) (s : σ) :
    (∀ o, (run h i s).1 = some o → o.exitStatus ≤ 255) ∧
    match i.command with
    | .suite repeated path =>
      match Suite.Manifest.ofFile path (h.readText path s) with
      | .error _ => ∃ o, run h i s = (some o, s) ∧ o.exitStatus = 1
      | .ok m =>
        (run h i s).1 = suiteOutcome h i.format m (if repeated then .repeated none else .once)
          patience s ∧
        ∀ mode more,
          (∀ o, suiteOutcome h i.format m mode more s = some o →
            SuiteAgrees h m s o.written.length o.exitStatus) ∧
          (suiteOutcome h i.format m mode more s = none → mode.maxPasses = none ∧
            ∀ k < (more + 1) * m.tests.length, Suite.scriptEnding h m s k = some (.exited 0))
    | .fixture path =>
      match Plan.ofFile path (h.readText path s) with
      | .error _ => ∃ o, run h i s = (some o, s) ∧ o.exitStatus = 1
      | .ok plan => ∃ o, (run h i s).1 = some o ∧ FixtureAgrees h plan s o.exitStatus := by
  refine ⟨fun o _ ↦ o.exitStatus_le, ?_⟩
  obtain ⟨format, verbose, command⟩ := i
  cases command with
  | suite repeated path =>
    unfold run runSuite
    dsimp only
    cases hm : Suite.Manifest.ofFile path (h.readText path s) with
    | error e =>
      exact ⟨_, rfl, exitStatus_of_statusless (Suite.Manifest.statusless_ofFile path _) hm⟩
    | ok m =>
      have htests := Suite.Manifest.tests_ne_nil_of_ofFile hm
      exact ⟨rfl, fun mode more ↦ ⟨fun o ho ↦ suiteAgrees_of_suiteOutcome htests ho,
        scriptEnding_of_suiteOutcome_eq_none htests⟩⟩
  | fixture path =>
    unfold run runFixture
    dsimp only
    cases hplan : Plan.ofFile path (h.readText path s) with
    | error e => exact ⟨_, rfl, exitStatus_of_statusless (Plan.statusless_ofFile path _) hplan⟩
    | ok plan => exact ⟨_, rfl, fixtureAgrees_run h plan s⟩

end ClusterHarness.Cli
