import ClusterHarness.Proofs.Subprocess.Ending
import ClusterHarness.Proofs.Suite.FailFast
import ClusterHarness.Suite.Scripts
import Mathlib.Data.Nat.Find

/-!
# How the scripts of a suite end

A run of a suite ends in one of three ways: by its first failure, at the bound of its mode, or not
in the passes that it is followed for. Where the tests are scripts, the status of a run is that of
the script that ended it.
-/

namespace ClusterHarness.Suite

variable {σ : Type}

/-! ## How a run ends -/

/-- How many passes of a run are looked at: all that its mode allows, or as many as it is followed
for after the first. -/
def Mode.horizon (mode : Mode) (patience : Nat) : Nat := mode.maxPasses.getD (patience + 1)

/-- Among some executions either none fails, or one is the first to fail. -/
theorem exists_failsFirstAt_or_passing (execute : TestRunner σ) (m : Manifest) (s : σ) (n : Nat) :
    (∃ j < n, FailsFirstAt execute m s j) ∨ ∀ i < n, statusAt execute m s i = 0 := by
  by_cases h : ∃ j, j < n ∧ statusAt execute m s j ≠ 0
  · obtain ⟨hlt, hfails⟩ := Nat.find_spec h
    refine .inl ⟨Nat.find h, hlt, hfails, fun i hi ↦ ?_⟩
    by_contra hi'
    exact Nat.find_min h hi ⟨hi.trans hlt, hi'⟩
  · exact .inr fun i hi ↦ not_not.mp fun hi' ↦ h ⟨i, hi, hi'⟩

/-- What a run reports, and after how many executions. -/
inductive Ends (execute : TestRunner σ) (m : Manifest) (mode : Mode) (patience : Nat) (s : σ) :
    Option Report → Nat → Prop
  /-- The last of them is the first that fails. -/
  | failed {j : Nat} : FailsFirstAt execute m s j → Ends execute m mode patience s
      (some (failedReport execute m s j)) (j + 1)
  /-- None fails, and the mode allows no more. -/
  | passed {p : Nat} : mode.maxPasses = some (p + 1) →
      (∀ i < (p + 1) * m.tests.length, statusAt execute m s i = 0) →
      Ends execute m mode patience s (some (passedReport execute m s p))
        ((p + 1) * m.tests.length)
  /-- None fails, and the run would go on. -/
  | ongoing : mode.maxPasses = none →
      (∀ i < (patience + 1) * m.tests.length, statusAt execute m s i = 0) →
      Ends execute m mode patience s none ((patience + 1) * m.tests.length)

/-- Every run ends in one of the three ways. -/
theorem exists_ends (execute : TestRunner σ) {m : Manifest} (hn : 0 < m.tests.length) (mode : Mode)
    (patience : Nat) (s : σ) :
    ∃ r count, Ends execute m mode patience s r count ∧
      reportOf (run execute m mode patience s) = (r, stateAt execute m s count) := by
  -- A failure behind the horizon is none of this run, whatever its executions would answer.
  obtain ⟨j, hj, hfails⟩ | hpassed :=
    exists_failsFirstAt_or_passing execute m s (mode.horizon patience * m.tests.length)
  · refine ⟨_, _, .failed hfails, run_of_failing hn hfails ?_ ?_⟩
    · intro b hb
      obtain ⟨q, hq, rfl⟩ := Option.map_eq_some_iff.mp hb
      simpa [Mode.horizon, hq] using hj
    · intro hb
      have hnone : mode.maxPasses = none := Option.map_eq_none_iff.mp hb
      rw [Mode.horizon, hnone] at hj
      exact Nat.le_of_lt_succ ((Nat.div_lt_iff_lt_mul hn).mpr hj)
  · unfold Mode.horizon at hpassed
    cases hq : mode.maxPasses with
    | none =>
      rw [hq] at hpassed
      exact ⟨_, _, .ongoing hq hpassed, run_of_unbounded hq hpassed⟩
    | some q =>
      obtain ⟨p, rfl⟩ := Nat.exists_eq_succ_of_ne_zero (pos_of_maxPasses_eq_some hq).ne'
      rw [hq] at hpassed
      exact ⟨_, _, .passed hq hpassed, run_of_passing patience hq hpassed⟩

/-! ## Scripts -/

section

variable (h : Host σ) (m : Manifest) (s : σ)

/-- How the script of execution number `i` ends, if it can be started. -/
def scriptEnding (i : Nat) : Option WaitStatus :=
  let before := (stateAt (scripts h) m ([], s) i).2
  (h.capture ((m.turn i).launch m.root) before).1.toOption.map (·.status)

/-- What an execution counts: the status of its script, or 1 for a script that cannot be started. -/
theorem statusAt_scripts (i : Nat) :
    statusAt (scripts h) m ([], s) i =
      ((scriptEnding h m s i).map (·.exitCode)).getD 1 := by
  unfold statusAt scriptEnding scripts
  dsimp only
  generalize h.capture _ _ = captured
  obtain ⟨e | c, t⟩ := captured <;> rfl

/-- Every execution leaves one entry of what it wrote. -/
theorem length_written (i : Nat) : (stateAt (scripts h) m ([], s) i).1.length = i := by
  induction i with
  | zero => rfl
  | succ i ih =>
    unfold stateAt
    generalize stateAt (scripts h) m ([], s) i = before at ih ⊢
    unfold scripts
    dsimp only
    generalize h.capture _ _ = captured
    obtain ⟨e | c, t⟩ := captured <;> simp [ih]

/-- Only a script that ends by itself with status zero counts zero. -/
theorem statusAt_scripts_eq_zero_iff {i : Nat} :
    statusAt (scripts h) m ([], s) i = 0 ↔ scriptEnding h m s i = some (.exited 0) := by
  rw [statusAt_scripts]
  cases scriptEnding h m s i with
  | none => simp
  | some w => simp [WaitStatus.exitCode_eq_zero_iff]

end

variable {h : Host σ} {m : Manifest} {s t : σ} {mode : Mode} {patience : Nat}
  {written : List Writing}

/-- A run with scripts ends in one of the three ways, after as many executions as have written. -/
theorem ends_scripts (hm : m.tests ≠ []) {o : Option Outcome}
    (hrun : run (scripts h) m mode patience ([], s) = (o, written, t)) :
    Ends (scripts h) m mode patience ([], s) (o.map Outcome.report) written.length := by
  obtain ⟨r, count, hends, hreport⟩ :=
    exists_ends (scripts h) (List.length_pos_iff.mpr hm) mode patience ([], s)
  rw [hrun] at hreport
  obtain ⟨hr, hstate⟩ := Prod.mk.inj hreport
  have hcount : written.length = count := by
    rw [← length_written h m s count, ← hstate]
    rfl
  replace hr : o.map Outcome.report = r := hr
  rwa [hr, hcount]

/-- The report of a run with scripts that comes to an end. Its status is zero exactly if all tests
were run and all their scripts have ended with zero. If not, only the last script that was run has
not, and its status is that of the run. -/
theorem exitCode_run_scripts (hm : m.tests ≠ []) {o : Outcome}
    (hrun : run (scripts h) m mode patience ([], s) = (some o, written, t)) :
    (o.report.exitCode = 0 ↔ m.tests.length ≤ written.length ∧
      ∀ i < written.length, scriptEnding h m s i = some (.exited 0)) ∧
    (o.report.exitCode ≠ 0 → ∃ n, written.length = n + 1 ∧
      (∀ i < n, scriptEnding h m s i = some (.exited 0)) ∧
      (∀ w, scriptEnding h m s n = some w → w ≠ .exited 0 ∧ o.report.exitCode = w.exitCode) ∧
      (scriptEnding h m s n = none → o.report.exitCode = 1)) := by
  have hends := ends_scripts hm hrun
  generalize hr : (some o).map Outcome.report = r at hends
  generalize written.length = count at hends ⊢
  cases hends with
  | ongoing => cases hr
  | @passed p _ hpassed =>
    have hzero : o.report.exitCode = 0 := congrArg Report.exitCode (Option.some.inj hr)
    have hall : m.tests.length ≤ (p + 1) * m.tests.length :=
      Nat.le_mul_of_pos_left _ (Nat.succ_pos p)
    refine ⟨iff_of_true hzero ⟨hall, fun i hi ↦ ?_⟩, fun hne ↦ absurd hzero hne⟩
    exact (statusAt_scripts_eq_zero_iff h m s).mp (hpassed i hi)
  | @failed n hfails =>
    have hcode : o.report.exitCode = statusAt (scripts h) m ([], s) n :=
      congrArg Report.exitCode (Option.some.inj hr)
    have hne : o.report.exitCode ≠ 0 := hcode ▸ hfails.status_ne_zero
    have hbefore (i : Nat) (hi : i < n) : scriptEnding h m s i = some (.exited 0) :=
      (statusAt_scripts_eq_zero_iff h m s).mp (hfails.before i hi)
    refine ⟨iff_of_false hne fun hall ↦ ?_, fun _ ↦ ⟨n, rfl, hbefore, fun w hw ↦ ?_, ?_⟩⟩
    · refine hfails.status_ne_zero ?_
      exact (statusAt_scripts_eq_zero_iff h m s).mpr (hall.2 n (Nat.lt_succ_self n))
    · rw [statusAt_scripts, hw] at hcode
      exact ⟨fun hzero ↦ hne (hcode.trans (WaitStatus.exitCode_eq_zero_iff.mpr hzero)), hcode⟩
    · intro hnone
      rwa [statusAt_scripts, hnone] at hcode

/-- A run with scripts that does not come to an end has no bound, and no script has failed in it. -/
theorem scriptEnding_of_run_eq_none (hm : m.tests ≠ [])
    (hrun : run (scripts h) m mode patience ([], s) = (none, written, t)) :
    mode.maxPasses = none ∧
      ∀ i < (patience + 1) * m.tests.length, scriptEnding h m s i = some (.exited 0) := by
  have hends := ends_scripts hm hrun
  generalize hr : (none : Option Outcome).map Outcome.report = r at hends
  generalize written.length = count at hends
  cases hends with
  | failed => cases hr
  | passed => cases hr
  | ongoing hmax hpassed =>
    exact ⟨hmax, fun i hi ↦ (statusAt_scripts_eq_zero_iff h m s).mp (hpassed i hi)⟩

end ClusterHarness.Suite
