import ClusterHarness.Suite.Run
import Mathlib.Data.List.Range

/-!
# Suite runs are fail-fast

The executions of a suite are numbered through all its passes. A run makes them in that order up
to the first that fails, or until its mode allows no more, and its report shows those of the last
pass. What each of them would answer does not depend on where the run stops.
-/

namespace ClusterHarness.Suite

variable {σ : Type}

/-- The test of execution number `i`: the tests take turns in the order of the manifest. -/
def Manifest.turn (m : Manifest) (i : Nat) : Test := m.tests[i % m.tests.length]?.getD default

/-- How many passes a mode allows, if there is a bound. The first pass is always made. -/
def Mode.maxPasses : Mode → Option Nat
  | .once => some 1
  | .repeated limit => limit.map (max · 1)

/-- How many executions a mode allows, if there is a bound. -/
def Mode.budget (m : Manifest) (mode : Mode) : Option Nat :=
  mode.maxPasses.map (· * m.tests.length)

/-- What passes report, without their notices. -/
def reported (x : Outcome × σ) : Report × σ := x.map Outcome.report id

section Executions

variable (execute : TestRunner σ) (m : Manifest) (s : σ)

/-- The state that execution number `i` finds if all before it are made. -/
def stateAt : Nat → σ
  | 0 => s
  | i + 1 => (execute (m.turn i) m.root (stateAt i)).2

/-- The status of execution number `i`. -/
def statusAt (i : Nat) : Int := (execute (m.turn i) m.root (stateAt execute m s i)).1

/-- The record of execution number `i`, with the number of its pass. -/
def executionAt (i : Nat) : Execution where
  name := (m.turn i).name
  directory := (m.turn i).directory m.root
  iteration := i / m.tests.length + 1
  exitCode := statusAt execute m s i

/-- Execution number `j` fails, and none before it does. -/
structure FailsFirstAt (j : Nat) : Prop where
  status_ne_zero : statusAt execute m s j ≠ 0
  before (i : Nat) : i < j → statusAt execute m s i = 0

/-- The report of a run that execution number `j` has ended by its failure. -/
def failedReport (j : Nat) : Report where
  records := (List.range' (j / m.tests.length * m.tests.length) (j % m.tests.length + 1)).map
    (executionAt execute m s)
  iterations := j / m.tests.length + 1
  failure := some (executionAt execute m s j)

/-- The report of a run without a failure, of which pass number `p + 1` is the last. -/
def passedReport (p : Nat) : Report where
  records := (List.range' (p * m.tests.length) m.tests.length).map (executionAt execute m s)
  iterations := p + 1

end Executions

variable {execute : TestRunner σ} {m : Manifest} {s : σ}

@[simp]
private theorem stateAt_zero : stateAt execute m s 0 = s := rfl

/-! ## One pass -/

/-- In every pass each test has one turn, in the order of the manifest. -/
theorem map_turn_pass (m : Manifest) (p : Nat) :
    (List.range' (p * m.tests.length) m.tests.length).map m.turn = m.tests := by
  apply List.ext_getElem
  · simp
  · intro k hk hk'
    have hmod : (p * m.tests.length + k) % m.tests.length = k := by
      rw [Nat.mul_add_mod_self_right, Nat.mod_eq_of_lt hk']
    simp [Manifest.turn, hmod, hk']

private theorem div_length_of_pass {p k : Nat} (hlow : p * m.tests.length ≤ k)
    (hhigh : k < p * m.tests.length + m.tests.length) : k / m.tests.length = p :=
  Nat.div_eq_of_lt_le hlow (by rwa [Nat.succ_mul])

/-- The first of some turns is taken, and the others only if it does not fail. -/
theorem runTests_cons_turn {p i : Nat} (number : Option Nat) (ts : List Test)
    (hp : i / m.tests.length = p) :
    reported (runTests execute m.root (p + 1) number (m.turn i :: ts) (stateAt execute m s i)) =
      if statusAt execute m s i = 0 then
        let (r, t) := reported
          (runTests execute m.root (p + 1) number ts (stateAt execute m s (i + 1)))
        ({ r with records := executionAt execute m s i :: r.records }, t)
      else
        ({ records := [executionAt execute m s i], iterations := p + 1,
           failure := some (executionAt execute m s i) }, stateAt execute m s (i + 1)) := by
  subst hp
  have hpassed : (executionAt execute m s i).passed = true ↔ statusAt execute m s i = 0 := by
    simp [Execution.passed, executionAt]
  conv_lhs => unfold runTests
  show reported (if (executionAt execute m s i).passed = true then _ else _) = _
  by_cases h : statusAt execute m s i = 0
  · rw [if_pos h, if_pos (hpassed.mpr h)]
    rfl
  · rw [if_neg h, if_neg (mt hpassed.mp h)]
    rfl

/-- Turns none of which fails are all taken. -/
theorem runTests_of_passing {p i n : Nat} (number : Option Nat)
    (hp : ∀ k, i ≤ k → k < i + n → k / m.tests.length = p)
    (h : ∀ k, i ≤ k → k < i + n → statusAt execute m s k = 0) :
    reported (runTests execute m.root (p + 1) number ((List.range' i n).map m.turn)
        (stateAt execute m s i)) =
      ({ records := (List.range' i n).map (executionAt execute m s), iterations := p + 1 },
        stateAt execute m s (i + n)) := by
  induction n generalizing i with
  | zero => rfl
  | succ n ih =>
    rw [List.range'_succ, List.map_cons, runTests_cons_turn _ _ (hp i (by omega) (by omega)),
      if_pos (h i (by omega) (by omega)),
      ih (fun k hk hn ↦ hp k (by omega) (by omega)) fun k hk hn ↦ h k (by omega) (by omega),
      List.map_cons, Nat.add_right_comm i 1 n, Nat.add_assoc]

/-- Turns are taken up to the first that fails. -/
theorem runTests_of_failing {p i d n : Nat} (number : Option Nat) (hd : d < n)
    (hp : ∀ k, i ≤ k → k < i + n → k / m.tests.length = p)
    (h : ∀ k, i ≤ k → k < i + d → statusAt execute m s k = 0)
    (hfail : statusAt execute m s (i + d) ≠ 0) :
    reported (runTests execute m.root (p + 1) number ((List.range' i n).map m.turn)
        (stateAt execute m s i)) =
      ({ records := (List.range' i (d + 1)).map (executionAt execute m s), iterations := p + 1,
         failure := some (executionAt execute m s (i + d)) },
        stateAt execute m s (i + d + 1)) := by
  induction n generalizing i d with
  | zero => omega
  | succ n ih =>
    rw [List.range'_succ, List.map_cons, runTests_cons_turn _ _ (hp i (by omega) (by omega))]
    cases d with
    | zero => exact if_neg hfail
    | succ d =>
      have hnext : i + 1 + d = i + (d + 1) := by omega
      have hrest := ih (i := i + 1) (d := d) (by omega)
        (fun k hk hn ↦ hp k (by omega) (by omega)) (fun k hk hn ↦ h k (by omega) (by omega))
        (by rwa [hnext])
      rw [if_pos (h i (by omega) (by omega)), hrest, hnext]
      rfl

/-- A pass in which nothing fails makes all its executions. -/
theorem pass_of_passing {p : Nat} (number : Option Nat)
    (h : ∀ k, k < (p + 1) * m.tests.length → statusAt execute m s k = 0) :
    reported (pass execute m (p + 1) number (stateAt execute m s (p * m.tests.length))) =
      (passedReport execute m s p, stateAt execute m s ((p + 1) * m.tests.length)) := by
  have hrun := runTests_of_passing number
    (fun _ ↦ div_length_of_pass (p := p)) fun k _ hk ↦ h k (by rwa [Nat.succ_mul])
  rw [map_turn_pass] at hrun
  unfold pass passedReport
  rw [hrun, Nat.succ_mul]

/-- The pass in which the first failure lies ends with it. -/
theorem pass_of_failing {j : Nat} (number : Option Nat) (hn : 0 < m.tests.length)
    (h : FailsFirstAt execute m s j) :
    reported (pass execute m (j / m.tests.length + 1) number
        (stateAt execute m s (j / m.tests.length * m.tests.length))) =
      (failedReport execute m s j, stateAt execute m s (j + 1)) := by
  have hj : j / m.tests.length * m.tests.length + j % m.tests.length = j :=
    Nat.div_add_mod' j m.tests.length
  have hrun := runTests_of_failing number (Nat.mod_lt j hn)
    (fun _ ↦ div_length_of_pass (p := j / m.tests.length)) (fun k _ hk ↦ h.before k (by omega))
    (by rw [hj]; exact h.status_ne_zero)
  rw [map_turn_pass, hj] at hrun
  exact hrun

/-! ## Passes -/

/-- One pass is made, and more only if nothing fails in it. -/
theorem passes_eq (more iteration : Nat) (t : σ) :
    reported (passes execute m more iteration t) =
      let (r, u) := reported (pass execute m iteration (some iteration) t)
      match more with
      | 0 => (r, u)
      | more + 1 =>
        if r.failure.isSome then (r, u)
        else reported (passes execute m more (iteration + 1) u) := by
  conv_lhs => unfold passes
  cases more with
  | zero => rfl
  | succ more =>
    cases h : (pass execute m iteration (some iteration) t).1.report.failure with
    | none => simp [reported, Prod.map, h]
    | some r => simp [reported, Prod.map, h]

/-- Passes in which nothing fails are all made. -/
theorem passes_of_passing {p more : Nat}
    (h : ∀ k, k < (p + more + 1) * m.tests.length → statusAt execute m s k = 0) :
    reported (passes execute m more (p + 1) (stateAt execute m s (p * m.tests.length))) =
      (passedReport execute m s (p + more),
        stateAt execute m s ((p + more + 1) * m.tests.length)) := by
  induction more generalizing p with
  | zero => rw [passes_eq, pass_of_passing _ h]; rfl
  | succ more ih =>
    have hmore : p + 1 + more = p + (more + 1) := by omega
    have hfirst (k : Nat) (hk : k < (p + 1) * m.tests.length) : statusAt execute m s k = 0 :=
      h k (hk.trans_le (Nat.mul_le_mul_right _ (by omega)))
    rw [passes_eq, pass_of_passing _ hfirst]
    dsimp only
    rw [ih (by rwa [hmore]), hmore]
    rfl

/-- Passes are made up to the one in which the first failure lies. -/
theorem passes_of_failing {p more j : Nat} (hn : 0 < m.tests.length)
    (h : FailsFirstAt execute m s j) (hlow : p ≤ j / m.tests.length)
    (hhigh : j / m.tests.length ≤ p + more) :
    reported (passes execute m more (p + 1) (stateAt execute m s (p * m.tests.length))) =
      (failedReport execute m s j, stateAt execute m s (j + 1)) := by
  induction more generalizing p with
  | zero =>
    obtain rfl : j / m.tests.length = p := by omega
    rw [passes_eq, pass_of_failing _ hn h]
  | succ more ih =>
    rw [passes_eq]
    by_cases heq : j / m.tests.length = p
    · subst heq
      rw [pass_of_failing _ hn h]
      rfl
    · have hle : (p + 1) * m.tests.length ≤ j := (Nat.le_div_iff_mul_le hn).mp (by omega)
      rw [pass_of_passing _ fun k hk ↦ h.before k (by omega)]
      exact ih (by omega) (by omega)

/-- The first passes of a run, if nothing fails in them. -/
theorem passes_one_of_passing {more : Nat}
    (h : ∀ k, k < (more + 1) * m.tests.length → statusAt execute m s k = 0) :
    reported (passes execute m more 1 s) =
      (passedReport execute m s more, stateAt execute m s ((more + 1) * m.tests.length)) := by
  have hall : ∀ k, k < (0 + more + 1) * m.tests.length → statusAt execute m s k = 0 := by
    rwa [Nat.zero_add]
  have hpasses := passes_of_passing hall
  simpa only [Nat.zero_add, Nat.zero_mul, stateAt_zero] using hpasses

/-- The passes of a run up to the one in which the first failure lies. -/
theorem passes_one_of_failing {more j : Nat} (hn : 0 < m.tests.length)
    (h : FailsFirstAt execute m s j) (hj : j / m.tests.length ≤ more) :
    reported (passes execute m more 1 s) =
      (failedReport execute m s j, stateAt execute m s (j + 1)) := by
  have hhigh : j / m.tests.length ≤ 0 + more := by rwa [Nat.zero_add]
  have hpasses := passes_of_failing hn h (Nat.zero_le _) hhigh
  simpa only [Nat.zero_add, Nat.zero_mul, stateAt_zero] using hpasses

/-! ## Whole runs -/

/-- What a run reports, if it comes to an end, without its notices. -/
def reportOf (x : Option Outcome × σ) : Option Report × σ := x.map (Option.map Outcome.report) id

private theorem reportOf_run (mode : Mode) (patience : Nat) (s : σ) :
    reportOf (run execute m mode patience s) =
      match mode with
      | .once => (reported (pass execute m 1 none s)).map some id
      | .repeated (some limit) => (reported (passes execute m (limit - 1) 1 s)).map some id
      | .repeated none =>
        let (r, t) := reported (passes execute m patience 1 s)
        (if r.failure.isSome then some r else none, t) := by
  match mode with
  | .once => rfl
  | .repeated (some limit) => rfl
  | .repeated none =>
    refine Prod.ext ?_ rfl
    show Option.map _ (if _ then _ else _) = _
    exact apply_ite _ _ _ _

/-- A run whose mode allows the first failing execution ends with it. -/
theorem run_of_failing {mode : Mode} {patience j : Nat} (hn : 0 < m.tests.length)
    (h : FailsFirstAt execute m s j) (hb : ∀ b ∈ mode.budget m, j < b)
    (hp : mode.budget m = none → j / m.tests.length ≤ patience) :
    reportOf (run execute m mode patience s) =
      (some (failedReport execute m s j), stateAt execute m s (j + 1)) := by
  rw [reportOf_run]
  match mode with
  | .once =>
    have hlt : j < 1 * m.tests.length := hb _ rfl
    have hzero : j / m.tests.length = 0 := Nat.div_eq_of_lt (by rwa [Nat.one_mul] at hlt)
    have hpass := pass_of_failing none hn h
    rw [hzero, Nat.zero_mul, Nat.zero_add] at hpass
    exact congrArg (Prod.map some id) hpass
  | .repeated (some limit) =>
    have hlt : j / m.tests.length < max limit 1 := (Nat.div_lt_iff_lt_mul hn).mpr (hb _ rfl)
    exact congrArg (Prod.map some id) (passes_one_of_failing hn h (by omega))
  | .repeated none =>
    dsimp only
    rw [passes_one_of_failing hn h (hp rfl)]
    rfl

/-- A run in which nothing fails makes all passes that its mode allows. -/
theorem run_of_passing {mode : Mode} {p : Nat} (patience : Nat) (hp : mode.maxPasses = some (p + 1))
    (h : ∀ i < (p + 1) * m.tests.length, statusAt execute m s i = 0) :
    reportOf (run execute m mode patience s) =
      (some (passedReport execute m s p), stateAt execute m s ((p + 1) * m.tests.length)) := by
  rw [reportOf_run]
  match mode with
  | .once =>
    obtain rfl : 0 = p := Nat.succ.inj (Option.some.inj hp)
    have hpass := pass_of_passing none h
    rw [Nat.zero_mul] at hpass
    exact congrArg (Prod.map some id) hpass
  | .repeated (some limit) =>
    have hmax : max limit 1 = p + 1 := Option.some.inj hp
    obtain rfl : limit - 1 = p := by omega
    exact congrArg (Prod.map some id) (passes_one_of_passing h)

/-- Every mode with a limit makes at least one pass. -/
theorem pos_of_maxPasses_eq_some {mode : Mode} {q : Nat} (h : mode.maxPasses = some q) : 0 < q := by
  match mode with
  | .once =>
    obtain rfl : 1 = q := Option.some.inj h
    omega
  | .repeated (some limit) =>
    obtain rfl : max limit 1 = q := Option.some.inj h
    omega

/-- Without a bound a run goes on as long as nothing fails. -/
theorem run_of_unbounded {mode : Mode} {patience : Nat} (hp : mode.maxPasses = none)
    (h : ∀ i < (patience + 1) * m.tests.length, statusAt execute m s i = 0) :
    reportOf (run execute m mode patience s) =
      (none, stateAt execute m s ((patience + 1) * m.tests.length)) := by
  rw [reportOf_run]
  match mode with
  | .repeated none =>
    dsimp only
    rw [passes_one_of_passing h]
    rfl

/-! ## The record of calls -/

/-- A runner of tests that keeps a record of its calls beside its state. -/
def recorded (execute : TestRunner σ) : TestRunner (List (Test × Path) × σ) :=
  fun t root (calls, s) ↦
    let (status, s) := execute t root s
    (status, calls ++ [(t, root)], s)

/-- The first calls of a run, as many as are asked for. -/
def Manifest.calls (m : Manifest) (count : Nat) : List (Test × Path) :=
  (List.range count).map fun i ↦ (m.turn i, m.root)

private theorem stateAt_recorded (i : Nat) :
    stateAt (recorded execute) m ([], s) i = (m.calls i, stateAt execute m s i) := by
  induction i with
  | zero => rfl
  | succ i ih =>
    unfold stateAt Manifest.calls
    rw [ih, List.range_succ, List.map_append]
    rfl

private theorem statusAt_recorded (i : Nat) :
    statusAt (recorded execute) m ([], s) i = statusAt execute m s i := by
  unfold statusAt
  rw [stateAt_recorded]
  rfl

private theorem executionAt_recorded :
    executionAt (recorded execute) m ([], s) = executionAt execute m s := by
  funext i
  unfold executionAt
  rw [statusAt_recorded]

/-- A record does not change which execution fails first. -/
theorem FailsFirstAt.recorded {j : Nat} (h : FailsFirstAt execute m s j) :
    FailsFirstAt (recorded execute) m ([], s) j :=
  ⟨by rw [statusAt_recorded]; exact h.status_ne_zero,
    fun i hi ↦ by rw [statusAt_recorded]; exact h.before i hi⟩

private theorem failedReport_recorded (j : Nat) :
    failedReport (recorded execute) m ([], s) j = failedReport execute m s j := by
  unfold failedReport
  rw [executionAt_recorded]

private theorem passedReport_recorded (p : Nat) :
    passedReport (recorded execute) m ([], s) p = passedReport execute m s p := by
  unfold passedReport
  rw [executionAt_recorded]

/-! ## What the reports say -/

/-- A record bears the number of the last pass. -/
theorem iteration_of_mem_records {p n : Nat} (hn : n ≤ m.tests.length) {r : Execution}
    (hr : r ∈ (List.range' (p * m.tests.length) n).map (executionAt execute m s)) :
    r.iteration = p + 1 := by
  obtain ⟨k, hk, rfl⟩ := List.mem_map.mp hr
  rw [List.mem_range'_1] at hk
  exact congrArg (· + 1) (div_length_of_pass hk.1 (by omega))

/-- The last record is that of the failed execution, and those before it have status zero. -/
theorem records_failedReport {j : Nat} (h : FailsFirstAt execute m s j) :
    (failedReport execute m s j).records.getLast? = some (executionAt execute m s j) ∧
      ∀ r ∈ (failedReport execute m s j).records.dropLast, r.exitCode = 0 := by
  have hj : j / m.tests.length * m.tests.length + j % m.tests.length = j :=
    Nat.div_add_mod' j m.tests.length
  unfold failedReport
  dsimp only
  rw [List.range'_1_concat, List.map_append, hj]
  refine ⟨by simp, fun r hr ↦ ?_⟩
  rw [List.map_singleton, List.dropLast_concat] at hr
  obtain ⟨k, hk, rfl⟩ := List.mem_map.mp hr
  rw [List.mem_range'_1] at hk
  exact h.before k (by omega)

/-- The failure of a suite stands for the status of the failed test. -/
theorem error?_failedReport {j : Nat} (h : FailsFirstAt execute m s j) :
    (failedReport execute m s j).error?.map (·.exitCode) = some (statusAt execute m s j) := by
  show some (Failure.nonzero (statusAt execute m s j)) = _
  rw [Failure.nonzero, if_neg h.status_ne_zero]

private theorem eq_of_reportOf_eq_some {x : Option Outcome × σ} {r : Report} {t : σ}
    (h : reportOf x = (some r, t)) : ∃ o, x = (some o, t) ∧ o.report = r := by
  obtain ⟨o, u⟩ := x
  obtain ⟨ho, rfl⟩ := Prod.mk.inj h
  obtain ⟨o, rfl, hr⟩ := Option.map_eq_some_iff.mp ho
  exact ⟨o, rfl, hr⟩

/-- A suite run is fail-fast and exact. Executions are made in turn up to the first that fails, if
the mode allows it; then the report shows the last pass up to that execution and has its status.
If none fails, all that the mode allows are made, and the report shows the last pass. Without a
bound there is no outcome before a failure. -/
theorem runs_up_to_first_failure (execute : TestRunner σ) {m : Manifest} (hm : m.tests ≠ [])
    (mode : Mode) (patience : Nat) (s : σ) :
    (∀ j, FailsFirstAt execute m s j → (∀ b ∈ mode.budget m, j < b) →
      (mode.budget m = none → j / m.tests.length ≤ patience) →
      ∃ o, run (recorded execute) m mode patience ([], s) =
          (some o, m.calls (j + 1), stateAt execute m s (j + 1)) ∧
        o.report.iterations = j / m.tests.length + 1 ∧
        o.report.records = (List.range' (j / m.tests.length * m.tests.length)
          (j % m.tests.length + 1)).map (executionAt execute m s) ∧
        (∀ r ∈ o.report.records, r.iteration = o.report.iterations) ∧
        (∀ r ∈ o.report.records.dropLast, r.exitCode = 0) ∧
        o.report.failure = some (executionAt execute m s j) ∧
        o.report.failure = o.report.records.getLast? ∧
        o.report.exitCode = statusAt execute m s j ∧
        o.report.error?.map (·.exitCode) = some (statusAt execute m s j)) ∧
    (∀ b, mode.budget m = some b → (∀ i < b, statusAt execute m s i = 0) →
      ∃ o, run (recorded execute) m mode patience ([], s) =
          (some o, m.calls b, stateAt execute m s b) ∧
        o.report.iterations = b / m.tests.length ∧
        o.report.records =
          (List.range' (b - m.tests.length) m.tests.length).map (executionAt execute m s) ∧
        (∀ r ∈ o.report.records, r.iteration = o.report.iterations) ∧
        o.report.failure = none ∧ o.report.exitCode = 0) ∧
    (mode.budget m = none →
      (∀ i < (patience + 1) * m.tests.length, statusAt execute m s i = 0) →
      run (recorded execute) m mode patience ([], s) =
        (none, m.calls ((patience + 1) * m.tests.length),
          stateAt execute m s ((patience + 1) * m.tests.length))) := by
  have hn : 0 < m.tests.length := List.length_pos_iff.mpr hm
  refine ⟨fun j hj hb hp ↦ ?_, fun b hb h ↦ ?_, fun hb h ↦ ?_⟩
  · have hrun := run_of_failing hn hj.recorded hb hp
    rw [stateAt_recorded, failedReport_recorded] at hrun
    obtain ⟨o, ho, hr⟩ := eq_of_reportOf_eq_some hrun
    obtain ⟨hlast, hbefore⟩ := records_failedReport hj
    refine ⟨o, ho, ?_⟩
    rw [hr]
    exact ⟨rfl, rfl, fun r hr ↦ iteration_of_mem_records (Nat.mod_lt j hn) hr, hbefore, rfl,
      hlast.symm, rfl, error?_failedReport hj⟩
  · obtain ⟨q, hq, rfl⟩ := Option.map_eq_some_iff.mp hb
    obtain ⟨p, rfl⟩ : ∃ p, q = p + 1 := ⟨q - 1, by have := pos_of_maxPasses_eq_some hq; omega⟩
    have hall (i) (hi : i < (p + 1) * m.tests.length) :
        statusAt (recorded execute) m ([], s) i = 0 := (statusAt_recorded i).trans (h i hi)
    have hrun := run_of_passing patience hq hall
    rw [stateAt_recorded, passedReport_recorded] at hrun
    obtain ⟨o, ho, hr⟩ := eq_of_reportOf_eq_some hrun
    refine ⟨o, ho, ?_⟩
    have hlast : (p + 1) * m.tests.length - m.tests.length = p * m.tests.length := by
      rw [Nat.succ_mul, Nat.add_sub_cancel]
    rw [hr, Nat.mul_div_cancel _ hn, hlast]
    exact ⟨rfl, rfl, fun r hr ↦ iteration_of_mem_records le_rfl hr, rfl, rfl⟩
  · have hall (i) (hi : i < (patience + 1) * m.tests.length) :
        statusAt (recorded execute) m ([], s) i = 0 := (statusAt_recorded i).trans (h i hi)
    have hrun := run_of_unbounded (Option.map_eq_none_iff.mp hb) hall
    obtain ⟨hnone, hstate⟩ := Prod.mk.inj hrun
    refine Prod.ext (Option.map_eq_none_iff.mp hnone) ?_
    rw [← stateAt_recorded]
    exact hstate

/-- Two tests take turns, and the fourth execution fails: that is the second of the second pass. -/
theorem second_pass_fails_at_its_end :
    let m : Manifest := { tests := [⟨"first", ⟨"a.sh"⟩, [], none⟩, ⟨"second", ⟨"b.sh"⟩, [], none⟩] }
    let execute : TestRunner Nat := fun _ _ count ↦ (if count = 3 then 7 else 0, count + 1)
    m.tests ≠ [] ∧ ∃ o,
      run (recorded execute) m (.repeated (some 5)) 0 ([], 0) = (some o, m.calls 4, 4) ∧
        o.report.iterations = 2 ∧
        o.report.records.map (fun r ↦ (r.name, r.exitCode)) = [("first", 0), ("second", 7)] ∧
        o.report.exitCode = 7 := by
  intro m execute
  have hm : m.tests ≠ [] := by decide
  have hj : FailsFirstAt execute m 0 3 := ⟨by decide, by decide⟩
  obtain ⟨o, hrun, hiterations, hrecords, -, -, -, -, hexit, -⟩ :=
    (runs_up_to_first_failure execute hm (.repeated (some 5)) 0 0).1 3 hj (by decide) (by decide)
  exact ⟨hm, o, hrun, hiterations.trans (by decide), by rw [hrecords]; decide, hexit⟩

end ClusterHarness.Suite
