import ClusterHarness.Proofs.Suite.FailFast

/-!
# Repeated runs and single runs

A repeated run makes the passes that single runs of the suite would make, one after the other on
the same executor, as long as they succeed. It reports the last of them, and announces all of them;
what it adds is the number of the pass.
-/

namespace ClusterHarness.Suite

variable {σ : Type}

/-! ## Passes with a number -/

/-- A record as one of pass number `i`. -/
def Execution.inPass (i : Nat) (r : Execution) : Execution := { r with iteration := i }

/-- A notice as one of pass number `i`. -/
def Notice.inPass (i : Nat) (n : Notice) : Notice := { n with number := some i }

/-- A report as that of pass number `i`. -/
def Report.inPass (i : Nat) (r : Report) : Report where
  records := r.records.map (·.inPass i)
  iterations := i
  failure := r.failure.map (·.inPass i)

/-- What tests in a row did, as a part of pass number `i`. -/
def Outcome.inPass (i : Nat) (o : Outcome) : Outcome where
  report := o.report.inPass i
  notices := o.notices.map (·.inPass i)

/-- What is announced of pass number `i`, which did what a single run does. -/
def Outcome.announced (o : Outcome) (i : Nat) : List Notice :=
  ⟨some i, .passStarted⟩ :: o.notices.map (·.inPass i)

private theorem Report.exitCode_inPass (i : Nat) (r : Report) :
    (r.inPass i).exitCode = r.exitCode := by
  cases h : r.failure <;> simp [exitCode, inPass, Execution.inPass, h]

private theorem Report.isSome_failure_inPass (i : Nat) (r : Report) :
    (r.inPass i).failure.isSome = r.failure.isSome := by
  simp [inPass]

/-- Numbered tests do what tests without a number do, under their number. -/
theorem runTests_inPass (execute : TestRunner σ) (root : Path) (i : Nat) (tests : List Test)
    (s : σ) :
    runTests execute root i (some i) tests s =
      ((runTests execute root 1 none tests s).1.inPass i,
        (runTests execute root 1 none tests s).2) := by
  induction tests generalizing s with
  | nil => rfl
  | cons test tests ih =>
    unfold runTests
    dsimp only
    rw [ih]
    -- Whether the first test has passed does not depend on the number of the pass.
    have hpassed (j : Nat) : Execution.passed ⟨test.name, test.directory root, j,
        (execute test root s).1⟩ = ((execute test root s).1 == 0) := rfl
    rw [hpassed, hpassed]
    split <;> rfl

/-- A single run is a pass without a number. -/
theorem run_once (execute : TestRunner σ) (m : Manifest) (patience : Nat) (s : σ) :
    run execute m .once patience s =
      (some (pass execute m 1 none s).1, (pass execute m 1 none s).2) := rfl

private theorem number_of_mem_runTests {execute : TestRunner σ} {root : Path} {i : Nat}
    {number : Option Nat} {tests : List Test} {s : σ} {n : Notice}
    (hn : n ∈ (runTests execute root i number tests s).1.notices) : n.number = number := by
  induction tests generalizing s with
  | nil => cases hn
  | cons test tests ih =>
    unfold runTests at hn
    dsimp only at hn
    split at hn
    · obtain rfl | hn := List.mem_cons.mp hn
      · rfl
      · exact ih hn
    · obtain rfl | hn := List.mem_cons.mp hn
      · rfl
      · rw [List.mem_singleton.mp hn]

/-! ## Single runs in a row -/

/-- Single runs of a suite, one after the other on the same executor: each finds the state that
the one before it has left. -/
inductive SingleRuns (execute : TestRunner σ) (m : Manifest) : σ → List Outcome → σ → Prop
  | nil (s : σ) : SingleRuns execute m s [] s
  | cons {s t u : σ} {o : Outcome} {rest : List Outcome} :
    run execute m .once 0 s = (some o, t) → SingleRuns execute m t rest u →
      SingleRuns execute m s (o :: rest) u

variable {execute : TestRunner σ} {m : Manifest}

private theorem singleRuns_nil_iff {s t : σ} : SingleRuns execute m s [] t ↔ s = t := by
  constructor
  · rintro ⟨⟩
    rfl
  · rintro rfl
    exact .nil s

/-- The first of some single runs is a pass, and the others go on from where it ends. -/
theorem singleRuns_cons_iff {s t : σ} {o : Outcome} {rest : List Outcome} :
    SingleRuns execute m s (o :: rest) t ↔
      (pass execute m 1 none s).1 = o ∧
        SingleRuns execute m (pass execute m 1 none s).2 rest t := by
  constructor
  · rintro ⟨⟩
    next u hfirst hrest =>
    rw [run_once] at hfirst
    cases hfirst
    exact ⟨rfl, hrest⟩
  · rintro ⟨rfl, hrest⟩
    exact .cons (run_once execute m 0 s) hrest

/-- Single runs give no number to what they announce. -/
theorem SingleRuns.number_eq_none {s t : σ} {runs : List Outcome}
    (h : SingleRuns execute m s runs t) : ∀ o ∈ runs, ∀ n ∈ o.notices, n.number = none := by
  induction h with
  | nil => exact fun _ ho ↦ absurd ho List.not_mem_nil
  | cons hfirst _ ih =>
    rw [run_once] at hfirst
    cases hfirst
    exact List.forall_mem_cons.mpr ⟨fun n hn ↦ number_of_mem_runTests hn, ih⟩

/-! ## Passes in a row -/

/-- What is announced of single runs that are made as passes from number `i` on. -/
def announcements (i : Nat) (runs : List Outcome) : List Notice :=
  (runs.zipIdx i).flatMap fun (o, k) ↦ o.announced k

private theorem announcements_cons (i : Nat) (o : Outcome) (rest : List Outcome) :
    announcements i (o :: rest) = o.announced i ++ announcements (i + 1) rest := rfl

/-- The first of some passes is a single run under its number. -/
theorem passes_eq_pass (more i : Nat) (s : σ) :
    passes execute m more i s =
      let (o, t) := pass execute m 1 none s
      match more with
      | 0 => (⟨o.report.inPass i, o.announced i⟩, t)
      | more + 1 =>
        if o.report.failure.isSome then (⟨o.report.inPass i, o.announced i⟩, t)
        else
          let (rest, t) := passes execute m more (i + 1) t
          ({ rest with notices := o.announced i ++ rest.notices }, t) := by
  conv_lhs => unfold passes pass
  rw [runTests_inPass]
  cases more with
  | zero => rfl
  | succ more =>
    dsimp only [Outcome.inPass]
    rw [Report.isSome_failure_inPass]
    rfl

/-- Single runs in a row as a run makes them that goes on until one of them fails, but makes no more
than `more` after the first. -/
structure UpToFailure (execute : TestRunner σ) (m : Manifest) (more : Nat) (s : σ)
    (earlier : List Outcome) (last : Outcome) (t : σ) : Prop where
  runs : SingleRuns execute m s (earlier ++ [last]) t
  passed : ∀ x ∈ earlier, x.report.failure = none
  length_le : earlier.length ≤ more
  ends : last.report.failure.isSome ∨ earlier.length = more

private theorem upToFailure_nil_iff {more : Nat} {s t : σ} {last : Outcome} :
    UpToFailure execute m more s [] last t ↔
      pass execute m 1 none s = (last, t) ∧ (last.report.failure.isSome ∨ 0 = more) := by
  constructor
  · intro h
    obtain ⟨hlast, hend⟩ := singleRuns_cons_iff.mp h.runs
    exact ⟨Prod.ext hlast (singleRuns_nil_iff.mp hend), h.ends⟩
  · rintro ⟨hpass, hends⟩
    refine ⟨singleRuns_cons_iff.mpr ?_, by simp, Nat.zero_le more, hends⟩
    rw [hpass]
    exact ⟨rfl, .nil t⟩

private theorem upToFailure_cons_iff {more : Nat} {s t : σ} {first last : Outcome}
    {earlier : List Outcome} :
    UpToFailure execute m more s (first :: earlier) last t ↔
      (pass execute m 1 none s).1 = first ∧ first.report.failure = none ∧
        ∃ more', more = more' + 1 ∧
          UpToFailure execute m more' (pass execute m 1 none s).2 earlier last t := by
  constructor
  · intro h
    obtain ⟨hfirst, hrest⟩ := singleRuns_cons_iff.mp h.runs
    obtain ⟨hpassed, hall⟩ := List.forall_mem_cons.mp h.passed
    have hle := h.length_le
    have hends := h.ends
    rw [List.length_cons] at hle hends
    exact ⟨hfirst, hpassed, more - 1, by omega, hrest, hall, by omega,
      hends.imp_right (by omega)⟩
  · rintro ⟨hfirst, hpassed, more', rfl, hrest⟩
    refine ⟨singleRuns_cons_iff.mpr ⟨hfirst, hrest.runs⟩,
      List.forall_mem_cons.mpr ⟨hpassed, hrest.passed⟩, ?_, ?_⟩
    · exact Nat.succ_le_succ hrest.length_le
    · exact hrest.ends.imp_right (congrArg (· + 1))

/-- What passes from number `i` on report and announce, given what single runs do. -/
def Outcome.ofPasses (i : Nat) (earlier : List Outcome) (last : Outcome) : Outcome where
  report := last.report.inPass (i + earlier.length)
  notices := announcements i (earlier ++ [last])

private theorem ofPasses_nil (i : Nat) (last : Outcome) :
    Outcome.ofPasses i [] last = ⟨last.report.inPass i, last.announced i⟩ := by
  simp [Outcome.ofPasses, announcements]

private theorem ofPasses_cons (i : Nat) (first last : Outcome) (earlier : List Outcome) :
    Outcome.ofPasses i (first :: earlier) last =
      { Outcome.ofPasses (i + 1) earlier last with
        notices := first.announced i ++ (Outcome.ofPasses (i + 1) earlier last).notices } := by
  have hlast : i + (first :: earlier).length = i + 1 + earlier.length := by
    rw [List.length_cons]
    omega
  unfold Outcome.ofPasses
  rw [hlast, List.cons_append, announcements_cons]

private theorem isSome_failure_ofPasses (i : Nat) (earlier : List Outcome) (last : Outcome) :
    (Outcome.ofPasses i earlier last).report.failure.isSome = last.report.failure.isSome :=
  Report.isSome_failure_inPass _ last.report

private theorem exists_upToFailure_of_passes {more i : Nat} {s t : σ} {o : Outcome}
    (h : passes execute m more i s = (o, t)) :
    ∃ earlier last, UpToFailure execute m more s earlier last t ∧
      o = .ofPasses i earlier last := by
  induction more generalizing i s o with
  | zero =>
    rw [passes_eq_pass] at h
    cases h
    exact ⟨[], _, upToFailure_nil_iff.mpr ⟨rfl, .inr rfl⟩, (ofPasses_nil i _).symm⟩
  | succ more ih =>
    rw [passes_eq_pass] at h
    dsimp only at h
    split at h
    · next hfails =>
      cases h
      exact ⟨[], _, upToFailure_nil_iff.mpr ⟨rfl, .inl hfails⟩, (ofPasses_nil i _).symm⟩
    · next hpassed =>
      cases hrest : passes execute m more (i + 1) (pass execute m 1 none s).2 with
      | mk rest u =>
      rw [hrest] at h
      cases h
      obtain ⟨earlier, last, hruns, rfl⟩ := ih hrest
      refine ⟨_ :: earlier, last, upToFailure_cons_iff.mpr ⟨rfl, ?_, more, rfl, hruns⟩, ?_⟩
      · simpa using hpassed
      · rw [ofPasses_cons]

private theorem passes_of_upToFailure {more : Nat} {s t : σ} {earlier : List Outcome}
    {last : Outcome} (h : UpToFailure execute m more s earlier last t) (i : Nat) :
    passes execute m more i s = (.ofPasses i earlier last, t) := by
  induction earlier generalizing more i s with
  | nil =>
    obtain ⟨hpass, hends⟩ := upToFailure_nil_iff.mp h
    rw [passes_eq_pass, hpass, ofPasses_nil]
    cases more with
    | zero => rfl
    | succ more => exact if_pos (hends.resolve_right (by omega))
  | cons first earlier ih =>
    obtain ⟨hfirst, hpassed, more, rfl, hrest⟩ := upToFailure_cons_iff.mp h
    rw [passes_eq_pass, ofPasses_cons]
    dsimp only
    rw [hfirst, hpassed, ih hrest]
    rfl

/-- Passes are single runs up to the first failure, under their numbers. -/
theorem passes_eq_iff {more i : Nat} {s t : σ} {o : Outcome} :
    passes execute m more i s = (o, t) ↔
      ∃ earlier last, UpToFailure execute m more s earlier last t ∧
        o = .ofPasses i earlier last := by
  constructor
  · exact exists_upToFailure_of_passes
  · rintro ⟨earlier, last, h, rfl⟩
    exact passes_of_upToFailure h i

/-! ## Repeated runs -/

private theorem text_inPass {n : Notice} (hn : n.number = none) (i : Nat) :
    (n.inPass i).text = s!"[{i}] {n.text}" := by
  simp [Notice.text, Notice.inPass, hn]

private theorem text_passStarted (i : Nat) :
    (⟨some i, .passStarted⟩ : Notice).text = s!"[{i}] *** starting pass" := by
  show "[" ++ toString i ++ "] " ++ "*** starting pass" = "[" ++ toString i ++ "] *** starting pass"
  rw [String.append_assoc]
  rfl

/-- What is announced of passes, as it is read. -/
theorem text_announcements {runs : List Outcome} (h : ∀ o ∈ runs, ∀ n ∈ o.notices, n.number = none)
    (i : Nat) :
    (announcements i runs).map Notice.text =
      (runs.zipIdx i).flatMap fun (o, k) ↦
        s!"[{k}] *** starting pass" :: o.notices.map fun n ↦ s!"[{k}] {n.text}" := by
  induction runs generalizing i with
  | nil => rfl
  | cons o runs ih =>
    obtain ⟨ho, hruns⟩ := List.forall_mem_cons.mp h
    have htexts : (o.notices.map (·.inPass i)).map Notice.text =
        o.notices.map fun n ↦ s!"[{i}] {n.text}" := by
      rw [List.map_map]
      exact List.map_congr_left fun n hn ↦ text_inPass (ho n hn) i
    rw [announcements_cons, List.map_append, ih hruns, List.zipIdx_cons, List.flatMap_cons]
    unfold Outcome.announced
    rw [List.map_cons, htexts, text_passStarted]

/-- A repeated run ends with the pass number `count`, of which `last` is the report: it is the first
that fails, or the last that the limit allows. Without a limit a run is followed for `patience`
passes after the first. -/
def EndsWith (limit : Option Nat) (patience count : Nat) (last : Report) : Prop :=
  match limit with
  | some limit => count ≤ max limit 1 ∧ (last.failure.isSome ∨ count = max limit 1)
  | none => count ≤ patience + 1 ∧ last.failure.isSome

/-- A repeated run has an outcome where its passes end with a failure or at the limit. -/
theorem run_repeated_eq_iff {limit : Option Nat} {patience : Nat} {s t : σ} {o : Outcome} :
    run execute m (.repeated limit) patience s = (some o, t) ↔
      ∃ earlier last, SingleRuns execute m s (earlier ++ [last]) t ∧
        (∀ x ∈ earlier, x.report.failure = none) ∧
        EndsWith limit patience (earlier.length + 1) last.report ∧
        o = .ofPasses 1 earlier last := by
  cases limit with
  | some limit =>
    have hrun : run execute m (.repeated (some limit)) patience s = (some o, t) ↔
        passes execute m (limit - 1) 1 s = (o, t) := by
      show (some _, _) = (some o, t) ↔ _
      simp [Prod.ext_iff]
    rw [hrun, passes_eq_iff]
    refine exists₂_congr fun earlier last ↦ ⟨?_, ?_⟩
    · rintro ⟨⟨hruns, hpassed, hle, hends⟩, ho⟩
      exact ⟨hruns, hpassed, ⟨by omega, hends.imp_right (by omega)⟩, ho⟩
    · rintro ⟨hruns, hpassed, ⟨hle, hends⟩, ho⟩
      exact ⟨⟨hruns, hpassed, by omega, hends.imp_right (by omega)⟩, ho⟩
  | none =>
    have hrun : run execute m (.repeated none) patience s = (some o, t) ↔
        passes execute m patience 1 s = (o, t) ∧ o.report.failure.isSome := by
      show (if (passes execute m patience 1 s).1.report.failure.isSome then
        some (passes execute m patience 1 s).1 else none, _) = (some o, t) ↔ _
      rw [Prod.ext_iff, Prod.ext_iff, Option.ite_none_right_eq_some, Option.some.injEq]
      constructor
      · rintro ⟨⟨hfails, rfl⟩, hstate⟩
        exact ⟨⟨rfl, hstate⟩, hfails⟩
      · rintro ⟨⟨rfl, hstate⟩, hfails⟩
        exact ⟨⟨hfails, rfl⟩, hstate⟩
    rw [hrun, passes_eq_iff]
    constructor
    · rintro ⟨⟨earlier, last, ⟨hruns, hpassed, hle, -⟩, rfl⟩, hfails⟩
      rw [isSome_failure_ofPasses] at hfails
      exact ⟨earlier, last, hruns, hpassed, ⟨Nat.succ_le_succ hle, hfails⟩, rfl⟩
    · rintro ⟨earlier, last, hruns, hpassed, ⟨hle, hfails⟩, rfl⟩
      refine ⟨⟨earlier, last, ⟨hruns, hpassed, Nat.le_of_succ_le_succ hle, .inl hfails⟩, rfl⟩, ?_⟩
      rwa [isSome_failure_ofPasses]

/-- A repeated run is a series of single runs. It makes the calls that they make one after the
other on the same executor, all but the last of them succeed, and it ends with the first that fails
or with the last that its limit allows. Its report is that of the last of them, but for the number
of the pass, and so is its exit status. It announces each of them and all that they announce, in
their order, under the number of the pass. -/
theorem repeated_run_is_single_runs (execute : TestRunner σ) (m : Manifest) (limit : Option Nat)
    (patience : Nat) (s t : σ) (calls : List (Test × Path)) (o : Outcome) :
    run (recorded execute) m (.repeated limit) patience ([], s) = (some o, calls, t) ↔
      ∃ earlier last, SingleRuns (recorded execute) m ([], s) (earlier ++ [last]) (calls, t) ∧
        (∀ x ∈ earlier, x.report.failure = none) ∧
        EndsWith limit patience (earlier.length + 1) last.report ∧
        o.report = last.report.inPass (earlier.length + 1) ∧
        o.report.exitCode = last.report.exitCode ∧
        o.notices = announcements 1 (earlier ++ [last]) ∧
        o.notices.map Notice.text = ((earlier ++ [last]).zipIdx 1).flatMap fun (x, i) ↦
          s!"[{i}] *** starting pass" :: x.notices.map fun n ↦ s!"[{i}] {n.text}" := by
  rw [run_repeated_eq_iff]
  refine exists₂_congr fun earlier last ↦ ⟨?_, ?_⟩
  · rintro ⟨hruns, hpassed, hends, rfl⟩
    refine ⟨hruns, hpassed, hends, ?_, Report.exitCode_inPass _ _, rfl,
      text_announcements hruns.number_eq_none 1⟩
    show last.report.inPass (1 + earlier.length) = _
    rw [Nat.add_comm]
  · rintro ⟨hruns, hpassed, hends, hreport, -, hnotices, -⟩
    refine ⟨hruns, hpassed, hends, ?_⟩
    obtain ⟨report, notices⟩ := o
    dsimp only at hreport hnotices
    rw [hreport, hnotices, Nat.add_comm]
    rfl

end ClusterHarness.Suite
