import ClusterHarness.Proofs.Fixture.AdminCalls
import ClusterHarness.Proofs.Fixture.Coherence

/-!
# How the children of a run end

A step can fail by a child: by the admin tool or a client that it runs, or by a server that it
reaps. What the harness takes for the status of that child is how the child ends on its host. So a
run succeeds only if all of them end by themselves with status zero, and after a failure its status
is that of the child that failed.
-/

namespace ClusterHarness

variable {σ : Type}

/-! ## The admin tool -/

namespace Admin

variable (h : Host σ) (tool : Tool) (site : Site) (locator : String) (operation : Operation) (s : σ)

/-- How the admin tool ends that is run for an operation, if it can be run. -/
def toolEnding : Option WaitStatus :=
  let line := tool.invocation locator operation
  match line.validate with
  | .error _ => none
  | .ok () =>
    let l : Launch := {
      program := line.program
      args := line.args
      directory := site.directory
      env := site.env }
    (h.capture l s).1.toOption.map (·.status)

/-- The status of an operation is that of the tool. -/
theorem exitCode_viaTool :
    ((viaTool h tool site locator operation s).1.map (·.exitCode)).toOption =
      (toolEnding h tool site locator operation s).map (·.exitCode) := by
  unfold viaTool toolEnding
  dsimp only
  cases (tool.invocation locator operation).validate with
  | error e => rfl
  | ok =>
    dsimp only [Prod.fst]
    generalize h.capture _ s = captured
    obtain ⟨e | c, t⟩ := captured <;> rfl

/-- A tool that cannot be run gives a failure without a status. -/
theorem statusless_viaTool : Statusless (viaTool h tool site locator operation s).1 := by
  unfold viaTool
  dsimp only
  split
  · exact .error rfl
  · split
    · exact .error rfl
    · exact .ok _

end Admin

namespace Fixture

namespace Setup

variable {c : Setup σ} {p q : Progress σ}

/-- No step succeeds if its child has ended with another status than zero. -/
theorem childStatus_of_take_eq_ok {step : Step} (hp : p.AllStarted) (hnew : p.NoneEnded)
    (h : (c.take step).run p = (.ok (), q)) : ∀ status ∈ c.childStatus p step, status = 0 := by
  intro status hstatus
  cases step with
  | admin command =>
    obtain ⟨output, hanswer, hzero⟩ := succeeded_of_take_eq_ok h rfl
    replace hanswer : (c.admin c.plan.locator command p.world).1 = .ok output := hanswer
    rw [childStatus, hanswer] at hstatus
    cases hstatus
    exact hzero
  | client step =>
    have hend : c.endingOf p (.client step) = some (.exited 0) := by
      simpa [clientEnd, Step.client?] using clientEnd_of_take_eq_ok h
    rw [childStatus, hend] at hstatus
    cases hstatus
    rfl
  | reap kind =>
    have hreaped : ((c.reapFirst kind).run p).1 = .ok () := congrArg Prod.fst h
    rw [run_reapFirst] at hreaped
    cases kind with
    | server =>
      obtain ⟨ending, hend, rfl⟩ := Option.map_eq_some_iff.mp hstatus
      obtain ⟨service, hfirst, hend⟩ := Option.bind_eq_some_iff.mp hend
      obtain ⟨child, hchild, hcode⟩ := reapProcess_of_find? (c := c) hp hnew hfirst
      rw [hchild] at hend
      cases hend
      by_contra hne
      simp [hfirst, hcode, hne] at hreaped
    | _ => cases hstatus
  | _ => cases hstatus

end Setup

/-! ## The child that a step can fail by -/

section

variable (h : Host σ) (plan : Plan)

/-- How the child ends that a step can fail by: the admin tool, a client, or a server that is
reaped. The registry and the node may end with any status. -/
def childEnding (p : Progress σ) : Step → Option WaitStatus
  | .admin command =>
    Admin.toolEnding h plan.admin (Setup.siteOf plan) plan.locator command p.world
  | .client step => (Setup.ofPlan h plan).endingOf p (.client step)
  | .reap .server => (Setup.ofPlan h plan).endingOf p (.reap .server)
  | _ => none

/-- The status that a step can fail by counts how its child ends. -/
theorem childStatus_eq (p : Progress σ) (step : Step) :
    (Setup.ofPlan h plan).childStatus p step =
      (childEnding h plan p step).map (·.exitCode) := by
  cases step with
  | admin command => exact Admin.exitCode_viaTool h plan.admin _ _ command p.world
  | reap kind => cases kind <;> rfl
  | _ => rfl

variable {h plan}

/-- The admin tool of a plan never answers with the status of another child. -/
theorem not_reportedByRunner {p : Progress σ} {step : Step} {e : Failure} :
    ¬ (Setup.ofPlan h plan).ReportedByRunner p step e := by
  rintro ⟨hstatus, command, rfl, he⟩
  rw [Admin.statusless_viaTool h plan.admin _ _ command p.world e he] at hstatus
  cases hstatus

variable {s : σ}

/-- What every moment that succeeds says of its child. -/
theorem childEnding_of_mem_moments {m : Moment σ} (hm : m ∈ (Setup.ofPlan h plan).moments s)
    (hok : m.outcome = .ok ()) : ∀ w ∈ childEnding h plan m.found m.step, w = .exited 0 := by
  intro w hw
  obtain ⟨hstarted, hnew⟩ := Setup.found_of_mem_moments hm
  have hrun := Setup.run_of_mem_trail hm
  rw [hok] at hrun
  refine WaitStatus.exitCode_eq_zero_iff.mp
    (Setup.childStatus_of_take_eq_ok hstarted hnew hrun _ ?_)
  rw [childStatus_eq, Option.mem_def.mp hw]
  rfl

/-! ## The status of a run -/

/-- A run has status zero exactly if all its steps succeed and all children that they could fail by
end with zero. -/
theorem exitCode_run_eq_zero_iff :
    ((Setup.ofPlan h plan).run s).1.exitCode = 0 ↔
      ∀ m ∈ (Setup.ofPlan h plan).moments s,
        m.outcome = .ok () ∧ ∀ w ∈ childEnding h plan m.found m.step, w = .exited 0 := by
  rw [(Setup.succeeded_iff (Setup.ofPlan h plan) s).2.2.2]
  constructor
  · intro hok m hm
    have hm' := (Setup.trail_of_follow_eq_ok hok).2 m hm
    exact ⟨hm', childEnding_of_mem_moments hm hm'⟩
  · intro hall
    rw [Setup.outcome_attempt]
    cases hlast : ((Setup.ofPlan h plan).moments s).getLast? with
    | none => rfl
    | some m => exact (hall m (List.mem_of_getLast? hlast)).1

/-- A run that fails does so at its last moment. Its status is that of the child of this moment, and
1 if no child has ended there. -/
theorem exitCode_run_of_error {e : Failure}
    (he : ((Setup.ofPlan h plan).attempt.run { world := s }).1 = .error e) :
    ∃ past m, (Setup.ofPlan h plan).moments s = past ++ [m] ∧ m.outcome = .error e ∧
      (∀ m' ∈ past, m'.outcome = .ok () ∧
        ∀ w ∈ childEnding h plan m'.found m'.step, w = .exited 0) ∧
      (∀ w, childEnding h plan m.found m.step = some w →
        w ≠ .exited 0 ∧ ((Setup.ofPlan h plan).run s).1.exitCode = w.exitCode) ∧
      (childEnding h plan m.found m.step = none →
        ((Setup.ofPlan h plan).run s).1.exitCode = 1) := by
  obtain ⟨past, m, hm, houtcome, hchild, hnone⟩ := Setup.exitCode_of_attempt_eq_error he
  have hpast : ∀ m' ∈ past, m' ∈ (Setup.ofPlan h plan).moments s := fun m' hm' ↦
    hm ▸ List.mem_append_left _ hm'
  rw [childStatus_eq] at hchild hnone
  refine ⟨past, m, hm, houtcome, fun m' hm' ↦ ?_, fun w hw ↦ ?_, fun hw ↦ ?_⟩
  · have hok := Setup.outcome_eq_ok_of_trail_eq hm m' hm'
    exact ⟨hok, childEnding_of_mem_moments (hpast m' hm') hok⟩
  · obtain ⟨hne, hcode⟩ := hchild w.exitCode (by rw [hw]; rfl)
    exact ⟨fun hzero ↦ hne (WaitStatus.exitCode_eq_zero_iff.mpr hzero), hcode⟩
  · exact (hnone (by rw [hw]; rfl)).resolve_right not_reportedByRunner

end
end Fixture
end ClusterHarness
