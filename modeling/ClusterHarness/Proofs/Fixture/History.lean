import ClusterHarness.Proofs.Fixture.Course
import ClusterHarness.Proofs.Fixture.Trail

/-!
# The history of a run

A run records the stages that it enters. The course of a plan enters the stages of its lifecycle
in order, so what a run has recorded at any point is a beginning of the lifecycle, and the stage it
is at is the last one recorded.
-/

namespace ClusterHarness

namespace Fixture

/-- The stage that a step goes on to. -/
def Step.stage? : Step → Option Stage
  | .enter stage => some stage
  | _ => none

/-! ## The lifecycle -/

namespace Stage

/-- A lifecycle comes to its end with the last stage, and to no other stage twice. -/
theorem lifecycle_nodup (hasNode : Bool) : (lifecycle hasNode).Nodup := by
  cases hasNode <;> decide

/-- The last stage of a lifecycle is that of a run that is done. -/
theorem getLast?_lifecycle (hasNode : Bool) : (lifecycle hasNode).getLast? = some .done := by
  cases hasNode <;> rfl

/-- Each stage of a lifecycle lies before those that follow it. -/
theorem lifecycle_pairwise (hasNode : Bool) :
    (lifecycle hasNode).Pairwise fun a b ↦ a ∈ b.before := by
  cases hasNode <;> decide

end Stage

/-! ## The stages of a course -/

/-- Up to its last step a course enters the whole lifecycle but the last stage. -/
theorem filterMap_stage?_preparation (p : Plan) :
    .clean :: p.preparation.filterMap Step.stage? ++ [.done] =
      Stage.lifecycle p.node.isSome := by
  unfold Plan.preparation Plan.upToScenario Plan.openingSteps Plan.scenarioSteps
    Plan.nodeStoppingSteps
  cases p.node <;>
    simp [List.filterMap_cons, filterMap_adminSteps, Step.stage?, Function.comp_def,
      Stage.lifecycle, Stage.all, Stage.isNodeStage]

/-- A course enters the stages of its lifecycle after the first, in order. -/
theorem filterMap_stage?_course (p : Plan) :
    .clean :: p.course.filterMap Step.stage? = Stage.lifecycle p.node.isSome := by
  rw [← filterMap_stage?_preparation, Plan.course_eq, List.filterMap_append]
  rfl

variable {σ : Type}

namespace Progress

/-- The two progresses are at the same stage, with the same history. -/
def AlongsideOf (q p : Progress σ) : Prop := q.stage = p.stage ∧ q.history = p.history

/-- What an operation that changes only the world leaves is at the same stage. -/
theorem alongsideOf_of_onlyWorld {α : Type} {x : Run σ α} (hx : Run.OnlyWorld x)
    (p : Progress σ) : (x.run p).2.AlongsideOf p := by
  obtain ⟨world, hq⟩ := hx p
  rw [hq]
  exact ⟨rfl, rfl⟩

end Progress

namespace Setup

variable {c : Setup σ}

/-! ## One step -/

private theorem alongsideOf_bringUp (kind : ServiceRole) (label : String) (command : CommandLine)
    (contract : Readiness) (p : Progress σ) :
    ((c.bringUp kind label command contract).run p).2.AlongsideOf p := by
  obtain ⟨service, world, hq, -, -⟩ := c.run_bringUp kind label command contract p
  rw [hq]
  exact ⟨rfl, rfl⟩

/-- Only a step that goes on to a stage changes stage and history. -/
theorem alongsideOf_take {step : Step} (hs : step.stage? = none) (p : Progress σ) :
    ((c.take step).run p).2.AlongsideOf p := by
  cases step with
  | enter stage => cases hs
  | clean => exact Progress.alongsideOf_of_onlyWorld (Run.onlyWorld_tryOnWorld _) p
  | admin command => exact Progress.alongsideOf_of_onlyWorld (c.onlyWorld_carryOut command) p
  | start kind command contract => exact alongsideOf_bringUp kind kind.name command contract p
  | server step =>
    show ((c.startServer step).run p).2.AlongsideOf p
    rw [run_startServer]
    split
    · exact alongsideOf_bringUp .server step.label _ step.readiness p
    · exact ⟨rfl, rfl⟩
  | client step =>
    show ((c.runClient step).run p).2.AlongsideOf p
    rw [run_runClient]
    exact Progress.alongsideOf_of_onlyWorld (c.onlyWorld_clientStatus step) p
  | reap kind =>
    show ((c.reapFirst kind).run p).2.AlongsideOf p
    rw [run_reapFirst]
    split <;> exact ⟨rfl, rfl⟩

/-- A step adds the stage that it goes on to to the history, and that is where the run is then. -/
theorem history_take (step : Step) (p : Progress σ) :
    ((c.take step).run p).2.history = p.history ++ step.stage?.toList ∧
      ((c.take step).run p).2.stage = step.stage?.getD p.stage := by
  cases hs : step.stage? with
  | none =>
    obtain ⟨hstage, hhistory⟩ := alongsideOf_take (c := c) hs p
    exact ⟨by simpa using hhistory, hstage⟩
  | some stage =>
    cases step with
    | enter stage' =>
      cases hs
      exact ⟨rfl, rfl⟩
    | _ => cases hs

/-! ## A whole run -/

variable {s : σ} {past : List (Moment σ)} {p q : Progress σ}

/-- The history grows by the stages of the steps that were taken. -/
theorem Leads.history_eq (h : c.Leads p past q) :
    q.history = p.history ++ (past.map (·.step)).filterMap Step.stage? := by
  induction h with
  | start => simp
  | @next past q q' step r _ _ hs ih =>
    have hstep := (history_take (c := c) step q).1
    rw [hs, ih] at hstep
    rw [hstep, List.map_append, List.filterMap_append, List.append_assoc]
    cases step <;> rfl

/-- A run that starts at the last stage of its history is there at any later point. -/
theorem Leads.getLast?_history (h : c.Leads p past q) (hp : p.history.getLast? = some p.stage) :
    q.history.getLast? = some q.stage := by
  induction h with
  | start => exact hp
  | @next past q q' step r _ _ hs ih =>
    obtain ⟨hhistory, hstage⟩ := history_take (c := c) step q
    rw [hs] at hhistory hstage
    rw [hhistory, hstage, List.getLast?_append]
    cases step.stage? with
    | none => simpa using ih
    | some stage => rfl

/-- A run has entered the stages of the steps that it took, beginning with the first stage. -/
theorem history_attempt (c : Setup σ) (s : σ) :
    (c.attempt.run { world := s }).2.history =
      .clean :: ((c.moments s).map (·.step)).filterMap Step.stage? := by
  rw [after_moments]
  exact (leads_of_prefix_trail List.prefix_rfl).1.history_eq

/-- The stage that a run has reached is the last one of its history. -/
theorem getLast?_history_attempt (c : Setup σ) (s : σ) :
    (c.attempt.run { world := s }).2.history.getLast? =
      some (c.attempt.run { world := s }).2.stage := by
  rw [after_moments]
  exact (leads_of_prefix_trail List.prefix_rfl).1.getLast?_history rfl

/-- The history of a run is a beginning of the lifecycle. -/
theorem history_prefix_lifecycle (c : Setup σ) (s : σ) :
    (c.attempt.run { world := s }).2.history <+: Stage.lifecycle c.plan.node.isSome := by
  rw [history_attempt, ← filterMap_stage?_course]
  refine List.cons_prefix_cons.mpr ⟨rfl, ?_⟩
  exact (leads_of_prefix_trail List.prefix_rfl).2.filterMap Step.stage?

/-- A run that succeeds has gone through the whole lifecycle. -/
theorem history_of_attempt_eq_ok (h : (c.attempt.run { world := s }).1 = .ok ()) :
    (c.attempt.run { world := s }).2.history = Stage.lifecycle c.plan.node.isSome := by
  rw [history_attempt, moments, (trail_of_follow_eq_ok h).1, filterMap_stage?_course]

/-- A run ends as the last of its moments does. -/
theorem outcome_attempt (c : Setup σ) (s : σ) :
    (c.attempt.run { world := s }).1 =
      ((c.moments s).getLast?.map (·.outcome)).getD (.ok ()) :=
  congrArg Prod.fst (run_follow c.plan.course { world := s })

/-- A run that fails has a last moment, whose step has failed as the run did. -/
theorem exists_failing_moment {e : Failure} (h : (c.attempt.run { world := s }).1 = .error e) :
    ∃ past m, c.moments s = past ++ [m] ∧ m.outcome = .error e := by
  rw [outcome_attempt] at h
  rcases List.eq_nil_or_concat (c.moments s) with hnil | ⟨past, m, hm⟩
  · rw [hnil] at h
    cases h
  · rw [List.concat_eq_append] at hm
    rw [hm] at h
    exact ⟨past, m, hm, by simpa using h⟩

/-- A run that fails does so before the last step of its course, which cannot fail. -/
theorem steps_of_attempt_eq_error {e : Failure}
    (h : (c.attempt.run { world := s }).1 = .error e) :
    (c.moments s).map (·.step) <+: c.plan.preparation ++ [.admin .shutdown, .reap .registry] := by
  obtain ⟨past, m, hm, houtcome⟩ := exists_failing_moment h
  have hsteps : (c.moments s).map (·.step) <+:
      c.plan.preparation ++ [.admin .shutdown, .reap .registry] ++ [.enter .done] := by
    rw [List.append_assoc]
    exact c.plan.course_eq ▸ (leads_of_prefix_trail List.prefix_rfl).2
  refine (List.prefix_concat_iff.mp hsteps).resolve_left fun hall ↦ ?_
  rw [hm, List.map_append] at hall
  have hlast : m.step = .enter .done := by simpa using (List.append_inj' hall rfl).2
  have hmem : m ∈ c.moments s := hm ▸ List.mem_append_right past List.mem_cons_self
  have hrun := run_of_mem_trail hmem
  rw [hlast, houtcome] at hrun
  cases hrun

/-- A run that fails does not come to the last stage. -/
theorem done_notMem_history {e : Failure} (h : (c.attempt.run { world := s }).1 = .error e) :
    .done ∉ (c.attempt.run { world := s }).2.history := by
  have hstages : ((c.moments s).map (·.step)).filterMap Step.stage? <+:
      c.plan.preparation.filterMap Step.stage? := by
    simpa [List.filterMap_cons, Step.stage?] using
      (steps_of_attempt_eq_error h).filterMap Step.stage?
  have hnodup := Stage.lifecycle_nodup c.plan.node.isSome
  rw [← filterMap_stage?_preparation] at hnodup
  rw [history_attempt]
  intro hdone
  have hmem := List.cons_subset_cons .clean hstages.subset hdone
  exact (List.nodup_append.mp hnodup).2.2 .done hmem .done List.mem_cons_self rfl

end Setup
end Fixture
end ClusterHarness
