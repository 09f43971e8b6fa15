import ClusterHarness.Proofs.Fixture.History
import ClusterHarness.Proofs.Fixture.KillList
import ClusterHarness.Proofs.Subprocess.Failing
import Mathlib.Data.List.TFAE

/-!
# The report of a run

The report of a run agrees with itself and with the run: its history, its stage, its error and its
exit status all say the same of whether the run succeeded. After a failure the exit status is that
of the child that failed, where a child did.
-/

namespace ClusterHarness.Fixture

variable {σ α β : Type}

/-! ## Operations that fail without a status -/

namespace Run

/-- An operation whose failures carry no status. -/
def NeverByStatus (x : Run σ α) : Prop := ∀ p, Statusless (x.run p).1

private theorem neverByStatus_tryOnWorld {f : σ → Except Failure α × σ}
    (hf : ∀ s, Statusless (f s).1) : NeverByStatus (tryOnWorld f) := by
  intro p
  rw [run_tryOnWorld]
  exact hf p.world

/-- Operations whose failures carry no status may follow each other. -/
theorem NeverByStatus.bind {x : Run σ α} {f : α → Run σ β} (hx : NeverByStatus x)
    (hf : ∀ a, NeverByStatus (f a)) : NeverByStatus (x >>= f) := by
  intro p
  have h := hx p
  rw [run_bind]
  cases hr : x.run p with
  | mk r q =>
    rw [hr] at h
    cases r with
    | error e => exact h.of_error
    | ok a => exact hf a q

end Run

private theorem statusless_emptyDir (h : Host σ) (dir : Path) (s : σ) :
    Statusless (emptyDir h dir s).1 := by
  unfold emptyDir
  dsimp only
  split
  -- The directory is made again when its tree is gone, and also when there was none.
  case h_3 => exact .error rfl
  all_goals
    split
    · exact .ok ()
    · exact .error rfl

private theorem statusless_emptyDirs (h : Host σ) (dirs : List Path) (s : σ) :
    Statusless (emptyDirs h dirs s).1 := by
  induction dirs generalizing s with
  | nil => exact .ok ()
  | cons dir dirs ih =>
    have hone := statusless_emptyDir h dir s
    unfold emptyDirs
    split
    · exact ih _
    · next hd => exact hd ▸ hone

private theorem statusless_scenarioLine (plan : Plan) (isFile : Path → Bool) (template : String) :
    Statusless (plan.scenarioLine isFile template) := by
  unfold Plan.scenarioLine
  split
  · exact .error rfl
  · split <;> exact .ok _

namespace Setup

variable (c : Setup σ)

private theorem neverByStatus_bringUp (kind : ServiceRole) (label : String) (command : CommandLine)
    (contract : Readiness) : Run.NeverByStatus (c.bringUp kind label command contract) := by
  intro p
  unfold bringUp
  rw [Run.run_bind, Run.run_onWorld]
  dsimp only
  rw [Run.run_bind, Run.run_onWorld]
  generalize (Subprocess.launch c.host c.site label command p.world).1 = process
  generalize (Subprocess.launch c.host c.site label command p.world).2 = s
  have hshaken := process.statusless_handshake c.host s c.plan.harness.lineTimeout contract
  dsimp only
  cases hh : process.handshake c.host c.plan.harness.lineTimeout contract s with
  | mk r x =>
  rw [hh] at hshaken
  cases r with
  | error e => exact hshaken.of_error
  | ok pid =>
    dsimp only
    cases x.1.child <;> exact .ok ()

private theorem neverByStatus_stepLine (template : String) :
    Run.NeverByStatus (c.stepLine template) :=
  Run.neverByStatus_tryOnWorld fun s ↦
    statusless_scenarioLine c.plan (c.host.isFile · s) template

/-! ## Steps that fail by the status of a child -/

/-- The status of the child of a step, if a status other than zero makes the step fail. -/
def childStatus (p : Progress σ) : Step → Option Int
  | .admin command => ((c.admin c.plan.locator command p.world).1.map (·.exitCode)).toOption
  | .client step => (c.endingOf p (.client step)).map (·.exitCode)
  | .reap .server => (c.endingOf p (.reap .server)).map (·.exitCode)
  | _ => none

/-- The admin runner answers with a failure in the place of an output, and that carries a status. -/
def ReportedByRunner (p : Progress σ) (step : Step) (e : Failure) : Prop :=
  e.status?.isSome ∧
    ∃ command, step = .admin command ∧ (c.admin c.plan.locator command p.world).1 = .error e

/-- A failure says what became of the child of a step: its status, which is not zero, or nothing
where no child came to an end. -/
structure Explained (p : Progress σ) (step : Step) (e : Failure) : Prop where
  of_status : ∀ status, c.childStatus p step = some status →
    status ≠ 0 ∧ e.status? = some status
  of_none : c.childStatus p step = none → e.status? = none ∨ c.ReportedByRunner p step e

variable {c} {p q : Progress σ} {e : Failure}

/-- A step that has no child to fail by is explained by a failure without a status. -/
theorem explained_of_statusless {step : Step} (hc : c.childStatus p step = none)
    (he : e.status? = none) : c.Explained p step e where
  of_status status hs := by
    rw [hc] at hs
    cases hs
  of_none _ := .inl he

private theorem explained_of_childStatus {step : Step} {status : Int}
    (hc : c.childStatus p step = some status) (hs : status ≠ 0) (he : e.status? = some status) :
    c.Explained p step e where
  of_status _ hc' := by
    rw [hc] at hc'
    cases hc'
    exact ⟨hs, he⟩
  of_none hc' := by
    rw [hc] at hc'
    cases hc'

private theorem explained_carryOut {command : Admin.Operation}
    (h : ((c.carryOut command).run p).1 = .error e) : c.Explained p (.admin command) e := by
  rw [run_carryOut] at h
  unfold Admin.checked at h
  cases ha : c.admin c.plan.locator command p.world with
  | mk answer t =>
  rw [ha] at h
  cases answer with
  | error e' =>
    cases h
    have hnone : c.childStatus p (.admin command) = none := by
      simp [childStatus, ha, Except.map, Except.toOption]
    refine ⟨fun status hs ↦ by simp [hnone] at hs, fun _ ↦ ?_⟩
    cases he : e.status? with
    | none => exact .inl rfl
    | some status => exact .inr ⟨by simp [he], command, rfl, by rw [ha]⟩
  | ok output =>
    have hstatus : c.childStatus p (.admin command) = some output.exitCode := by
      simp [childStatus, ha, Except.map, Except.toOption]
    by_cases hsuccess : output.success
    · simp [hsuccess, Except.map] at h
    · simp only [hsuccess] at h
      cases h
      exact explained_of_childStatus hstatus (by simpa [Admin.Output.success] using hsuccess) rfl

private theorem explained_runClient {step : ClientPlan}
    (h : ((c.runClient step).run p).1 = .error e) : c.Explained p (.client step) e := by
  rw [run_runClient] at h
  dsimp only at h
  rw [run_clientStatus] at h
  cases hline : c.plan.scenarioLine (c.host.isFile · p.world) step.command with
  | error e' =>
    have hstatusless := statusless_scenarioLine c.plan (c.host.isFile · p.world) step.command
    have hnone : c.childStatus p (.client step) = none := by simp [childStatus, endingOf, hline]
    rw [hline] at h hstatusless
    cases h
    exact explained_of_statusless hnone (hstatusless e rfl)
  | ok command =>
  cases hend : c.clientEnding step command p.world with
  | error reason =>
    have hnone : c.childStatus p (.client step) = none := by
      simp [childStatus, endingOf, hline, hend, Except.toOption]
    rw [hline] at h
    simp only [hend] at h
    cases h
    exact explained_of_statusless hnone rfl
  | ok ending =>
    have hstatus : c.childStatus p (.client step) = some ending.exitCode := by
      simp [childStatus, endingOf, hline, hend, Except.toOption]
    rw [hline] at h
    simp only [hend] at h
    split at h
    · next hne =>
      cases h
      exact explained_of_childStatus hstatus hne rfl
    · cases h

private theorem explained_reapFirst (hp : p.AllStarted) (hnew : p.NoneEnded) {kind : ServiceRole}
    (h : ((c.reapFirst kind).run p).1 = .error e) : c.Explained p (.reap kind) e := by
  rw [run_reapFirst] at h
  cases hf : p.background.find? (·.kind == kind) with
  | none =>
    rw [hf] at h
    cases h
  | some service =>
  obtain ⟨child, hchild, hcode⟩ := reapProcess_of_find? (c := c) hp hnew hf
  rw [hf] at h
  simp only [hcode] at h
  split at h
  · next hne =>
    obtain ⟨rfl, hne⟩ := hne
    cases h
    exact explained_of_childStatus (by simp [childStatus, endingOf, hf, hchild]) hne rfl
  · cases h

/-- Every step that fails is explained by its failure. -/
theorem explained_take (hp : p.AllStarted) (hnew : p.NoneEnded) {step : Step}
    (h : (c.take step).run p = (.error e, q)) : c.Explained p step e := by
  replace h := congrArg Prod.fst h
  cases step with
  | clean =>
    refine explained_of_statusless rfl ?_
    exact Run.neverByStatus_tryOnWorld (statusless_emptyDirs c.host c.plan.dataDirs) p e h
  | enter stage => cases h
  | start kind command contract =>
    exact explained_of_statusless rfl
      (c.neverByStatus_bringUp kind kind.name command contract p e h)
  | admin command => exact explained_carryOut h
  | server step =>
    refine explained_of_statusless rfl (Run.NeverByStatus.bind (c.neverByStatus_stepLine _)
      (fun command ↦ c.neverByStatus_bringUp .server step.label command step.readiness) p e h)
  | client step => exact explained_runClient h
  | reap kind => exact explained_reapFirst hp hnew h

/-! ## The report -/

variable {s : σ}

/-- A run that succeeds reports no failure. -/
theorem run_of_attempt_eq_ok (h : (c.attempt.run { world := s }).1 = .ok ()) :
    (c.run s).1 = {
      scenario := c.plan.name
      reached := (c.attempt.run { world := s }).2.stage
      history := (c.attempt.run { world := s }).2.history
      exitCode := 0
      error := none
      killed := [] } := by
  unfold run
  cases hr : c.attempt.run { world := s } with
  | mk r p =>
  rw [hr] at h
  cases h
  rfl

/-- A run that fails reports its failure and the labels of what is killed. -/
theorem run_of_attempt_eq_error (h : (c.attempt.run { world := s }).1 = .error e) :
    (c.run s).1 = {
      scenario := c.plan.name
      reached := (c.attempt.run { world := s }).2.stage
      history := (c.attempt.run { world := s }).2.history
      exitCode := e.exitCode
      error := some e.message
      killed := (c.killBackground (c.attempt.run { world := s }).2).1 } := by
  unfold run
  cases hr : c.attempt.run { world := s } with
  | mk r p =>
  rw [hr] at h
  cases h
  rfl

/-- The history and the stage of a report are those of its run. -/
theorem history_run (c : Setup σ) (s : σ) :
    (c.run s).1.history = (c.attempt.run { world := s }).2.history ∧
      (c.run s).1.reached = (c.attempt.run { world := s }).2.stage := by
  cases h : (c.attempt.run { world := s }).1 with
  | ok =>
    rw [run_of_attempt_eq_ok h]
    exact ⟨rfl, rfl⟩
  | error e =>
    rw [run_of_attempt_eq_error h]
    exact ⟨rfl, rfl⟩

/-- The parts of a report that tell of success are all as for a success, or none is. -/
theorem succeeded_iff (c : Setup σ) (s : σ) :
    ((c.run s).1.history = Stage.lifecycle c.plan.node.isSome ↔
      (c.attempt.run { world := s }).1 = .ok ()) ∧
    ((c.run s).1.reached = .done ↔ (c.attempt.run { world := s }).1 = .ok ()) ∧
    ((c.run s).1.error = none ↔ (c.attempt.run { world := s }).1 = .ok ()) ∧
    ((c.run s).1.exitCode = 0 ↔ (c.attempt.run { world := s }).1 = .ok ()) := by
  obtain ⟨hhistory, hreached⟩ := history_run c s
  have hlast := getLast?_history_attempt c s
  have hdone := Stage.getLast?_lifecycle c.plan.node.isSome
  rw [hhistory, hreached]
  cases h : (c.attempt.run { world := s }).1 with
  | ok =>
    have hall := history_of_attempt_eq_ok h
    rw [hall, hdone, Option.some.injEq] at hlast
    rw [run_of_attempt_eq_ok h]
    simp [hall, ← hlast]
  | error e =>
    have hnot := done_notMem_history h
    have hstage : (c.attempt.run { world := s }).2.stage ≠ .done := fun hs ↦
      hnot (List.mem_of_getLast? (hs ▸ hlast))
    have hshort : (c.attempt.run { world := s }).2.history ≠
        Stage.lifecycle c.plan.node.isSome := fun hh ↦
      hnot (List.mem_of_getLast? (hh ▸ hdone))
    rw [run_of_attempt_eq_error h]
    simp [hstage, hshort, e.exitCode_ne_zero]

/-- The exit status after a failure is that of the child that failed, and 1 where none did. -/
theorem exitCode_of_attempt_eq_error (h : (c.attempt.run { world := s }).1 = .error e) :
    ∃ past m, c.moments s = past ++ [m] ∧ m.outcome = .error e ∧
      (∀ status, c.childStatus m.found m.step = some status →
        status ≠ 0 ∧ (c.run s).1.exitCode = status) ∧
      (c.childStatus m.found m.step = none →
        (c.run s).1.exitCode = 1 ∨ c.ReportedByRunner m.found m.step e) := by
  obtain ⟨past, m, hm, houtcome⟩ := exists_failing_moment h
  have hmem : m ∈ c.moments s := hm ▸ List.mem_append_right past List.mem_cons_self
  obtain ⟨hstarted, hnew⟩ := found_of_mem_moments hmem
  have hexplained := explained_take hstarted hnew (houtcome ▸ run_of_mem_trail hmem)
  have hcode : (c.run s).1.exitCode = (e.status?.map Failure.nonzero).getD 1 := by
    rw [run_of_attempt_eq_error h, ← Failure.exitCode_eq]
  refine ⟨past, m, hm, houtcome, fun status hs ↦ ?_, fun hnone ↦ ?_⟩
  · obtain ⟨hne, he⟩ := hexplained.of_status status hs
    exact ⟨hne, by simp [hcode, he, Failure.nonzero, hne]⟩
  · exact (hexplained.of_none hnone).imp_left fun he ↦ by simp [hcode, he]

/-- The report of every run is coherent. Its history is a beginning of the lifecycle, in order, and
its stage the last of it. The whole lifecycle, the last stage, no error, status zero and a run that
succeeded are one and the same. After a failure the exit status is never zero: it is the status of
the child of the step that failed, if that has ended, and 1 otherwise, unless the admin runner
answers with a failure that carries a status itself. -/
theorem report_coherent (c : Setup σ) (s : σ) :
    (c.run s).1.history ≠ [] ∧
    (c.run s).1.history <+: Stage.lifecycle c.plan.node.isSome ∧
    (c.run s).1.history.Pairwise (fun a b ↦ a ∈ b.before) ∧
    (c.run s).1.history.getLast? = some (c.run s).1.reached ∧
    [(c.run s).1.history = Stage.lifecycle c.plan.node.isSome, (c.run s).1.reached = .done,
      (c.run s).1.error = none, (c.run s).1.exitCode = 0,
      (c.attempt.run { world := s }).1 = .ok ()].TFAE ∧
    ∀ e, (c.attempt.run { world := s }).1 = .error e →
      (c.run s).1.exitCode = e.exitCode ∧ (c.run s).1.exitCode ≠ 0 ∧
      ∃ past m, c.moments s = past ++ [m] ∧ m.outcome = .error e ∧
        (∀ status, c.childStatus m.found m.step = some status →
          status ≠ 0 ∧ (c.run s).1.exitCode = status) ∧
        (c.childStatus m.found m.step = none →
          (c.run s).1.exitCode = 1 ∨ c.ReportedByRunner m.found m.step e) := by
  obtain ⟨hhistory, hreached⟩ := history_run c s
  obtain ⟨hwhole, hdone, herror, hcode⟩ := succeeded_iff c s
  have hpre := hhistory ▸ history_prefix_lifecycle c s
  refine ⟨?_, hpre, ?_, ?_, ?_, fun e he ↦ ?_⟩
  · rw [hhistory, history_attempt]
    exact List.cons_ne_nil _ _
  · exact (Stage.lifecycle_pairwise _).sublist hpre.sublist
  · rw [hhistory, hreached]
    exact getLast?_history_attempt c s
  · refine List.tfae_of_forall ((c.attempt.run { world := s }).1 = .ok ()) _ ?_
    simp [hwhole, hdone, herror, hcode]
  · refine ⟨by rw [run_of_attempt_eq_error he], ?_, exitCode_of_attempt_eq_error he⟩
    rw [run_of_attempt_eq_error he]
    exact e.exitCode_ne_zero

end Setup
end ClusterHarness.Fixture
