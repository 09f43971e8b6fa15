import ClusterHarness.Proofs.Fixture.Recording

/-!
# No process is lost

A host can keep a list of what a run asks it for. At every point of the run the children that were
started and have not come to their end are those on the kill list. A run that fails ends by killing
these, the last launched first, so that in the end no child is left that was started.
-/

namespace ClusterHarness.Fixture

open Host (Request)

variable {σ : Type}

/-- The children that were started have come to their end, each once, or are those on a kill
list. -/
def Outstanding (asked : List Request) (killList : List Identity) : Prop :=
  (asked.filterMap Request.started?).Perm
    (asked.filterMap Request.ended? ++ killList.filterMap (·.child))

/-- Every step keeps the children on the kill list that are left. -/
theorem Outstanding.turnover {asked more : List Request} {before after : List Identity}
    {launched reaped : Option Identity} (h : Outstanding asked before)
    (ht : Turnover before after launched reaped) (hs : Settles more launched reaped) :
    Outstanding (asked ++ more) after := by
  obtain ⟨passing, hstarted, hended⟩ := hs
  -- A host may give the same child twice, so the children are counted.
  unfold Outstanding at h ⊢
  rw [List.filterMap_append, List.filterMap_append, hstarted, hended]
  rw [List.perm_iff_count] at h ⊢
  intro child
  have hchild := h child
  cases ht with
  | keep hq =>
    simp only [hq, Option.bind_none, Option.toList_none, List.count_append] at hchild ⊢
    omega
  | launch x hq =>
    simp only [hq, Option.bind_some, Option.bind_none, Option.toList_none, List.filterMap_append,
      List.count_append] at hchild ⊢
    have hx : [x].filterMap (·.child) = x.child.toList := by cases hc : x.child <;> simp [hc]
    rw [hx, List.count_nil]
    omega
  | reap x front rest hb hq _ =>
    have hx : [x].filterMap (·.child) = x.child.toList := by cases hc : x.child <;> simp [hc]
    rw [hb, List.append_cons, List.filterMap_append, List.filterMap_append, hx] at hchild
    simp only [hq, Option.bind_some, Option.bind_none, Option.toList_none, List.filterMap_append,
      List.count_append, List.count_nil] at hchild ⊢
    omega

namespace Setup

variable (c : Setup σ)

/-- The setup with a host that keeps a list of what it is asked for. The admin runner leaves the
list alone. -/
def logged : Setup (List Request × σ) :=
  c.noting (fun past r ↦ past ++ [r]) fun locator operation ↦
    Host.onSecond (c.admin locator operation)

/-- What the host is asked for while steps are followed from the start of a run. -/
def askedIn (steps : List Step) (s : σ) : List Request :=
  ((c.logged.follow steps).run { world := ([], s) }).2.world.1

variable {c}

/-! ## The log of a run -/

private theorem lifts_carryOut (command : Admin.Operation) :
    Run.Lifts (c.logged.carryOut command) (c.carryOut command) :=
  (Run.lifts_tryOnWorld fun past s ↦
    Admin.checked_onSecond c.admin c.plan.locator command past s).bind fun _ ↦ Run.lifts_pure ()

/-- What a step asks for settles the process that it launches and the one that it reaps. -/
theorem exists_log_take (step : Step) (p : Progress σ) :
    ∃ asked, (∀ past, (c.logged.take step).run (p.beside past) =
        (((c.take step).run p).1, ((c.take step).run p).2.beside (past ++ asked))) ∧
      (p.NoneEnded → Settles asked (c.launchedBy p step) (p.reapedBy step)) := by
  have hnotes : ∃ asked, Run.Notes (fun past r ↦ past ++ [r]) (c.logged.take step) (c.take step) p
      asked ∧ (p.NoneEnded → Settles asked (c.launchedBy p step) (p.reapedBy step)) := by
    cases step with
    | admin command => exact ⟨[], (lifts_carryOut command).notes p, fun _ ↦ settles_nil⟩
    | _ => exact exists_notes_take _ _ (by simp) p
  obtain ⟨asked, hnotes, hsettles⟩ := hnotes
  refine ⟨asked, fun past ↦ ?_, hsettles⟩
  rw [hnotes, Host.foldl_log]

/-- A run that is logged does what it does without the log, and at its end the children that are
left are those on the kill list. -/
theorem exists_log_follow (steps : List Step) {p : Progress σ} (hp : p.AllStarted)
    (hnew : p.NoneEnded) :
    ∃ asked, (∀ past, (c.logged.follow steps).run (p.beside past) =
        (((c.follow steps).run p).1, ((c.follow steps).run p).2.beside (past ++ asked))) ∧
      ∀ past, Outstanding past p.killList →
        Outstanding (past ++ asked) ((c.follow steps).run p).2.killList := by
  -- Both facts about the kill list go along: what a reap asks for depends on whether its process
  -- was started and was not seen to end.
  induction steps generalizing p with
  | nil =>
    refine ⟨[], fun past ↦ ?_, fun past h ↦ ?_⟩
    · rw [List.append_nil]
      rfl
    · rw [List.append_nil]
      exact h
  | cons step steps ih =>
    obtain ⟨asked, hstep, hsettles⟩ := exists_log_take (c := c) step p
    have hturn := turnover_take (c := c) step hp
    cases hs : (c.take step).run p with
    | mk r q =>
    simp only [hs] at hstep hturn
    cases r with
    | error e =>
      refine ⟨asked, fun past ↦ ?_, fun past h ↦ ?_⟩
      · rw [run_follow_cons, run_follow_cons, hstep, hs]
      · rw [run_follow_cons, hs]
        exact h.turnover hturn (hsettles hnew)
    | ok =>
      have hq := noneEnded_take (c := c) step hnew
      rw [hs] at hq
      obtain ⟨more, hrest, hleft⟩ := ih (allStarted_take hp hs) hq
      refine ⟨asked ++ more, fun past ↦ ?_, fun past h ↦ ?_⟩
      · rw [run_follow_cons, run_follow_cons, hstep, hs]
        dsimp only
        rw [hrest, List.append_assoc]
      · rw [run_follow_cons, hs, ← List.append_assoc]
        exact hleft _ (h.turnover hturn (hsettles hnew))

/-- From the start of a run on, the log of its steps accounts for all children. -/
theorem log_follow (c : Setup σ) (steps : List Step) (s : σ) :
    (c.logged.follow steps).run { world := ([], s) } =
        (((c.follow steps).run { world := s }).1,
          ((c.follow steps).run { world := s }).2.beside (c.askedIn steps s)) ∧
      Outstanding (c.askedIn steps s) ((c.follow steps).run { world := s }).2.killList := by
  obtain ⟨asked, hrun, hleft⟩ := exists_log_follow (c := c) steps (Progress.allStarted_start s)
    (Progress.noneEnded_start s)
  have hstart : (c.logged.follow steps).run { world := ([], s) } =
      (((c.follow steps).run { world := s }).1,
        ((c.follow steps).run { world := s }).2.beside asked) := hrun []
  have hasked : c.askedIn steps s = asked := by
    unfold askedIn
    rw [hstart]
    rfl
  rw [hasked]
  exact ⟨hstart, hleft [] .nil⟩

/-- The steps that are not reached ask for nothing. -/
theorem run_logged_trail (steps : List Step) (p : Progress σ) (past : List Request) :
    (c.logged.follow ((c.trail steps p).map (·.step))).run (p.beside past) =
      (c.logged.follow steps).run (p.beside past) := by
  induction steps generalizing p past with
  | nil => rfl
  | cons step steps ih =>
    obtain ⟨asked, hstep, -⟩ := exists_log_take (c := c) step p
    unfold trail
    cases hs : (c.take step).run p with
    | mk r q =>
    rw [hs] at hstep
    cases r with
    | error e =>
      rw [List.map_singleton, run_follow_cons, run_follow_cons, hstep]
    | ok =>
      rw [List.map_cons, run_follow_cons, run_follow_cons, hstep]
      exact ih q _

/-- What a run asks for before its end is what its moments ask for. -/
theorem askedIn_moments (c : Setup σ) (s : σ) :
    c.askedIn ((c.moments s).map (·.step)) s = c.askedIn c.plan.course s := by
  unfold askedIn
  exact congrArg (·.2.world.1) (run_logged_trail c.plan.course { world := s } [])

/-! ## Killing what is left -/

/-- Processes that were not seen to end are killed by their children. -/
theorem flatMap_killRequests {services : List Service}
    (hnew : ∀ service ∈ services, service.process.exitCode = none) :
    services.flatMap (·.process.killRequests) =
      ((services.map Service.identity).filterMap (·.child)).map Request.kill := by
  induction services with
  | nil => rfl
  | cons service services ih =>
    rw [List.forall_mem_cons] at hnew
    have hrunning : service.process.running? = service.process.child := if_neg (by simp [hnew.1])
    rw [List.flatMap_cons, ih hnew.2, Subprocess.killRequests, hrunning, List.map_cons,
      List.filterMap_cons]
    dsimp only [Service.identity]
    cases service.process.child <;> rfl

/-- Killing everything on the kill list asks for one kill of each child that was started, the last
launched first. -/
theorem killBackground_logged {p : Progress σ} (hnew : p.NoneEnded) (past : List Request) :
    c.logged.killBackground (p.beside past) =
      ((c.killBackground p).1, (c.killBackground p).2.beside
        (past ++ (p.killList.filterMap (·.child)).reverse.map .kill)) := by
  have hrequests : p.background.reverse.flatMap (·.process.killRequests) =
      (p.killList.filterMap (·.child)).reverse.map .kill := by
    rw [flatMap_killRequests fun service hmem ↦ hnew service (List.mem_reverse.mp hmem),
      List.map_reverse, List.filterMap_reverse]
    rfl
  unfold logged
  rw [killBackground_noting, Host.foldl_log, hrequests]

/-! ## The whole run -/

variable {s : σ}

/-- Nothing that has ended is on the kill list at the end of a run. -/
theorem noneEnded_attempt (c : Setup σ) (s : σ) :
    (c.attempt.run { world := s }).2.NoneEnded := by
  rw [after_moments]
  exact (leads_of_prefix_trail List.prefix_rfl).1.noneEnded (Progress.noneEnded_start s)

private theorem attempt_logged (c : Setup σ) (s : σ) :
    c.logged.attempt.run { world := ([], s) } =
      ((c.attempt.run { world := s }).1,
        (c.attempt.run { world := s }).2.beside (c.askedIn c.plan.course s)) :=
  (log_follow c c.plan.course s).1

/-- A run that succeeds asks for nothing after its last step. -/
theorem run_logged_of_ok (h : (c.attempt.run { world := s }).1 = .ok ()) :
    c.logged.run ([], s) = ((c.run s).1, c.askedIn c.plan.course s, (c.run s).2) := by
  unfold run
  rw [attempt_logged]
  cases hr : c.attempt.run { world := s } with
  | mk r p =>
  rw [hr] at h
  cases h
  rfl

/-- A run that fails asks for one kill of each child on its kill list after its last step. -/
theorem run_logged_of_error {e : Failure} (h : (c.attempt.run { world := s }).1 = .error e) :
    c.logged.run ([], s) = ((c.run s).1,
      c.askedIn c.plan.course s ++
        ((c.attempt.run { world := s }).2.killList.filterMap (·.child)).reverse.map .kill,
      (c.run s).2) := by
  have hnew := noneEnded_attempt c s
  unfold run
  rw [attempt_logged]
  cases hr : c.attempt.run { world := s } with
  | mk r p =>
  rw [hr] at h hnew
  cases h
  dsimp only
  rw [killBackground_logged hnew]
  rfl

/-- Killing every child that is left brings all to their end. -/
theorem perm_of_outstanding {asked : List Request} {killList : List Identity}
    (h : Outstanding asked killList) :
    let killed := asked ++ (killList.filterMap (·.child)).reverse.map .kill
    (killed.filterMap Request.started?).Perm (killed.filterMap Request.ended?) := by
  have hended (children : List Child) :
      (children.map Request.kill).filterMap Request.ended? = children := by
    induction children with
    | nil => rfl
    | cons child children ih => exact congrArg (child :: ·) ih
  have hstarted (children : List Child) :
      (children.map Request.kill).filterMap Request.started? = [] := by
    induction children with
    | nil => rfl
    | cons child children ih => exact ih
  dsimp only
  rw [List.filterMap_append, List.filterMap_append, hended, hstarted, List.append_nil]
  exact h.trans ((List.reverse_perm _).symm.append_left _)

/-- A run that is logged does what it does without the log, in which every child that was started
has come to its end once. -/
theorem run_logged (c : Setup σ) (s : σ) :
    let asked := (c.logged.run ([], s)).2.1
    c.logged.run ([], s) = ((c.run s).1, asked, (c.run s).2) ∧
      (asked.filterMap Request.started?).Perm (asked.filterMap Request.ended?) := by
  have hleft := (log_follow c c.plan.course s).2
  dsimp only
  cases hr : (c.attempt.run { world := s }).1 with
  | error e =>
    rw [run_logged_of_error hr]
    exact ⟨rfl, perm_of_outstanding hleft⟩
  | ok =>
    have hnone : ((c.follow c.plan.course).run { world := s }).2.killList = [] :=
      killList_of_attempt_eq_ok hr
    rw [hnone] at hleft
    rw [run_logged_of_ok hr]
    exact ⟨rfl, by simpa [Outstanding] using hleft⟩

/-- No process in the background is lost. At every point of a run the kill list holds the processes
launched so far and not yet reaped, in the order of launch, and of the children that the host has
started the ones that have not come to their end. At the end of a run they were all reaped, or the
run has failed and those that were not are killed, the last launched first: the host is asked for
one kill of each child that was started, and for no other. In the end every child that was started
has come to its end once. Killing a second time kills nothing. The host makes no difference by
keeping its list. -/
theorem no_process_leaks (c : Setup σ) (s : σ) :
    let attempted := c.attempt.run { world := s }
    let launched := c.launchedIn (c.moments s)
    let reaped := reapedIn (c.moments s)
    let before := c.askedIn ((c.moments s).map (·.step)) s
    let asked := (c.logged.run ([], s)).2.1
    (∀ past, past <+: c.moments s →
      let p := Progress.after { world := s } past
      (c.launchedIn past).map Identity.service <+: c.plan.services ∧
      Accounted (c.launchedIn past) (reapedIn past) p.killList ∧
      Outstanding (c.askedIn (past.map (·.step)) s) p.killList) ∧
    attempted.2 = Progress.after { world := s } (c.moments s) ∧
    launched.Perm (reaped ++ attempted.2.killList) ∧
    (∀ e, attempted.1 = .error e →
      (c.run s).1.killed = ((launched.diff reaped).map (·.label)).reverse ∧
      asked = before ++ ((launched.diff reaped).filterMap (·.child)).reverse.map .kill) ∧
    (attempted.1 = .ok () →
      attempted.2.killList = [] ∧ (c.run s).1.killed = [] ∧ asked = before) ∧
    (asked.filterMap Request.started?).Perm (asked.filterMap Request.ended?) ∧
    c.logged.run ([], s) = ((c.run s).1, asked, (c.run s).2) ∧
    (∀ p, c.killBackground (c.killBackground p).2 = ([], (c.killBackground p).2)) ∧
    ∀ p, c.logged.killBackground (c.logged.killBackground p).2 =
      ([], (c.logged.killBackground p).2) := by
  dsimp only
  have hbooks {past} (hpast : past <+: c.moments s) :
      Accounted (c.launchedIn past) (reapedIn past)
        (Progress.after { world := s } past).killList :=
    (leads_of_prefix_trail hpast).1.accounted rfl
  have hlast := hbooks (List.prefix_refl _)
  rw [← after_moments] at hlast
  obtain ⟨hsame, hended⟩ := run_logged c s
  refine ⟨fun past hpast ↦ ⟨?_, hbooks hpast, ?_⟩, after_moments s, hlast.perm, fun e he ↦ ?_,
    fun hok ↦ ?_, hended, hsame, fun p ↦ rfl, fun p ↦ rfl⟩
  · obtain ⟨hleads, hsteps⟩ := leads_of_prefix_trail hpast
    rw [← filterMap_service?_course]
    exact hleads.launchedIn_prefix.trans (hsteps.filterMap _)
  · have hreached := (leads_of_prefix_trail hpast).1.run_follow
    have hpoint := (log_follow c (past.map (·.step)) s).2
    rwa [hreached] at hpoint
  · rw [killed_of_attempt_eq_error he, run_logged_of_error he, hlast.killList_eq,
      askedIn_moments]
    exact ⟨rfl, rfl⟩
  · rw [run_logged_of_ok hok, askedIn_moments]
    exact ⟨killList_of_attempt_eq_ok hok, killed_of_attempt_eq_ok hok, rfl⟩

end Setup
end ClusterHarness.Fixture
