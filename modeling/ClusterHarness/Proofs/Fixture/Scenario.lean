import ClusterHarness.Proofs.Fixture.Coherence
import ClusterHarness.Proofs.Fixture.KillList
import ClusterHarness.Proofs.Plan.Expansion

/-!
# The scenario of a run

Between the two groups of admin commands a run launches the servers of its plan, runs the clients
and reaps the servers. What happens to these processes is a list of events in the order of the plan.
All events but the last are good ones, and the last decides how the scenario ends.
-/

namespace ClusterHarness

namespace Plan

open Fixture

/-- The steps that bring up the cluster and provision it. -/
def clusterSteps (p : Plan) : List Step :=
  p.openingSteps ++ .enter .provisioning :: p.adminSteps p.provision

/-- All steps before the scenario. -/
def beforeScenario (p : Plan) : List Step := p.clusterSteps ++ [.enter .clientServerRunning]

private theorem upToScenario_eq (p : Plan) :
    p.upToScenario = p.beforeScenario ++ p.scenarioSteps := by
  simp [upToScenario, beforeScenario, clusterSteps]

private theorem exists_course_eq (p : Plan) :
    ∃ rest, p.course = p.beforeScenario ++ (p.scenarioSteps ++ rest) := by
  obtain ⟨rest, hrest⟩ := p.upToScenario_prefix_course
  exact ⟨rest, by rw [← hrest, upToScenario_eq, List.append_assoc]⟩

private theorem server_notMem_running_beforeScenario (p : Plan) :
    .server ∉ p.beforeScenario.foldl Step.running [] := by
  unfold beforeScenario clusterSteps openingSteps
  cases p.node <;> simp [Step.running, foldl_running_adminSteps]

private theorem scenario_notMem_stages_clusterSteps (p : Plan) :
    .clientServerRunning ∉ Stage.clean :: p.clusterSteps.filterMap Step.stage? := by
  unfold clusterSteps openingSteps
  cases p.node <;> simp [List.filterMap_cons, filterMap_adminSteps, Step.stage?]

/-- The command lines of the servers and clients are command lines after their placeholders are
replaced. -/
def HasCommandLines (p : Plan) : Prop :=
  ∀ template ∈ p.servers.map (·.command) ++ p.clients.map (·.command),
    ∃ command, CommandLine.parse (p.expand template) = .ok command

end Plan

namespace Fixture

variable {σ : Type}

/-! ## Events -/

/-- The command line of a step of the scenario. -/
def Step.template? : Step → Option String
  | .server step => some step.command
  | .client step => some step.command
  | _ => none

private theorem mem_templates {p : Plan} {step : Step} {template : String}
    (hstep : step ∈ p.scenarioSteps) (h : template ∈ step.template?) :
    template ∈ p.servers.map (·.command) ++ p.clients.map (·.command) := by
  simp only [Plan.scenarioSteps, List.mem_append, List.mem_map] at hstep
  obtain (⟨server, hserver, rfl⟩ | ⟨client, hclient, rfl⟩) | ⟨_, -, rfl⟩ := hstep
  · cases h
    exact List.mem_append_left _ (List.mem_map_of_mem hserver)
  · cases h
    exact List.mem_append_right _ (List.mem_map_of_mem hclient)
  · cases h

/-- What happens to a process of the scenario. -/
inductive Event where
  /-- A server is launched, and the handshake with it comes to an end. -/
  | server (step : ServerPlan) (child : Option Child) (handshake : Except Failure Nat)
  /-- A client is launched, and ends or could not be started. -/
  | client (step : ClientPlan) (ending : Except String WaitStatus)
  /-- A server is reaped, and ends. -/
  | reaped (process : Identity) (ending : WaitStatus)

namespace Event

/-- The step that an event belongs to. -/
def step : Event → Step
  | server step _ _ => .server step
  | client step _ => .client step
  | reaped _ _ => .reap .server

/-- A step with a status is good if that is zero. -/
def verdict (label : String) (status : Int) : Except Failure Unit :=
  if status = 0 then .ok () else .error (.stepFailed label status)

/-- What an event means for the scenario. -/
def outcome : Event → Except Failure Unit
  | server _ _ handshake => handshake.map fun _ ↦ ()
  | client step (.ok ending) => verdict step.label ending.exitCode
  | client step (.error reason) => .error (.notStarted step.label reason)
  | reaped process ending => verdict process.label ending.exitCode

/-- Where only the last event can be a bad one, it decides. -/
theorem outcome_getLast? {events : List Event}
    (h : ∀ x ∈ events.dropLast, x.outcome = .ok ()) :
    ((events.getLast?.map outcome).getD (.ok ()) = .ok () ↔ ∀ x ∈ events, x.outcome = .ok ()) ∧
      ∀ e, (events.getLast?.map outcome).getD (.ok ()) = .error e ↔
        ∃ front x, events = front ++ [x] ∧ x.outcome = .error e := by
  rcases List.eq_nil_or_concat events with rfl | ⟨front, x, rfl⟩
  · simp
  · rw [List.concat_eq_append, List.dropLast_concat] at h
    rw [List.concat_eq_append, List.getLast?_concat, Option.map_some, Option.getD_some]
    refine ⟨?_, fun e ↦ ⟨fun he ↦ ⟨front, x, rfl, he⟩, ?_⟩⟩
    · rw [List.forall_mem_append, List.forall_mem_singleton]
      exact (and_iff_right h).symm
    · rintro ⟨front', x', heq, he⟩
      obtain ⟨-, hx⟩ := List.append_inj' heq rfl
      rwa [List.singleton_inj.mp hx]

/-- The server that is launched. -/
def launched? : Event → Option Identity
  | server step child _ => some { kind := .server, label := step.label, child }
  | _ => none

/-- The server that is reaped. -/
def reaped? : Event → Option Identity
  | reaped process _ => some process
  | _ => none

end Event

namespace Setup

variable (c : Setup σ)

/-- The event of a step. A step whose command line cannot be read has none. -/
def eventOf (p : Progress σ) : Step → Option Event
  | .server step =>
    (c.plan.scenarioLine (c.host.isFile · p.world) step.command).toOption.map fun command ↦
      .server step (Subprocess.launch c.host c.site step.label command p.world).1.child
        (c.handshakeOf step.label command step.readiness p.world)
  | .client step =>
    (c.plan.scenarioLine (c.host.isFile · p.world) step.command).toOption.map fun command ↦
      .client step (c.clientEnding step command p.world)
  | .reap .server =>
    (p.background.find? (·.kind == .server)).bind fun service ↦
      (c.endingOf p (.reap .server)).map (.reaped service.identity)
  | _ => none

/-- The events of some moments. -/
def eventsIn (past : List (Moment σ)) : List Event :=
  past.filterMap fun m ↦ c.eventOf m.found m.step

/-- The events of the scenario that begins in a state. -/
def scenarioEvents (p : Progress σ) : List Event := c.eventsIn (c.trail c.plan.scenarioSteps p)

variable {c}

/-! ## One step -/

/-- How a step comes to have an event. -/
inductive Arises (c : Setup σ) (p : Progress σ) : Step → Event → Prop
  | server {step : ServerPlan} {command : CommandLine} :
    c.plan.scenarioLine (c.host.isFile · p.world) step.command = .ok command →
      Arises c p (.server step)
        (.server step (Subprocess.launch c.host c.site step.label command p.world).1.child
          (c.handshakeOf step.label command step.readiness p.world))
  | client {step : ClientPlan} {command : CommandLine} :
    c.plan.scenarioLine (c.host.isFile · p.world) step.command = .ok command →
      Arises c p (.client step) (.client step (c.clientEnding step command p.world))
  | reaped {service : Service} {child : Child} :
    p.background.find? (·.kind == .server) = some service →
      service.process.child = some child →
        Arises c p (.reap .server)
          (.reaped service.identity (c.reapEnding service child p.world))

private theorem toOption_eq_some_iff {ε α : Type} {x : Except ε α} {a : α} :
    x.toOption = some a ↔ x = .ok a := by
  cases x <;> simp [Except.toOption]

private theorem arises_of_eventOf {step : Step} {p : Progress σ} {x : Event}
    (h : c.eventOf p step = some x) : c.Arises p step x := by
  cases step with
  | server step =>
    obtain ⟨command, hcommand, rfl⟩ := Option.map_eq_some_iff.mp h
    exact .server (toOption_eq_some_iff.mp hcommand)
  | client step =>
    obtain ⟨command, hcommand, rfl⟩ := Option.map_eq_some_iff.mp h
    exact .client (toOption_eq_some_iff.mp hcommand)
  | reap kind =>
    cases kind with
    | server =>
      obtain ⟨service, hfirst, hreaped⟩ := Option.bind_eq_some_iff.mp h
      obtain ⟨ending, hending, rfl⟩ := Option.map_eq_some_iff.mp hreaped
      rw [endingOf, hfirst, Option.bind_some] at hending
      obtain ⟨child, hchild, rfl⟩ := Option.map_eq_some_iff.mp hending
      exact .reaped hfirst hchild
    | _ => cases h
  | _ => cases h

private theorem Arises.step_eq {step : Step} {p : Progress σ} {x : Event} (h : c.Arises p step x) :
    x.step = step := by
  cases h <;> rfl

/-- A step ends as its event says. -/
theorem Arises.outcome_eq {step : Step} {p : Progress σ} {x : Event} (h : c.Arises p step x)
    (hnew : p.NoneEnded) : ((c.take step).run p).1 = x.outcome := by
  cases h with
  | @server step command hline =>
    show ((c.startServer step).run p).1 = _
    obtain ⟨_, _, hrun, -, -⟩ := c.run_bringUp_eq .server step.label command step.readiness p
    rw [run_startServer, hline]
    dsimp only
    rw [hrun]
    rfl
  | @client step command hline =>
    show ((c.runClient step).run p).1 = _
    rw [run_runClient]
    dsimp only
    rw [run_clientStatus, hline]
    dsimp only
    cases c.clientEnding step command p.world with
    | error reason => rfl
    | ok ending => exact ite_not _ _ _
  | @reaped service child hfirst hchild =>
    have hended := c.reapProcess_eq hchild (hnew service (List.mem_of_find?_eq_some hfirst)) p.world
    show ((c.reapFirst .server).run p).1 = _
    rw [run_reapFirst, hfirst]
    simp only [hended, true_and]
    exact ite_not _ _ _

/-- A step of a scenario has an event if its command line can be read, and if there is a server
where it reaps one. -/
theorem exists_eventOf {step : Step} {p : Progress σ} (hstep : step ∈ c.plan.scenarioSteps)
    (hp : p.AllStarted) (hreap : step = .reap .server → .server ∈ p.killList.map (·.kind))
    (hline : ∀ template ∈ step.template?, ∃ command,
      c.plan.scenarioLine (c.host.isFile · p.world) template = .ok command) :
    ∃ x, c.eventOf p step = some x := by
  cases step with
  | server step =>
    obtain ⟨command, hcommand⟩ := hline step.command rfl
    simp [eventOf, hcommand, Except.toOption]
  | client step =>
    obtain ⟨command, hcommand⟩ := hline step.command rfl
    simp [eventOf, hcommand, Except.toOption]
  | reap kind =>
    obtain rfl : kind = .server := by
      simp [Plan.scenarioSteps] at hstep
      tauto
    obtain ⟨x, hx, hkind⟩ := List.mem_map.mp (hreap rfl)
    obtain ⟨service, hservice, rfl⟩ := List.mem_map.mp hx
    obtain ⟨first, hfirst⟩ := Option.isSome_iff_exists.mp
      (List.find?_isSome (p := (·.kind == .server)).mpr ⟨service, hservice, beq_iff_eq.mpr hkind⟩)
    obtain ⟨child, hchild⟩ := hp.exists_child hfirst
    simp [eventOf, endingOf, hfirst, hchild]
  | _ => simp [Plan.scenarioSteps] at hstep

/-- A step that succeeds has found its command line. -/
theorem line_of_take_eq_ok {step : Step} {p q : Progress σ}
    (hs : (c.take step).run p = (.ok (), q)) : ∀ template ∈ step.template?, ∃ command,
      c.plan.scenarioLine (c.host.isFile · p.world) template = .ok command := by
  replace hs : ((c.take step).run p).1 = .ok () := congrArg Prod.fst hs
  intro template htemplate
  cases step with
  | server step =>
    cases htemplate
    replace hs : ((c.startServer step).run p).1 = .ok () := hs
    rw [run_startServer] at hs
    cases hline : c.plan.scenarioLine (c.host.isFile · p.world) step.command with
    | error e =>
      rw [hline] at hs
      cases hs
    | ok command => exact ⟨command, rfl⟩
  | client step =>
    cases htemplate
    replace hs : ((c.runClient step).run p).1 = .ok () := hs
    rw [run_runClient] at hs
    dsimp only at hs
    rw [run_clientStatus] at hs
    cases hline : c.plan.scenarioLine (c.host.isFile · p.world) step.command with
    | error e =>
      rw [hline] at hs
      cases hs
    | ok command => exact ⟨command, rfl⟩
  | _ => cases htemplate

/-! ## The events of a scenario -/

private theorem eventsIn_append (past future : List (Moment σ)) :
    c.eventsIn (past ++ future) = c.eventsIn past ++ c.eventsIn future :=
  List.filterMap_append

/-- Moments that each have their event have those events and no others. -/
theorem eventsIn_of_forall {past : List (Moment σ)}
    (hnew : ∀ m ∈ past, m.found.NoneEnded)
    (hruns : ∀ m ∈ past, (c.take m.step).run m.found = (m.outcome, m.left))
    (hevents : ∀ m ∈ past, ∃ x, c.eventOf m.found m.step = some x) :
    (c.eventsIn past).map Event.step = past.map (·.step) ∧
      (c.eventsIn past).map Event.outcome = past.map (·.outcome) := by
  induction past with
  | nil => exact ⟨rfl, rfl⟩
  | cons m past ih =>
    rw [List.forall_mem_cons] at hnew hruns hevents
    obtain ⟨x, hx⟩ := hevents.1
    have hstep := (arises_of_eventOf hx).step_eq
    have houtcome := (arises_of_eventOf hx).outcome_eq hnew.1
    rw [hruns.1] at houtcome
    obtain ⟨hsteps, houtcomes⟩ := ih hnew.2 hruns.2 hevents.2
    have hcons : c.eventsIn (m :: past) = x :: c.eventsIn past := List.filterMap_cons_some hx
    rw [hcons, List.map_cons, List.map_cons, List.map_cons, List.map_cons, hstep, hsteps,
      houtcomes, ← houtcome]
    exact ⟨rfl, rfl⟩

section

variable {p : Progress σ} (hp : p.AllStarted) (hserver : .server ∉ p.killList.map (·.kind))

include hp hserver

/-- In a scenario there is a server wherever one is reaped. -/
theorem exists_eventOf_moment {past future : List (Moment σ)} {m : Moment σ}
    (h : c.trail c.plan.scenarioSteps p = past ++ m :: future)
    (hline : ∀ template ∈ m.step.template?, ∃ command,
      c.plan.scenarioLine (c.host.isFile · m.found.world) template = .ok command) :
    ∃ x, c.eventOf m.found m.step = some x := by
  obtain ⟨hleads, hok⟩ := leads_of_trail_eq h
  have hsteps : past.map (·.step) ++ [m.step] <+: c.plan.scenarioSteps := by
    have hpre : past ++ [m] <+: c.trail c.plan.scenarioSteps p := ⟨future, by simp [h]⟩
    simpa using (leads_of_prefix_trail hpre).2
  refine exists_eventOf (hsteps.subset (by simp)) (hleads.allStarted hp hok) (fun hm ↦ ?_) hline
  rw [hleads.kinds hp hok]
  exact server_mem_foldl_running hserver (hm ▸ hsteps)

/-- All moments of a scenario but the last have good events. -/
theorem eventsIn_of_trail_eq (hnew : p.NoneEnded) {past future : List (Moment σ)} {m : Moment σ}
    (h : c.trail c.plan.scenarioSteps p = past ++ m :: future) :
    (c.eventsIn past).map Event.step = past.map (·.step) ∧
      ∀ x ∈ c.eventsIn past, x.outcome = .ok () := by
  have hruns := run_of_trail_eq h
  have hok := (leads_of_trail_eq h).2
  have hall : ∀ m' ∈ past, (c.take m'.step).run m'.found = (m'.outcome, m'.left) :=
    fun m' hm' ↦ hok m' hm' ▸ hruns m' hm'
  have hevents : ∀ m' ∈ past, ∃ x, c.eventOf m'.found m'.step = some x := by
    intro m' hm'
    obtain ⟨front, rest, rfl⟩ := List.append_of_mem hm'
    rw [List.append_assoc, List.cons_append] at h
    exact exists_eventOf_moment hp hserver h (line_of_take_eq_ok (hruns m' hm'))
  have hfound : ∀ m' ∈ past, m'.found.NoneEnded := fun m' hm' ↦
    noneEnded_of_mem_trail hnew (h ▸ List.mem_append_left _ hm')
  obtain ⟨hsteps, houtcomes⟩ := eventsIn_of_forall hfound hall hevents
  refine ⟨hsteps, fun x hx ↦ ?_⟩
  have hmem : x.outcome ∈ past.map (·.outcome) := houtcomes ▸ List.mem_map_of_mem hx
  obtain ⟨m', hm', heq⟩ := List.mem_map.mp hmem
  exact heq ▸ hok m' hm'

/-- The events of a scenario follow the plan, and only the last of them can be a bad one. -/
theorem scenarioEvents_gated (hnew : p.NoneEnded) :
    (c.scenarioEvents p).map Event.step <+: c.plan.scenarioSteps ∧
      ∀ x ∈ (c.scenarioEvents p).dropLast, x.outcome = .ok () := by
  have hcourse : (c.trail c.plan.scenarioSteps p).map (·.step) <+: c.plan.scenarioSteps :=
    (leads_of_prefix_trail List.prefix_rfl).2
  unfold scenarioEvents
  rcases List.eq_nil_or_concat (c.trail c.plan.scenarioSteps p) with hnil | ⟨past, m, hm⟩
  · simp [hnil, eventsIn]
  · rw [List.concat_eq_append] at hm
    obtain ⟨hsteps, hok⟩ := eventsIn_of_trail_eq hp hserver hnew hm
    have hevents : c.eventsIn (past ++ [m]) =
        c.eventsIn past ++ (c.eventOf m.found m.step).toList := by
      rw [eventsIn_append]
      cases hx : c.eventOf m.found m.step <;> simp [eventsIn, hx]
    rw [hm] at hcourse ⊢
    rw [hevents, List.map_append, hsteps]
    cases hx : c.eventOf m.found m.step with
    | none =>
      refine ⟨?_, fun x hx ↦ hok x (List.dropLast_subset _ (by simpa using hx))⟩
      refine List.IsPrefix.trans ?_ hcourse
      simp
    | some x =>
      have hstep := (arises_of_eventOf hx).step_eq
      refine ⟨?_, by simpa using hok⟩
      simpa [hstep] using hcourse

/-- If its command lines can be read, every step of a scenario has an event, and the scenario ends
as the last of them. -/
theorem outcome_scenario (hnew : p.NoneEnded) (hlines : c.plan.HasCommandLines) :
    (c.scenarioEvents p).map Event.step = (c.trail c.plan.scenarioSteps p).map (·.step) ∧
      ((c.follow c.plan.scenarioSteps).run p).1 =
        ((c.scenarioEvents p).getLast?.map Event.outcome).getD (.ok ()) := by
  have hevents : ∀ m ∈ c.trail c.plan.scenarioSteps p,
      ∃ x, c.eventOf m.found m.step = some x := by
    intro m hm
    have hmem := (leads_of_prefix_trail List.prefix_rfl).2.subset (List.mem_map_of_mem hm)
    obtain ⟨past, future, h⟩ := List.append_of_mem hm
    exact exists_eventOf_moment hp hserver h fun template htemplate ↦
      Plan.scenarioLine_eq_ok_iff.mpr (hlines template (mem_templates hmem htemplate))
  obtain ⟨hsteps, houtcomes⟩ := eventsIn_of_forall
    (fun _ hm ↦ noneEnded_of_mem_trail hnew hm) (fun _ hm ↦ run_of_mem_trail hm) hevents
  refine ⟨hsteps, ?_⟩
  rw [run_follow]
  dsimp only
  rw [← List.getLast?_map, ← houtcomes, List.getLast?_map]
  rfl

end

/-! ## Servers and the kill list -/

private theorem bind_eventOf {p : Progress σ} {step : Step} (hstep : step ∈ c.plan.scenarioSteps) :
    (c.eventOf p step).bind Event.launched? = c.launchedBy p step ∧
      (c.eventOf p step).bind Event.reaped? = p.reapedBy step := by
  cases step with
  | server step =>
    unfold eventOf launchedBy Progress.reapedBy
    dsimp only
    cases c.plan.scenarioLine (c.host.isFile · p.world) step.command <;> exact ⟨rfl, rfl⟩
  | client step =>
    unfold eventOf launchedBy Progress.reapedBy
    dsimp only
    cases c.plan.scenarioLine (c.host.isFile · p.world) step.command <;> exact ⟨rfl, rfl⟩
  | reap kind =>
    obtain rfl : kind = .server := by
      simp [Plan.scenarioSteps] at hstep
      tauto
    unfold eventOf launchedBy Progress.reapedBy endingOf
    dsimp only
    cases p.background.find? (·.kind == .server) with
    | none => exact ⟨rfl, rfl⟩
    | some service =>
      rw [Option.bind_some, Option.bind_some, Option.bind_some]
      cases service.process.child <;> exact ⟨rfl, rfl⟩
  | _ => simp [Plan.scenarioSteps] at hstep

private theorem bind_eventOf_of_trail {p : Progress σ} {f : Event → Option Identity}
    {g : Progress σ → Step → Option Identity}
    (h : ∀ {q step}, step ∈ c.plan.scenarioSteps → (c.eventOf q step).bind f = g q step) :
    (c.scenarioEvents p).filterMap f =
      (c.trail c.plan.scenarioSteps p).filterMap fun m ↦ g m.found m.step := by
  unfold scenarioEvents eventsIn
  rw [List.filterMap_filterMap]
  exact List.filterMap_congr fun m hm ↦
    h ((leads_of_prefix_trail List.prefix_rfl).2.subset (List.mem_map_of_mem hm))

private theorem kind_of_launched? {x : Event} {y : Identity} (h : x.launched? = some y) :
    y.kind = .server := by
  cases x <;> cases h
  rfl

private theorem Arises.kind_of_reaped? {p : Progress σ} {step : Step} {x : Event} {y : Identity}
    (h : c.Arises p step x) (hy : x.reaped? = some y) : y.kind = .server := by
  cases h with
  | reaped hfirst _ =>
    cases hy
    simpa [Service.identity] using List.find?_some hfirst
  | _ => cases hy

/-- A scenario begins without servers, and with every process on the kill list started and not seen
to end. -/
theorem begins {s : σ} {p : Progress σ}
    (h : (c.follow c.plan.beforeScenario).run { world := s } = (.ok (), p)) :
    p.AllStarted ∧ p.NoneEnded ∧ .server ∉ p.killList.map (·.kind) := by
  obtain ⟨hleads, hsteps, hok⟩ := leads_of_follow_eq_ok h
  have hstart := Progress.allStarted_start s
  refine ⟨hleads.allStarted hstart hok, hleads.noneEnded (Progress.noneEnded_start s), ?_⟩
  rw [hleads.kinds hstart hok, hsteps]
  exact c.plan.server_notMem_running_beforeScenario

/-- The servers launched in a scenario are those that it has reaped, in the same order, and those
that are left on the kill list. -/
theorem launched_eq {s : σ} {p : Progress σ}
    (h : (c.follow c.plan.beforeScenario).run { world := s } = (.ok (), p)) :
    (c.scenarioEvents p).filterMap Event.launched? =
      (c.scenarioEvents p).filterMap Event.reaped? ++
        ((c.follow c.plan.scenarioSteps).run p).2.killList.filter (·.kind == .server) := by
  have hlaunched : (c.scenarioEvents p).filterMap Event.launched? =
      c.launchedIn (c.trail c.plan.scenarioSteps p) :=
    bind_eventOf_of_trail fun hstep ↦ (bind_eventOf hstep).1
  have hreaped : (c.scenarioEvents p).filterMap Event.reaped? =
      reapedIn (c.trail c.plan.scenarioSteps p) :=
    bind_eventOf_of_trail fun hstep ↦ (bind_eventOf hstep).2
  have hservers : ∀ x ∈ c.launchedIn (c.trail c.plan.scenarioSteps p), x.kind = .server := by
    rw [← hlaunched]
    intro x hx
    obtain ⟨y, -, hy⟩ := List.mem_filterMap.mp hx
    exact kind_of_launched? hy
  have hreaps : ∀ x ∈ reapedIn (c.trail c.plan.scenarioSteps p), x.kind = .server := by
    rw [← hreaped]
    intro x hx
    obtain ⟨y, hy, hyx⟩ := List.mem_filterMap.mp hx
    obtain ⟨m, -, hm⟩ := List.mem_filterMap.mp hy
    exact (arises_of_eventOf hm).kind_of_reaped? hyx
  have hnone : p.killList.filter (·.kind == .server) = [] := by
    rw [List.filter_eq_nil_iff]
    exact fun x hx hkind ↦ (begins h).2.2 (List.mem_map.mpr ⟨x, hx, eq_of_beq hkind⟩)
  -- The books of the servers before the scenario are closed, and stay so in those of both together.
  have hbefore := (leads_of_follow_eq_ok h).1.accounted rfl
  have hleads := (leads_of_prefix_trail (List.prefix_refl (c.trail c.plan.scenarioSteps p))).1
  have hend : p.after (c.trail c.plan.scenarioSteps p) =
      ((c.follow c.plan.scenarioSteps).run p).2 := by rw [run_follow]
  have hboth := (hleads.accounted_append (begins h).1 hbefore).settled .server
  rw [List.filter_append, List.filter_append, hbefore.settled .server, hnone, List.append_nil,
    List.append_assoc, List.append_right_inj, hend] at hboth
  rw [hlaunched, hreaped]
  calc c.launchedIn (c.trail c.plan.scenarioSteps p)
      = (c.launchedIn (c.trail c.plan.scenarioSteps p)).filter (·.kind == .server) :=
        (List.filter_eq_self.mpr fun x hx ↦ beq_iff_eq.mpr (hservers x hx)).symm
    _ = _ := hboth
    _ = _ := by rw [List.filter_eq_self.mpr fun x hx ↦ beq_iff_eq.mpr (hreaps x hx)]

/-! ## The whole scenario -/

/-- A run that comes to the scenario has taken all steps before it. -/
theorem reaches_of_history {s : σ} (h : .clientServerRunning ∈ (c.run s).1.history) :
    ∃ p, (c.follow c.plan.beforeScenario).run { world := s } = (.ok (), p) ∧
      p.stage = .clientServerRunning := by
  have hbefore := run_follow_append (c := c) c.plan.clusterSteps [.enter .clientServerRunning]
    { world := s }
  cases hr : (c.follow c.plan.clusterSteps).run { world := s } with
  | mk r q =>
  rw [hr] at hbefore
  cases r with
  | ok => exact ⟨_, hbefore, rfl⟩
  | error e =>
    obtain ⟨rest, hcourse⟩ := c.plan.exists_course_eq
    have hmoments : c.moments s = c.trail c.plan.clusterSteps { world := s } := by
      unfold moments
      rw [hcourse, Plan.beforeScenario, List.append_assoc, trail_append, hr, List.append_nil]
    rw [(history_run c s).1, history_attempt, hmoments] at h
    have hstages := (leads_of_prefix_trail
      (List.prefix_refl (c.trail c.plan.clusterSteps { world := s }))).2.filterMap Step.stage?
    exact absurd (List.cons_subset_cons .clean hstages.subset h)
      c.plan.scenario_notMem_stages_clusterSteps

/-- A failure of a scenario is one of the whole run. -/
theorem attempt_eq_of_scenario {s : σ} {p q : Progress σ} {e : Failure}
    (h : (c.follow c.plan.beforeScenario).run { world := s } = (.ok (), p))
    (he : (c.follow c.plan.scenarioSteps).run p = (.error e, q)) :
    c.attempt.run { world := s } = (.error e, q) := by
  obtain ⟨rest, hcourse⟩ := c.plan.exists_course_eq
  show (c.follow c.plan.course).run { world := s } = _
  rw [hcourse, run_follow_append, h]
  dsimp only
  rw [run_follow_append, he]

/-- A step fails with a status exactly if that is the status of its process and not 0. -/
theorem verdict_eq_error_iff {name label : String} {status code : Int} :
    Event.verdict name code = .error (.stepFailed label status) ↔
      status ≠ 0 ∧ name = label ∧ code = status := by
  unfold Event.verdict
  by_cases hcode : code = 0
  · simp only [if_pos hcode, reduceCtorEq, false_iff]
    rintro ⟨hne, -, rfl⟩
    exact hne hcode
  · simp only [if_neg hcode, Except.error.injEq, Failure.stepFailed.injEq]
    refine ⟨fun h ↦ ⟨h.2 ▸ hcode, h⟩, fun h ↦ h.2⟩

/-- Only a client or a reaped server fails a scenario with a status, and that is its own. -/
theorem Arises.outcome_eq_stepFailed_iff {p : Progress σ} {step : Step} {x : Event}
    (h : c.Arises p step x) {label : String} {status : Int} :
    x.outcome = .error (.stepFailed label status) ↔ status ≠ 0 ∧
      ((∃ step ending, x = .client step (.ok ending) ∧ step.label = label ∧
          ending.exitCode = status) ∨
        ∃ process ending, x = .reaped process ending ∧ process.label = label ∧
          ending.exitCode = status) := by
  cases h with
  | @server step command _ =>
    have hstatusless : Statusless (c.handshakeOf step.label command step.readiness p.world) :=
      Subprocess.statusless_handshake _ _ _ _ _
    unfold Event.outcome
    cases hh : c.handshakeOf step.label command step.readiness p.world with
    | ok pid => simp [Except.map]
    | error e =>
      simp only [Except.map, Except.error.injEq, reduceCtorEq, false_and, exists_false, or_self,
        and_false, iff_false]
      rintro rfl
      cases hstatusless _ hh
  | @client step command _ =>
    cases c.clientEnding step command p.world with
    | error reason => simp [Event.outcome]
    | ok ending => simp [Event.outcome, verdict_eq_error_iff]
  | reaped _ _ => simp [Event.outcome, verdict_eq_error_iff]

/-- The scenario of every run that comes to it. Servers are launched, clients run and servers reaped
in the order of the plan, each only after all before it went well. Servers are reaped in the order
of their launch, and those that are not stand on the kill list. A failure with a status is that of a
client or a reaped server, with its label and its own status. If all command lines can be read, the
scenario fails exactly if one of its events is a bad one, by the failure of that. -/
theorem scenario_gated {s : σ} (h : .clientServerRunning ∈ (c.run s).1.history) :
    ∃ p, (c.follow c.plan.beforeScenario).run { world := s } = (.ok (), p) ∧
      p.stage = .clientServerRunning ∧
      (∀ e q, (c.follow c.plan.scenarioSteps).run p = (.error e, q) →
        c.attempt.run { world := s } = (.error e, q)) ∧
      (c.scenarioEvents p).map Event.step <+: c.plan.scenarioSteps ∧
      (∀ x ∈ (c.scenarioEvents p).dropLast, x.outcome = .ok ()) ∧
      (c.scenarioEvents p).filterMap Event.launched? =
        (c.scenarioEvents p).filterMap Event.reaped? ++
          ((c.follow c.plan.scenarioSteps).run p).2.killList.filter (·.kind == .server) ∧
      (∀ x ∈ c.scenarioEvents p, ∀ label status,
        x.outcome = .error (.stepFailed label status) ↔ status ≠ 0 ∧
          ((∃ step ending, x = .client step (.ok ending) ∧ step.label = label ∧
              ending.exitCode = status) ∨
            ∃ process ending, x = .reaped process ending ∧ process.label = label ∧
              ending.exitCode = status)) ∧
      (c.plan.HasCommandLines →
        (((c.follow c.plan.scenarioSteps).run p).1 = .ok () ↔
          (c.scenarioEvents p).map Event.step = c.plan.scenarioSteps ∧
            ∀ x ∈ c.scenarioEvents p, x.outcome = .ok ()) ∧
        ∀ e, ((c.follow c.plan.scenarioSteps).run p).1 = .error e ↔
          ∃ front x, c.scenarioEvents p = front ++ [x] ∧ x.outcome = .error e) := by
  obtain ⟨p, hp, hstage⟩ := reaches_of_history h
  obtain ⟨hstarted, hnew, hserver⟩ := begins hp
  obtain ⟨horder, hgated⟩ := scenarioEvents_gated hstarted hserver hnew
  refine ⟨p, hp, hstage, fun e q ↦ attempt_eq_of_scenario hp, horder, hgated, launched_eq hp,
    fun x hx label status ↦ ?_, fun hlines ↦ ?_⟩
  · obtain ⟨m, -, hm⟩ := List.mem_filterMap.mp hx
    exact (arises_of_eventOf hm).outcome_eq_stepFailed_iff
  · obtain ⟨hsteps, houtcome⟩ := outcome_scenario hstarted hserver hnew hlines
    obtain ⟨hok, herror⟩ := Event.outcome_getLast? hgated
    rw [← houtcome] at hok herror
    refine ⟨⟨fun h ↦ ⟨?_, hok.mp h⟩, fun h ↦ hok.mpr h.2⟩, herror⟩
    rw [hsteps, (trail_of_follow_eq_ok h).1]

/-! ## Two servers and a client that fails -/

/-- A host whose children print the lines of one script, and all end with status one. -/
def scriptHost : Host (List String) where
  spawn _ _ s := (.ok ⟨0⟩, s)
  readLine
    | _, _, [] => (.ended, [])
    | _, _, line :: rest => (.line line, rest)
  linesLeft := List.length
  linesLeft_readLine := by
    rintro _ _ (_ | ⟨line, rest⟩) _ _ ⟨⟩
    exact Nat.lt_succ_self _
  closeInput _ s := s
  dropOutput _ s := s
  drainOutput _ _ s := s
  joinOutput _ _ s := (.endOfStream, s)
  stopOutput _ s := (.endOfStream, s)
  joinErrors _ _ s := s
  stopErrors _ s := s
  wait _ s := (.exited 1, s)
  waitUpTo _ _ s := (some (.exited 1), s)
  kill _ s := (.exited 1, s)
  capture _ s := (.ok ⟨.exited 1, [], []⟩, s)
  emit _ _ s := s
  readText _ _ := .ok ""
  isFile _ _ := false
  removeTree _ s := (.ok (), s)
  createDirs _ s := (.ok (), s)

/-- A plan with two servers and two clients. Its servers are labelled like the registry. -/
def failingPlan : Plan where
  name := "x"
  testDir := ⟨"/work"⟩
  port := 1
  admin := { binary := "admin" }
  registry := { binary := "registry" }
  servers := List.replicate 2 { label := "registry", command := "server" }
  clients := [{ label := "first", command := "client" }, { label := "second", command := "client" }]

def failingSetup : Setup (List String) where
  host := scriptHost
  admin := fun _ _ s ↦ (.ok ⟨0, ""⟩, s)
  plan := failingPlan

/-- What the registry and the two servers print. -/
def greetings : List String := ["7", "ready", "ready", "ready", "ready", "8", "ready", "9", "ready"]

private theorem hasCommandLines_failingPlan : failingPlan.HasCommandLines := by
  have hall : (failingPlan.servers.map (·.command) ++ failingPlan.clients.map (·.command)).all
      (fun t ↦ (CommandLine.parse (failingPlan.expand t)).toOption.isSome) = true := by
    decide +kernel
  intro template htemplate
  obtain ⟨command, hcommand⟩ :=
    Option.isSome_iff_exists.mp (List.all_eq_true.mp hall template htemplate)
  exact ⟨command, toOption_eq_some_iff.mp hcommand⟩

/-- The scenario ends with its first client. -/
theorem failing_client_ends_scenario :
    .clientServerRunning ∈ (failingSetup.run greetings).1.history ∧
      ∃ p : Progress (List String), p.stage = .clientServerRunning ∧
        ∃ front x, failingSetup.scenarioEvents p = front ++ [x] ∧
          x.outcome = .error (.stepFailed "first" 1) := by
  have h : .clientServerRunning ∈ (failingSetup.run greetings).1.history := by decide +kernel
  obtain ⟨p, hp, hstage, -, -, -, -, -, hverdict⟩ := scenario_gated h
  obtain rfl : ((failingSetup.follow failingPlan.beforeScenario).run
      { world := greetings }).2 = p := congrArg Prod.snd hp
  exact ⟨h, _, hstage, ((hverdict hasCommandLines_failingPlan).2 _).mp (by decide +kernel)⟩

end Setup
end Fixture
end ClusterHarness
