import ClusterHarness.Proofs.Fixture.KillList
import ClusterHarness.Proofs.Fixture.Recording

/-!
# The admin calls of a run

The calls that a run makes are a beginning of what its plan asks for, and end with the first call
that fails. Each waits for the services of the cluster to come up, and those after the provisioning
for the clients and servers to end well.
-/

namespace ClusterHarness

/-- The operation was carried out and ended with status zero. -/
def Admin.Exchange.Succeeded (x : Admin.Exchange) : Prop :=
  ∃ output, x.answer = .ok output ∧ output.exitCode = 0

namespace Fixture

variable {σ : Type}

namespace Setup

variable (c : Setup σ)

/-- In one of the moments a service was started and printed the lines of its contract. -/
def CameUpIn (past : List (Moment σ)) (kind : ServiceRole) (command : CommandLine)
    (contract : Readiness) : Prop :=
  ∃ m ∈ past, m.step = .start kind command contract ∧
    c.CameUp kind.name command contract m.found.world

/-- How a client ends, with its label, if the step runs one. -/
def clientEnd (p : Progress σ) : Step → Option (String × WaitStatus)
  | .client step => (c.endingOf p (.client step)).map (step.label, ·)
  | _ => none

/-- How a server ends, with its label, if the step reaps one. -/
def serverEnd (p : Progress σ) : Step → Option (String × WaitStatus)
  | .reap .server => (p.background.find? (·.kind == .server)).bind fun service ↦
    (c.endingOf p (.reap .server)).map (service.process.label, ·)
  | _ => none

/-- How the clients ended so far. -/
def clientEnds (past : List (Moment σ)) : List (String × WaitStatus) :=
  past.filterMap fun m ↦ c.clientEnd m.found m.step

/-- How the servers ended so far. -/
def serverEnds (past : List (Moment σ)) : List (String × WaitStatus) :=
  past.filterMap fun m ↦ c.serverEnd m.found m.step

variable {c}

/-! ## Calls and steps -/

private theorem operation_exchangesIn (past : List (Moment σ)) :
    (c.exchangesIn past).map (·.operation) = (past.map (·.step)).filterMap Step.request? := by
  unfold exchangesIn
  rw [List.map_filterMap, List.filterMap_map]
  refine List.filterMap_congr fun m _ ↦ ?_
  show (c.exchangeOf m.found m.step).map (·.operation) = m.step.request?
  cases m.step <;> rfl

private theorem locator_of_mem_exchangesIn {past : List (Moment σ)} {x : Admin.Exchange}
    (hx : x ∈ c.exchangesIn past) : x.locator = c.plan.locator := by
  obtain ⟨m, -, hm⟩ := List.mem_filterMap.mp hx
  cases hs : m.step with
  | admin command =>
    rw [hs] at hm
    cases hm
    rfl
  | _ =>
    rw [hs] at hm
    cases hm

/-- A step that succeeds has made no call that failed. -/
theorem succeeded_of_take_eq_ok {step : Step} {p q : Progress σ} {x : Admin.Exchange}
    (hs : (c.take step).run p = (.ok (), q)) (hx : c.exchangeOf p step = some x) :
    x.Succeeded := by
  cases step with
  | admin command =>
    cases hx
    have hr : ((c.carryOut command).run p).1 = .ok () := congrArg Prod.fst hs
    rw [run_carryOut] at hr
    unfold Admin.checked at hr
    cases ha : c.admin c.plan.locator command p.world with
    | mk answer t =>
    rw [ha] at hr
    cases answer with
    | error e => cases hr
    | ok output =>
      by_cases hsuccess : output.success
      · exact ⟨output, rfl, by simpa [Admin.Output.success] using hsuccess⟩
      · simp [hsuccess, Except.map] at hr
  | _ => cases hx

/-- Steps that lie before a call by their number of calls were all taken before it. -/
theorem reached_of_call {steps front : List Step} {p : Progress σ} {past future}
    {m : Moment σ} (h : c.trail steps p = past ++ m :: future) (hm : m.step.request?.isSome)
    (hf : front <+: steps) (hn : (front.filterMap Step.request?).length ≤
      ((past.map (·.step)).filterMap Step.request?).length) :
    front <+: past.map (·.step) := by
  have hsteps : past.map (·.step) ++ [m.step] <+: steps := by
    have hp : past ++ [m] <+: c.trail steps p := ⟨future, by simp [h]⟩
    simpa using (leads_of_prefix_trail hp).2
  obtain ⟨command, hcommand⟩ := Option.isSome_iff_exists.mp hm
  -- The call itself is one more than there are before it, so it is not among the steps in front.
  have hmore : ¬ past.map (·.step) ++ [m.step] <+: front := by
    intro hpre
    have hlen := (hpre.filterMap Step.request?).length_le
    rw [List.filterMap_append, List.length_append, List.filterMap_cons_some hcommand,
      List.length_cons] at hlen
    omega
  cases List.prefix_or_prefix_of_prefix hf hsteps with
  | inl hpre =>
    cases List.prefix_concat_iff.mp hpre with
    | inl heq => exact absurd (heq ▸ List.prefix_rfl) hmore
    | inr hpre => exact hpre
  | inr hpre => exact absurd hpre hmore

/-! ## What came before a call -/

/-- A service whose start lies behind has come up. -/
theorem cameUpIn_of_mem {past : List (Moment σ)} {kind : ServiceRole} {command : CommandLine}
    {contract : Readiness}
    (hruns : ∀ m ∈ past, (c.take m.step).run m.found = (.ok (), m.left))
    (hstart : .start kind command contract ∈ past.map (·.step)) :
    c.CameUpIn past kind command contract := by
  obtain ⟨m, hm, hstep⟩ := List.mem_map.mp hstart
  have hrun := hruns m hm
  rw [hstep] at hrun
  obtain ⟨_, _, -, -, hup⟩ := c.run_bringUp kind kind.name command contract m.found
  exact ⟨m, hm, hstep, hup.mp (congrArg Prod.fst hrun)⟩

/-- A step that succeeds has seen its client end with status zero. -/
theorem clientEnd_of_take_eq_ok {step : Step} {p q : Progress σ}
    (hs : (c.take step).run p = (.ok (), q)) :
    c.clientEnd p step = step.client?.map fun step ↦ (step.label, .exited 0) := by
  cases step with
  | client step =>
    have hr : ((c.runClient step).run p).1 = .ok () := congrArg Prod.fst hs
    rw [run_runClient] at hr
    dsimp only at hr
    rw [run_clientStatus] at hr
    unfold clientEnd endingOf
    cases hline : c.plan.scenarioLine (c.host.isFile · p.world) step.command with
    | error e =>
      rw [hline] at hr
      cases hr
    | ok command =>
    cases hend : c.clientEnding step command p.world with
    | error reason =>
      rw [hline] at hr
      simp [hend] at hr
    | ok ending =>
      have hzero : ending.exitCode = 0 := by
        by_contra hne
        rw [hline] at hr
        simp [hend, hne] at hr
      simp [hline, hend, WaitStatus.exitCode_eq_zero_iff.mp hzero, Except.toOption, Step.client?]
  | _ => rfl

/-- A step that succeeds has seen the server end with status zero that it reaps. -/
theorem serverEnd_of_take_eq_ok {step : Step} {p q : Progress σ} (hp : p.AllStarted)
    (hnew : p.NoneEnded) (hs : (c.take step).run p = (.ok (), q)) :
    c.serverEnd p step = ((p.reapedBy step).filter (·.kind == .server)).map
      fun x ↦ (x.label, .exited 0) := by
  cases step with
  | reap kind =>
    have hr : ((c.reapFirst kind).run p).1 = .ok () := congrArg Prod.fst hs
    rw [run_reapFirst] at hr
    unfold serverEnd Progress.reapedBy endingOf
    dsimp only
    cases hf : p.background.find? (·.kind == kind) with
    | none => cases kind <;> simp [hf]
    | some service =>
      have hkind : service.kind = kind := by simpa using List.find?_some hf
      obtain ⟨child, hchild, hcode⟩ := reapProcess_of_find? (c := c) hp hnew hf
      rw [hf] at hr
      simp only [hcode] at hr
      cases kind with
      | server =>
        have hzero : (c.reapEnding service child p.world).exitCode = 0 := by
          by_contra hne
          simp [hne] at hr
        simp [hf, hchild, WaitStatus.exitCode_eq_zero_iff.mp hzero, Service.identity, hkind,
          Option.filter_some]
      | _ => simp [hchild, Service.identity, hkind, Option.filter_some]
  | _ => rfl

/-- Before a call all services of the cluster have come up. -/
theorem cameUpIn_of_call {s : σ} {past future} {m : Moment σ}
    (h : c.moments s = past ++ m :: future) (hm : m.step.request?.isSome) :
    c.CameUpIn past .registry c.plan.registryLine (c.plan.registry.contract .registry) ∧
      ∀ node ∈ c.plan.node,
        c.CameUpIn past .node (c.plan.nodeLine node) (node.service.contract .node) := by
  have hreached : c.plan.openingSteps <+: past.map (·.step) := by
    refine reached_of_call h hm ?_ (by simp [filterMap_request?_openingSteps])
    exact c.plan.openingSteps_prefix_course
  have hruns := run_of_trail_eq h
  refine ⟨cameUpIn_of_mem hruns (hreached.subset ?_), fun node hnode ↦
    cameUpIn_of_mem hruns (hreached.subset ?_)⟩
  · simp [Plan.openingSteps]
  · rw [Option.mem_def] at hnode
    simp [Plan.openingSteps, hnode]

/-- Clients whose steps have succeeded have exited with status 0. -/
theorem clientEnds_eq {past : List (Moment σ)}
    (hruns : ∀ m ∈ past, (c.take m.step).run m.found = (.ok (), m.left)) :
    c.clientEnds past =
      ((past.map (·.step)).filterMap Step.client?).map fun step ↦ (step.label, .exited 0) := by
  unfold clientEnds
  rw [List.filterMap_map, List.map_filterMap]
  exact List.filterMap_congr fun m hm ↦ clientEnd_of_take_eq_ok (hruns m hm)

/-- So have servers. -/
theorem serverEnds_eq {past : List (Moment σ)}
    (hfound : ∀ m ∈ past, m.found.AllStarted ∧ m.found.NoneEnded)
    (hruns : ∀ m ∈ past, (c.take m.step).run m.found = (.ok (), m.left)) :
    c.serverEnds past =
      ((reapedIn past).filter (·.kind == .server)).map fun x ↦ (x.label, .exited 0) := by
  unfold serverEnds reapedIn
  rw [List.filter_filterMap, List.map_filterMap]
  exact List.filterMap_congr fun m hm ↦
    serverEnd_of_take_eq_ok (hfound m hm).1 (hfound m hm).2 (hruns m hm)

/-- What lies between two lists of steps in order has the same of some kind of step as they. -/
private theorem filterMap_eq_of_between {α : Type} {f : Step → Option α}
    {front past whole : List Step} (hf : front <+: past) (hw : past <+: whole)
    (h : front.filterMap f = whole.filterMap f) : past.filterMap f = whole.filterMap f := by
  have hle := (hf.filterMap f).length_le
  rw [h] at hle
  exact (hw.filterMap f).eq_of_length_le hle

private theorem services_of_reached {past : List Step} (hreached : c.plan.upToScenario <+: past)
    (hcourse : past <+: c.plan.course) : past.filterMap Step.service? = c.plan.services := by
  rw [← filterMap_service?_course]
  refine filterMap_eq_of_between hreached hcourse ?_
  rw [filterMap_service?_upToScenario, filterMap_service?_course]

/-- From the end of the scenario on there is no server in the background. -/
theorem filter_server_killList {s : σ} {past : List (Moment σ)} (hpast : past <+: c.moments s)
    (hok : ∀ m ∈ past, m.outcome = .ok ())
    (hreached : c.plan.upToScenario <+: past.map (·.step)) :
    (Progress.after { world := s } past).killList.filter (·.kind == .server) = [] := by
  obtain ⟨hleads, hcourse⟩ := leads_of_prefix_trail hpast
  have hkinds := hleads.kinds (Progress.allStarted_start s) hok
  have hservices := services_of_reached hreached hcourse
  obtain ⟨rest, hrest⟩ := hreached
  rw [← hrest, List.filterMap_append, filterMap_service?_upToScenario] at hservices
  have hsubset := foldl_running_subset (List.append_right_eq_self.mp hservices)
    (c.plan.upToScenario.foldl Step.running [])
  rw [← List.foldl_append, hrest] at hsubset
  rw [List.filter_eq_nil_iff]
  intro x hx hserver
  have hmem : x.kind ∈ (past.map (·.step)).foldl Step.running [] :=
    hkinds ▸ List.mem_map_of_mem hx
  rw [eq_of_beq hserver] at hmem
  exact server_notMem_foldl_running_upToScenario c.plan (hsubset hmem)

/-- By the end of the scenario the servers of the plan were reaped, in their order. -/
theorem labels_reapedIn {s : σ} {past : List (Moment σ)} (hpast : past <+: c.moments s)
    (hok : ∀ m ∈ past, m.outcome = .ok ())
    (hreached : c.plan.upToScenario <+: past.map (·.step)) :
    ((reapedIn past).filter (·.kind == .server)).map (·.label) =
      c.plan.servers.map (·.label) := by
  obtain ⟨hleads, hcourse⟩ := leads_of_prefix_trail hpast
  have hlaunched : (c.launchedIn past).map Identity.service = c.plan.services :=
    (hleads.map_service_launchedIn hok).trans (services_of_reached hreached hcourse)
  have hsettled := (hleads.accounted rfl).settled .server
  rw [filter_server_killList hpast hok hreached, List.append_nil] at hsettled
  calc ((reapedIn past).filter (·.kind == .server)).map (·.label)
      = ((c.launchedIn past).filter (·.kind == .server)).map (·.label) := by rw [hsettled]
    _ = (((c.launchedIn past).map Identity.service).filter (·.1 == .server)).map (·.2) := by
      rw [List.filter_map, List.map_map]
      rfl
    _ = c.plan.servers.map (·.label) := by
      rw [hlaunched, filter_server_services, List.map_map]
      rfl

/-- Before the calls after the provisioning all clients and servers have ended with status zero. -/
theorem ends_of_call {s : σ} {past future} {m : Moment σ}
    (h : c.moments s = past ++ m :: future) (hm : m.step.request?.isSome)
    (hn : c.plan.provision.length ≤ (c.exchangesIn past).length) :
    c.clientEnds past = c.plan.clients.map (fun step ↦ (step.label, .exited 0)) ∧
      c.serverEnds past = c.plan.servers.map fun step ↦ (step.label, .exited 0) := by
  have hreached : c.plan.upToScenario <+: past.map (·.step) := by
    refine reached_of_call h hm c.plan.upToScenario_prefix_course ?_
    rw [filterMap_request?_upToScenario, List.length_map, ← operation_exchangesIn,
      List.length_map]
    exact hn
  have hpast : past <+: c.moments s := ⟨m :: future, h.symm⟩
  obtain ⟨hleads, hcourse⟩ := leads_of_prefix_trail hpast
  have hok := outcome_eq_ok_of_trail_eq h
  have hruns := run_of_trail_eq h
  constructor
  · have hclients : (past.map (·.step)).filterMap Step.client? = c.plan.clients := by
      rw [← filterMap_client?_course]
      refine filterMap_eq_of_between hreached hcourse ?_
      rw [filterMap_client?_upToScenario, filterMap_client?_course]
    rw [clientEnds_eq hruns, hclients]
  · have hfound : ∀ m ∈ past, m.found.AllStarted ∧ m.found.NoneEnded := fun _ ↦
      hleads.found (Progress.allStarted_start s) (Progress.noneEnded_start s)
    have hlabels := congrArg (List.map fun label ↦ (label, WaitStatus.exited 0))
      (labels_reapedIn hpast hok hreached)
    rw [List.map_map, List.map_map] at hlabels
    exact (serverEnds_eq hfound hruns).trans hlabels

/-! ## All calls of a run -/

/-- The calls of a run are a beginning of what its plan asks for. -/
theorem operation_moments (s : σ) :
    (c.exchangesIn (c.moments s)).map (·.operation) <+: c.plan.requests := by
  rw [operation_exchangesIn, ← filterMap_request?_course]
  exact (leads_of_prefix_trail List.prefix_rfl).2.filterMap _

/-- All calls of a run but the last have succeeded. -/
theorem succeeded_of_mem_dropLast {s : σ} {x : Admin.Exchange}
    (hx : x ∈ (c.exchangesIn (c.moments s)).dropLast) : x.Succeeded := by
  rcases List.eq_nil_or_concat (c.moments s) with hnil | ⟨past, m, hm⟩
  · rw [hnil] at hx
    cases hx
  · rw [List.concat_eq_append] at hm
    have hpast : x ∈ c.exchangesIn past := by
      rw [hm] at hx
      unfold exchangesIn at hx ⊢
      rw [List.filterMap_append] at hx
      cases hl : c.exchangeOf m.found m.step with
      | none => exact List.dropLast_subset _ (by simpa [hl] using hx)
      | some y => simpa [hl] using hx
    obtain ⟨m', hm', hx'⟩ := List.mem_filterMap.mp hpast
    exact succeeded_of_take_eq_ok (run_of_trail_eq hm m' hm') hx'

/-- Every call is made exactly if all steps before the last call succeed. -/
theorem operation_eq_requests_iff (s : σ) :
    (c.exchangesIn (c.moments s)).map (·.operation) = c.plan.requests ↔
      ((c.follow c.plan.preparation).run { world := s }).1 = .ok () := by
  have htrail := trail_append (c := c) c.plan.preparation
    [.admin .shutdown, .reap .registry, .enter .done] { world := s }
  rw [← Plan.course_eq] at htrail
  cases hrun : (c.follow c.plan.preparation).run { world := s } with
  | mk r q =>
  rw [hrun] at htrail
  unfold moments
  cases r with
  | ok =>
    refine ⟨fun _ ↦ rfl, fun _ ↦ (operation_moments s).eq_of_length_le ?_⟩
    have hsteps := (trail_of_follow_eq_ok (congrArg Prod.fst hrun)).1
    obtain ⟨m, rest, hlast, hm⟩ : ∃ m rest,
        c.trail [.admin .shutdown, .reap .registry, .enter .done] q = m :: rest ∧
          m.step = .admin .shutdown := by
      unfold trail
      split <;> exact ⟨_, _, rfl, rfl⟩
    dsimp only at htrail
    unfold moments
    rw [operation_exchangesIn, htrail, requests_eq, List.map_append, hsteps, hlast]
    simp [hm, Step.request?]
  | error e =>
    refine ⟨fun hall ↦ ?_, fun h ↦ by cases h⟩
    have hle : ((c.trail c.plan.preparation { world := s }).map (·.step)).filterMap Step.request?
        <+: c.plan.preparation.filterMap Step.request? :=
      (leads_of_prefix_trail List.prefix_rfl).2.filterMap _
    rw [operation_exchangesIn, htrail, List.append_nil, requests_eq] at hall
    have := hle.length_le
    rw [hall, List.length_append, List.length_singleton] at this
    omega

/-- Admin calls wait for the cluster and keep the order of the plan. A run does the same whether
its calls are recorded or not, and the record is a beginning of what the plan asks for, at the
locator of the plan; only its last call may have failed. Before any call the registry has come up,
and the node if there is one; before a call after the provisioning every client and every server
has ended on its host by itself, with status zero. Every call is made exactly if all steps before
the last one succeed. -/
theorem admin_calls_gated (c : Setup σ) (s : σ) :
    c.recorded.run ([], s) = ((c.run s).1, c.exchangesIn (c.moments s), (c.run s).2) ∧
    (c.exchangesIn (c.moments s)).map (·.operation) <+: c.plan.requests ∧
    (∀ x ∈ c.exchangesIn (c.moments s), x.locator = c.plan.locator) ∧
    (∀ x ∈ (c.exchangesIn (c.moments s)).dropLast, x.Succeeded) ∧
    (∀ past m future, c.moments s = past ++ m :: future → m.step.request?.isSome →
      c.CameUpIn past .registry c.plan.registryLine (c.plan.registry.contract .registry) ∧
      (∀ node ∈ c.plan.node,
        c.CameUpIn past .node (c.plan.nodeLine node) (node.service.contract .node)) ∧
      (c.plan.provision.length ≤ (c.exchangesIn past).length →
        c.clientEnds past = c.plan.clients.map (fun step ↦ (step.label, .exited 0)) ∧
        c.serverEnds past = c.plan.servers.map fun step ↦ (step.label, .exited 0))) ∧
    ((c.exchangesIn (c.moments s)).map (·.operation) = c.plan.requests ↔
      ((c.follow c.plan.preparation).run { world := s }).1 = .ok ()) := by
  refine ⟨run_recorded s, operation_moments s, fun x ↦ locator_of_mem_exchangesIn,
    fun x ↦ succeeded_of_mem_dropLast, fun past m future h hm ↦ ?_, operation_eq_requests_iff s⟩
  obtain ⟨hregistry, hnode⟩ := cameUpIn_of_call h hm
  exact ⟨hregistry, hnode, ends_of_call h hm⟩

end Setup
end Fixture
end ClusterHarness
