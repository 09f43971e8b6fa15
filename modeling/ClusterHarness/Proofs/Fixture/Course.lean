import ClusterHarness.Fixture.Course
import Mathlib.Data.List.Basic

/-!
# The course of a plan, written out

The groups of steps that the course of a plan consists of, the processes that it starts, and the
admin commands that it asks for.
-/

namespace ClusterHarness

namespace Plan

open Fixture

/-- The steps that bring up the registry and the node. -/
def openingSteps (p : Plan) : List Step :=
  .clean :: .enter .registryStarting ::
    .start .registry p.registryLine (p.registry.contract .registry) :: .enter .registryReady ::
      p.node.toList.flatMap fun node ↦ [.enter .nodeStarting,
        .start .node (p.nodeLine node) (node.service.contract .node), .enter .nodeReady]

/-- The steps that run the servers and clients. -/
def scenarioSteps (p : Plan) : List Step :=
  p.servers.map .server ++ p.clients.map .client ++ p.servers.map fun _ ↦ .reap .server

/-- The steps that stop the node. -/
def nodeStoppingSteps (p : Plan) : List Step :=
  p.node.toList.flatMap fun node ↦
    [.enter .nodeStopping, .admin (.nodeShutdown node.name), .reap .node]

/-- All steps up to the end of the scenario. -/
def upToScenario (p : Plan) : List Step :=
  p.openingSteps ++ .enter .provisioning :: p.adminSteps p.provision ++
    .enter .clientServerRunning :: p.scenarioSteps

/-- All steps before the last admin command. -/
def preparation (p : Plan) : List Step :=
  p.upToScenario ++ .enter .deprovisioning :: p.adminSteps p.deprovision ++
    p.nodeStoppingSteps ++ [.enter .registryStopping]

/-- After its preparation a run shuts the cluster down and reaps the registry. -/
theorem course_eq (p : Plan) :
    p.course = p.preparation ++ [.admin .shutdown, .reap .registry, .enter .done] := by
  unfold course preparation upToScenario openingSteps scenarioSteps nodeStoppingSteps
  cases hn : p.node <;> simp [Stage.lifecycle, Stage.all, Stage.isNodeStage, stageSteps, hn]

/-- The scenario and all before it are the beginning of the course. -/
theorem upToScenario_prefix_course (p : Plan) : p.upToScenario <+: p.course := by
  rw [course_eq]
  unfold preparation
  simp only [List.append_assoc]
  exact List.prefix_append _ _

/-- So are the steps that bring the cluster up. -/
theorem openingSteps_prefix_course (p : Plan) : p.openingSteps <+: p.course := by
  refine List.IsPrefix.trans ?_ p.upToScenario_prefix_course
  unfold upToScenario
  rw [List.append_assoc]
  exact List.prefix_append _ _

/-- The processes that a plan runs in the background, by kind and label, in their order. -/
def services (p : Plan) : List (ServiceRole × String) :=
  (.registry, ServiceRole.registry.name) ::
    (p.node.toList.map fun _ ↦ (.node, ServiceRole.node.name)) ++
      p.servers.map fun step ↦ (.server, step.label)

/-- The admin commands that a plan asks for, in their order. -/
def requests (p : Plan) : List Admin.Operation :=
  (p.provision ++ p.deprovision).map (·.resolve p.testDir) ++
    p.node.toList.map (fun node ↦ .nodeShutdown node.name) ++ [.shutdown]

end Plan

namespace Fixture

/-! ## The processes of a course -/

namespace Step

/-- The process that a step starts in the background. -/
def service? : Step → Option (ServiceRole × String)
  | .start kind _ _ => some (kind, kind.name)
  | .server step => some (.server, step.label)
  | _ => none

/-- The kinds of the processes in the background, after a step that succeeds. -/
def running (kinds : List ServiceRole) : Step → List ServiceRole
  | .start kind _ _ => kinds ++ [kind]
  | .server _ => kinds ++ [.server]
  | .reap kind => kinds.erase kind
  | _ => kinds

end Step

/-- What is selected of admin steps is selected of their commands. -/
theorem filterMap_adminSteps {α : Type} (f : Step → Option α) (p : Plan)
    (commands : List Admin.Operation) :
    (p.adminSteps commands).filterMap f =
      commands.filterMap fun command ↦ f (.admin (command.resolve p.testDir)) :=
  List.filterMap_map

/-- All processes of a plan are started by the end of the scenario. -/
theorem filterMap_service?_upToScenario (p : Plan) :
    p.upToScenario.filterMap Step.service? = p.services := by
  unfold Plan.services Plan.upToScenario Plan.openingSteps Plan.scenarioSteps
  cases p.node <;>
    simp [List.filterMap_cons, filterMap_adminSteps, Step.service?, Function.comp_def]

/-- A course starts the processes of its plan. -/
theorem filterMap_service?_course (p : Plan) :
    p.course.filterMap Step.service? = p.services := by
  rw [Plan.course_eq]
  unfold Plan.preparation Plan.nodeStoppingSteps
  cases p.node <;>
    simp [List.filterMap_cons, filterMap_service?_upToScenario, filterMap_adminSteps,
      Step.service?]

/-- The servers among the services of a plan are its server steps. -/
theorem filter_server_services (p : Plan) :
    p.services.filter (·.1 == .server) = p.servers.map fun step ↦ (.server, step.label) := by
  have hservers : (p.servers.map fun step ↦ (ServiceRole.server, step.label)).filter
      (·.1 == .server) = p.servers.map fun step ↦ (.server, step.label) := by
    rw [List.filter_eq_self]
    simp
  unfold Plan.services
  cases p.node with
  | none => exact hservers
  | some node => exact hservers

/-! ## The processes that run at a time -/

private theorem foldl_running_map {α : Type} {f : α → Step}
    (hf : ∀ a kinds, (f a).running kinds = kinds) (l : List α) (kinds : List ServiceRole) :
    (l.map f).foldl Step.running kinds = kinds := by
  induction l with
  | nil => rfl
  | cons a l ih =>
    rw [List.map_cons, List.foldl_cons, hf]
    exact ih

/-- No process is launched or reaped by admin commands. -/
theorem foldl_running_adminSteps (p : Plan) (commands : List Admin.Operation)
    (kinds : List ServiceRole) : (p.adminSteps commands).foldl Step.running kinds = kinds :=
  foldl_running_map (fun _ _ ↦ rfl) commands kinds

private theorem foldl_running_servers (servers : List ServerPlan) (kinds : List ServiceRole) :
    (servers.map Step.server).foldl Step.running kinds =
      kinds ++ List.replicate servers.length .server := by
  induction servers generalizing kinds with
  | nil => simp
  | cons step servers ih =>
    rw [List.map_cons, List.foldl_cons, ih]
    simp [Step.running, List.replicate_succ]

private theorem foldl_running_reaps (reaped left : Nat) {kinds : List ServiceRole}
    (hk : .server ∉ kinds) :
    (List.replicate reaped (Step.reap .server)).foldl Step.running
      (kinds ++ List.replicate (reaped + left) .server) = kinds ++ List.replicate left .server := by
  induction reaped with
  | zero => simp
  | succ reaped ih =>
    rw [List.replicate_succ, List.foldl_cons]
    have he : Step.running (kinds ++ List.replicate (reaped + 1 + left) .server)
        (.reap .server) = kinds ++ List.replicate (reaped + left) .server := by
      rw [Nat.add_right_comm, List.replicate_succ]
      simp [Step.running, List.erase_append_right _ hk]
    rw [he, ih]

/-- The servers run once all clients were run. -/
theorem foldl_running_launches (p : Plan) (kinds : List ServiceRole) :
    (p.servers.map Step.server ++ p.clients.map Step.client).foldl Step.running kinds =
      kinds ++ List.replicate p.servers.length .server := by
  rw [List.foldl_append, foldl_running_servers, foldl_running_map (f := .client) fun _ _ ↦ rfl]

/-- The servers that a scenario starts are reaped before it ends. -/
theorem foldl_running_scenarioSteps (p : Plan) {kinds : List ServiceRole}
    (hk : .server ∉ kinds) : p.scenarioSteps.foldl Step.running kinds = kinds := by
  unfold Plan.scenarioSteps
  have hreaps := foldl_running_reaps p.servers.length 0 hk
  rw [Nat.add_zero, List.replicate_zero, List.append_nil] at hreaps
  rw [List.foldl_append, foldl_running_launches, List.map_const', hreaps]

/-- Wherever a scenario reaps a server there is one that runs. -/
theorem server_mem_foldl_running {p : Plan} {kinds : List ServiceRole} (hk : .server ∉ kinds)
    {past : List Step} (h : past ++ [.reap .server] <+: p.scenarioSteps) :
    .server ∈ past.foldl Step.running kinds := by
  have hnot : .reap .server ∉ p.servers.map Step.server ++ p.clients.map Step.client := by simp
  unfold Plan.scenarioSteps at h
  rw [List.map_const'] at h
  cases List.prefix_or_prefix_of_prefix h (List.prefix_append _ _) with
  | inl hearly => exact absurd (hearly.subset (by simp)) hnot
  | inr hlate =>
  cases List.prefix_concat_iff.mp hlate with
  | inl heq => exact absurd (heq ▸ (by simp : .reap .server ∈ past ++ [Step.reap .server])) hnot
  | inr hpast =>
    obtain ⟨reaps, rfl⟩ := hpast
    rw [List.append_assoc, List.prefix_append_right_inj] at h
    have hlt : reaps.length < p.servers.length :=
      Nat.lt_of_succ_le (by simpa using h.length_le)
    have hreaps : reaps = List.replicate reaps.length (.reap .server) := by
      rw [List.eq_replicate_iff]
      exact ⟨rfl, fun step hstep ↦
        List.eq_of_mem_replicate (h.subset (List.mem_append_left _ hstep))⟩
    obtain ⟨left, hleft⟩ := Nat.exists_eq_add_of_lt hlt
    rw [List.foldl_append, foldl_running_launches, hreaps, hleft, Nat.add_assoc,
      foldl_running_reaps _ _ hk]
    simp

/-- At the end of the scenario the registry and the node are left, and no server is. -/
theorem foldl_running_upToScenario (p : Plan) :
    p.upToScenario.foldl Step.running [] =
      .registry :: p.node.toList.map fun _ ↦ ServiceRole.node := by
  unfold Plan.upToScenario Plan.openingSteps
  cases p.node <;>
    simp [Step.running, foldl_running_adminSteps, foldl_running_scenarioSteps]

/-- No server runs after the scenario. -/
theorem server_notMem_foldl_running_upToScenario (p : Plan) :
    .server ∉ p.upToScenario.foldl Step.running [] := by
  rw [foldl_running_upToScenario]
  simp

/-- Every process that a course starts has a later step that reaps it. -/
theorem foldl_running_course (p : Plan) : p.course.foldl Step.running [] = [] := by
  rw [Plan.course_eq]
  unfold Plan.preparation Plan.nodeStoppingSteps
  simp only [List.foldl_append, List.foldl_cons, List.foldl_nil, foldl_running_upToScenario]
  cases p.node <;> simp [Step.running, foldl_running_adminSteps]

/-- Steps that start nothing leave no more processes than there were. -/
theorem foldl_running_subset {steps : List Step} (hs : steps.filterMap Step.service? = [])
    (kinds : List ServiceRole) : steps.foldl Step.running kinds ⊆ kinds := by
  induction steps generalizing kinds with
  | nil => exact List.Subset.refl _
  | cons step steps ih =>
    rw [List.filterMap_eq_nil_iff] at hs
    have hstep := hs step List.mem_cons_self
    have hrest := List.filterMap_eq_nil_iff.mpr fun s hm ↦ hs s (List.mem_cons_of_mem step hm)
    refine List.Subset.trans (ih hrest _) ?_
    cases step with
    | start => cases hstep
    | server => cases hstep
    | reap kind => exact List.erase_subset
    | _ => exact List.Subset.refl _

/-! ## The clients of a course -/

/-- The client that a step runs. -/
def Step.client? : Step → Option ClientPlan
  | .client step => some step
  | _ => none

/-- The clients of the scenario are those of the plan, in its order. -/
theorem filterMap_client?_upToScenario (p : Plan) :
    p.upToScenario.filterMap Step.client? = p.clients := by
  unfold Plan.upToScenario Plan.openingSteps Plan.scenarioSteps
  cases p.node <;>
    simp [List.filterMap_cons, filterMap_adminSteps, Step.client?, Function.comp_def]

/-- So are the clients of the whole course. -/
theorem filterMap_client?_course (p : Plan) : p.course.filterMap Step.client? = p.clients := by
  rw [Plan.course_eq]
  unfold Plan.preparation Plan.nodeStoppingSteps
  cases p.node <;>
    simp [List.filterMap_cons, filterMap_client?_upToScenario, filterMap_adminSteps,
      Step.client?]

/-! ## The admin commands of a course -/

/-- The admin command that a step carries out. -/
def Step.request? : Step → Option Admin.Operation
  | .admin command => some command
  | _ => none

/-- Nothing is asked of the admin tool while the cluster comes up. -/
theorem filterMap_request?_openingSteps (p : Plan) :
    p.openingSteps.filterMap Step.request? = [] := by
  unfold Plan.openingSteps
  cases p.node <;> simp [List.filterMap_cons, Step.request?]

/-- Up to the scenario the admin tool is asked to provision the cluster. -/
theorem filterMap_request?_upToScenario (p : Plan) :
    p.upToScenario.filterMap Step.request? = p.provision.map (·.resolve p.testDir) := by
  unfold Plan.upToScenario Plan.scenarioSteps
  simp [List.filterMap_cons, filterMap_request?_openingSteps, filterMap_adminSteps,
    Step.request?, Function.comp_def]

/-- The last command shuts the registry down. -/
theorem requests_eq (p : Plan) :
    p.requests = p.preparation.filterMap Step.request? ++ [.shutdown] := by
  unfold Plan.requests Plan.preparation Plan.nodeStoppingSteps
  cases p.node <;>
    simp [List.filterMap_cons, filterMap_request?_upToScenario, filterMap_adminSteps,
      Step.request?]

/-- In the whole course the admin tool is asked what the plan requests, in its order. -/
theorem filterMap_request?_course (p : Plan) :
    p.course.filterMap Step.request? = p.requests := by
  rw [Plan.course_eq, List.filterMap_append, requests_eq]
  rfl

end Fixture
end ClusterHarness
