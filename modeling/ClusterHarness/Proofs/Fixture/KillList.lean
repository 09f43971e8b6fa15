import ClusterHarness.Proofs.Fixture.Course
import ClusterHarness.Proofs.Fixture.Trail
import Mathlib.Data.List.Perm.Basic

/-!
# The kill list of a run

The processes that a run has launched in the background are those that it has reaped and those on
its kill list. Each step is one of three: it launches a process, it reaps one, or it leaves the
list as it is. The processes of one kind are reaped in the order in which they were launched.
-/

namespace ClusterHarness.Fixture

variable {σ α : Type}

/-- The kind and the label of a process. -/
def Identity.service (x : Identity) : ServiceRole × String := (x.kind, x.label)

namespace Progress

/-- The kill list, as far as it tells its processes apart. -/
def killList (p : Progress σ) : List Identity := p.background.map Service.identity

/-- Every process on the kill list was started. -/
def AllStarted (p : Progress σ) : Prop := ∀ x ∈ p.killList, x.child.isSome

/-- At the start of a run nothing is on the kill list that was not started. -/
theorem allStarted_start (s : σ) : AllStarted { world := s } := by
  simp [AllStarted, killList]

/-- The end of no process on the kill list was noticed yet. -/
def NoneEnded (p : Progress σ) : Prop :=
  ∀ service ∈ p.background, service.process.exitCode = none

/-- At the start of a run nothing is on the kill list that has ended. -/
theorem noneEnded_start (s : σ) : NoneEnded { world := s } :=
  fun _ h ↦ absurd h List.not_mem_nil

/-- The process that a step takes off the kill list, to wait for its end. -/
def reapedBy (p : Progress σ) : Step → Option Identity
  | .reap kind =>
    (p.background.find? (·.kind == kind)).bind fun service ↦
      service.process.child.map fun _ ↦ service.identity
  | _ => none

/-- Every process of a kind that is to be reaped was started. -/
theorem AllStarted.exists_child {p : Progress σ} (hp : p.AllStarted) {kind : ServiceRole}
    {service : Service} (hf : p.background.find? (·.kind == kind) = some service) :
    ∃ child, service.process.child = some child :=
  Option.isSome_iff_exists.mp
    (hp service.identity (List.mem_map_of_mem (List.mem_of_find?_eq_some hf)))

end Progress

/-- The processes reaped so far. -/
def reapedIn (past : List (Moment σ)) : List Identity :=
  past.filterMap fun m ↦ m.found.reapedBy m.step

/-- An operation on the world alone leaves the kill list as it is. -/
theorem Run.OnlyWorld.killList_eq {x : Run σ α} (hx : OnlyWorld x) (p : Progress σ) :
    (x.run p).2.killList = p.killList := by
  obtain ⟨world, hq⟩ := hx p
  rw [hq]
  rfl

/-- An operation on the world alone ends nothing that is on the kill list. -/
theorem Run.OnlyWorld.noneEnded {x : Run σ α} (hx : OnlyWorld x) {p : Progress σ}
    (hp : p.NoneEnded) : (x.run p).2.NoneEnded := by
  obtain ⟨world, hq⟩ := hx p
  rw [hq]
  exact hp

/-- What one step does to a kill list: which process it launches, and which it reaps. -/
inductive Turnover (before after : List Identity) : Option Identity → Option Identity → Prop
  | keep : after = before → Turnover before after none none
  | launch (x : Identity) : after = before ++ [x] → Turnover before after (some x) none
  | reap (x : Identity) (front rest : List Identity) :
    before = front ++ x :: rest → after = front ++ rest → (∀ y ∈ front, y.kind ≠ x.kind) →
      Turnover before after none (some x)

namespace Setup

variable (c : Setup σ)

/-- The process that a step launches in the background, whether it comes up or not. -/
def launchedBy (p : Progress σ) : Step → Option Identity
  | .start kind command _ => some (c.launchIdentity kind kind.name command p.world)
  | .server step =>
    match c.plan.scenarioLine (c.host.isFile · p.world) step.command with
    | .ok command => some (c.launchIdentity .server step.label command p.world)
    | .error _ => none
  | _ => none

/-- The processes launched in the background so far, in the order of launch. -/
def launchedIn (past : List (Moment σ)) : List Identity :=
  past.filterMap fun m ↦ c.launchedBy m.found m.step

variable {c}

/-! ## One step -/

/-- A process on the kill list is reaped with the status that it ends with. -/
theorem reapProcess_of_find? {p : Progress σ} (hp : p.AllStarted) (hnew : p.NoneEnded)
    {kind : ServiceRole} {service : Service}
    (hf : p.background.find? (·.kind == kind) = some service) :
    ∃ child, service.process.child = some child ∧
      (c.reapProcess service p.world).1 = .ok (c.reapEnding service child p.world).exitCode := by
  obtain ⟨child, hchild⟩ := hp.exists_child hf
  have hmem := List.mem_of_find?_eq_some hf
  exact ⟨child, hchild, c.reapProcess_eq hchild (hnew service hmem) p.world⟩

/-- The first process of a kind is taken out of the kill list. -/
private theorem turnover_of_find? {p q : Progress σ} {kind : ServiceRole} {service : Service}
    (hf : p.background.find? (·.kind == kind) = some service)
    (hq : q.background = p.background.eraseP (·.kind == kind)) :
    Turnover p.killList q.killList none (some service.identity) := by
  obtain ⟨hkind, front, rest, hp, hfront⟩ := List.find?_eq_some_iff_append.mp hf
  have hnot : ∀ s ∈ front, ¬ (s.kind == kind) = true := by simpa using hfront
  have hhead : (service :: rest).eraseP (·.kind == kind) = rest := List.eraseP_cons_of_pos hkind
  rw [hp, List.eraseP_append_right _ hnot, hhead] at hq
  refine .reap _ (front.map Service.identity) (rest.map Service.identity) ?_ ?_ ?_
  · simp [Progress.killList, hp]
  · simp [Progress.killList, hq]
  · intro y hy
    obtain ⟨s, hs, rfl⟩ := List.mem_map.mp hy
    have hk : service.kind = kind := by simpa using hkind
    have := hnot s hs
    simpa [Service.identity, hk] using this

/-- A step adds to the kill list what it launches and takes from it what it reaps. -/
theorem turnover_take (step : Step) {p : Progress σ} (hp : p.AllStarted) :
    Turnover p.killList ((c.take step).run p).2.killList (c.launchedBy p step)
      (p.reapedBy step) := by
  cases step with
  | clean => exact .keep ((Run.onlyWorld_tryOnWorld _).killList_eq p)
  | enter stage => exact .keep rfl
  | admin command => exact .keep ((c.onlyWorld_carryOut command).killList_eq p)
  | client step =>
    refine .keep ?_
    show ((c.runClient step).run p).2.killList = _
    rw [run_runClient]
    exact (c.onlyWorld_clientStatus step).killList_eq p
  | start kind command contract =>
    obtain ⟨service, world, hq, hid, -⟩ := c.run_bringUp kind kind.name command contract p
    refine .launch _ ?_
    show ((c.bringUp kind kind.name command contract).run p).2.killList = _
    rw [hq]
    simp [Progress.killList, hid]
  | server step =>
    show Turnover _ ((c.startServer step).run p).2.killList _ none
    rw [run_startServer]
    unfold launchedBy
    dsimp only
    cases c.plan.scenarioLine (c.host.isFile · p.world) step.command with
    | error e => exact .keep rfl
    | ok command =>
      obtain ⟨service, world, hq, hid, -⟩ :=
        c.run_bringUp .server step.label command step.readiness p
      refine .launch _ ?_
      rw [hq]
      simp [Progress.killList, hid]
  | reap kind =>
    show Turnover _ ((c.reapFirst kind).run p).2.killList none _
    rw [run_reapFirst]
    unfold Progress.reapedBy
    dsimp only
    cases hf : p.background.find? (·.kind == kind) with
    | none => exact .keep rfl
    | some service =>
      obtain ⟨child, hchild⟩ := hp.exists_child hf
      rw [Option.bind_some, hchild, Option.map_some]
      exact turnover_of_find? hf rfl

/-- A process that is launched by a step that succeeds was started. -/
theorem isSome_child_of_launchedBy {step : Step} {p q : Progress σ} {x : Identity}
    (hs : (c.take step).run p = (.ok (), q)) (hx : c.launchedBy p step = some x) :
    x.child.isSome := by
  have hup {kind label command contract}
      (hb : ((c.bringUp kind label command contract).run p).1 = .ok ()) :
      (c.launchIdentity kind label command p.world).child.isSome := by
    obtain ⟨_, _, -, -, hiff⟩ := c.run_bringUp kind label command contract p
    obtain ⟨child, _, _, _, hchild, -⟩ := hiff.mp hb
    exact Option.isSome_iff_exists.mpr ⟨child, hchild⟩
  cases step with
  | start kind command contract =>
    cases hx
    exact hup (congrArg Prod.fst hs)
  | server step =>
    replace hs : (c.startServer step).run p = _ := hs
    rw [run_startServer] at hs
    unfold launchedBy at hx
    dsimp only at hx
    split at hx
    · next command hline =>
      rw [hline] at hs
      cases hx
      exact hup (congrArg Prod.fst hs)
    · cases hx
  | _ => cases hx

/-- A step that succeeds leaves only started processes on the kill list. -/
theorem allStarted_take {step : Step} {p q : Progress σ} (hp : p.AllStarted)
    (hs : (c.take step).run p = (.ok (), q)) : q.AllStarted := by
  have ht := turnover_take (c := c) step hp
  rw [hs] at ht
  unfold Progress.AllStarted
  generalize hl : c.launchedBy p step = launched at ht
  generalize p.reapedBy step = reaped at ht
  cases ht with
  | keep hq =>
    rw [hq]
    exact hp
  | launch x hq =>
    rw [hq]
    exact List.forall_mem_append.mpr ⟨hp, by simpa using isSome_child_of_launchedBy hs hl⟩
  | reap x front rest hb hq _ =>
    rw [hq]
    intro y hy
    refine hp y ?_
    rw [hb]
    exact List.mem_append.mpr ((List.mem_append.mp hy).imp_right (List.mem_cons_of_mem x))

end Setup

/-! ## A whole run -/

/-- The books on the processes in the background: those of a kind were reaped in the order of
their launch, and the kill list holds the others, in the same order. -/
structure Accounted (launched reaped killList : List Identity) : Prop where
  killList_eq : killList = launched.diff reaped
  settled (kind : ServiceRole) : launched.filter (·.kind == kind) =
    reaped.filter (·.kind == kind) ++ killList.filter (·.kind == kind)

namespace Accounted

variable {launched reaped before after : List Identity}

/-- What was launched was reaped or is on the kill list. -/
theorem perm (h : Accounted launched reaped before) : launched.Perm (reaped ++ before) := by
  rw [List.perm_iff_count]
  intro x
  have hcount (l : List Identity) : l.count x = (l.filter (·.kind == x.kind)).count x :=
    (List.count_filter (by simp)).symm
  rw [List.count_append, hcount launched, hcount reaped, hcount before, h.settled x.kind,
    List.count_append]

/-- What was taken from the front part of a list is taken from the whole. -/
private theorem append_diff_of_perm {l taken rest more : List Identity}
    (h : l.Perm (taken ++ rest)) : (l ++ more).diff taken = l.diff taken ++ more := by
  induction taken generalizing l with
  | nil => rfl
  | cons a taken ih =>
    have ha : a ∈ l := h.symm.subset (by simp)
    have hrest : (l.erase a).Perm (taken ++ rest) := by
      have he := h.erase a
      rwa [List.cons_append, List.erase_cons_head] at he
    rw [List.diff_cons, List.diff_cons, List.erase_append_left _ ha, ih hrest]

/-- Every step keeps the books. -/
theorem turnover (h : Accounted launched reaped before) {x y : Option Identity}
    (ht : Turnover before after x y) :
    Accounted (launched ++ x.toList) (reaped ++ y.toList) after := by
  cases ht with
  | keep hq =>
    rw [hq]
    simpa using h
  | launch x hq =>
    simp only [Option.toList_some, Option.toList_none, List.append_nil]
    refine ⟨?_, fun kind ↦ ?_⟩
    · rw [append_diff_of_perm h.perm, hq, h.killList_eq]
    · rw [List.filter_append, h.settled kind, hq, List.filter_append, List.append_assoc]
  | reap x front rest hb hq hfirst =>
    simp only [Option.toList_some, Option.toList_none, List.append_nil]
    have hnot : x ∉ front := fun hx ↦ hfirst x hx rfl
    refine ⟨?_, fun kind ↦ ?_⟩
    · rw [List.diff_append, ← h.killList_eq, hb, hq, List.diff_cons, List.diff_nil,
        List.erase_append_right _ hnot, List.erase_cons_head]
    · rw [h.settled kind, hb, hq]
      by_cases hk : x.kind = kind
      · have hnone : front.filter (·.kind == kind) = [] := by
          rw [List.filter_eq_nil_iff]
          intro y hy
          simpa [hk] using hfirst y hy
        simp [List.filter_append, hnone, hk]
      · simp [List.filter_append, hk]

end Accounted

namespace Setup

variable {c : Setup σ} {p q : Progress σ} {past : List (Moment σ)}

private theorem launchedIn_append_singleton (past : List (Moment σ)) (m : Moment σ) :
    c.launchedIn (past ++ [m]) = c.launchedIn past ++ (c.launchedBy m.found m.step).toList := by
  unfold launchedIn
  rw [List.filterMap_append]
  cases h : c.launchedBy m.found m.step <;> simp [h]

private theorem reapedIn_append_singleton (past : List (Moment σ)) (m : Moment σ) :
    reapedIn (past ++ [m]) = reapedIn past ++ (m.found.reapedBy m.step).toList := by
  unfold reapedIn
  rw [List.filterMap_append]
  cases h : m.found.reapedBy m.step <;> simp [h]

/-- As long as steps succeed, everything on the kill list was started. -/
theorem Leads.allStarted (h : c.Leads p past q) (hp : p.AllStarted)
    (hok : ∀ m ∈ past, m.outcome = .ok ()) : q.AllStarted :=
  h.induction_ok (motive := fun _ q ↦ q.AllStarted) hok hp
    fun _ _ hs ih ↦ allStarted_take ih hs

/-- Books that are right are right at every later point of a run. -/
theorem Leads.accounted_append (h : c.Leads p past q) (hp : p.AllStarted)
    {launched reaped : List Identity} (hbooks : Accounted launched reaped p.killList) :
    Accounted (launched ++ c.launchedIn past) (reaped ++ reapedIn past) q.killList := by
  induction h with
  | start => simpa [launchedIn, reapedIn] using hbooks
  | @next past q q' step r hpast hok hs ih =>
    have ht := turnover_take (c := c) step (hpast.allStarted hp hok)
    rw [hs] at ht
    rw [launchedIn_append_singleton, reapedIn_append_singleton, ← List.append_assoc,
      ← List.append_assoc]
    exact ih.turnover ht

/-- At every point of a run the books are right. -/
theorem Leads.accounted (h : c.Leads p past q) (hp : p.background = []) :
    Accounted (c.launchedIn past) (reapedIn past) q.killList := by
  have hempty : p.killList = [] := by simp [Progress.killList, hp]
  have hbooks : Accounted [] [] p.killList := by
    rw [hempty]
    exact ⟨rfl, fun _ ↦ rfl⟩
  exact h.accounted_append (by simp [Progress.AllStarted, hempty]) hbooks

/-! ## Which processes are launched -/

private theorem service?_of_launchedBy {step : Step} {x : Identity}
    (hx : c.launchedBy p step = some x) : step.service? = some x.service := by
  cases step with
  | start kind command contract =>
    cases hx
    rfl
  | server step =>
    unfold launchedBy at hx
    dsimp only at hx
    split at hx <;> cases hx
    rfl
  | _ => cases hx

/-- A step that succeeds has launched what it starts. -/
theorem map_service_launchedBy {step : Step} (hs : (c.take step).run p = (.ok (), q)) :
    (c.launchedBy p step).map Identity.service = step.service? := by
  cases step with
  | server step =>
    replace hs : (c.startServer step).run p = _ := hs
    rw [run_startServer] at hs
    unfold launchedBy
    dsimp only
    cases hline : c.plan.scenarioLine (c.host.isFile · p.world) step.command with
    | error e =>
      rw [hline] at hs
      cases hs
    | ok command => rfl
  | _ => rfl

/-- Steps that all succeed launch what they start, in their order. -/
theorem Leads.map_service_launchedIn (h : c.Leads p past q)
    (hok : ∀ m ∈ past, m.outcome = .ok ()) :
    (c.launchedIn past).map Identity.service =
      (past.map (·.step)).filterMap Step.service? := by
  refine h.induction_ok (motive := fun past _ ↦ (c.launchedIn past).map Identity.service =
    (past.map (·.step)).filterMap Step.service?) hok rfl ?_
  intro past q step q' _ _ hs ih
  rw [launchedIn_append_singleton, List.map_append, ih, List.map_append, List.filterMap_append,
    ← Option.toList_map, map_service_launchedBy hs]
  cases hx : step.service? <;> simp [hx]

/-- Processes are launched in the order of the steps that start them, none left out. -/
theorem Leads.launchedIn_prefix (h : c.Leads p past q) :
    (c.launchedIn past).map Identity.service <+:
      (past.map (·.step)).filterMap Step.service? := by
  cases h with
  | start => exact List.prefix_rfl
  | @next past q _ step _ hpast hok _ =>
    rw [launchedIn_append_singleton, List.map_append, hpast.map_service_launchedIn hok,
      List.map_append, List.filterMap_append, List.prefix_append_right_inj]
    cases hx : c.launchedBy q step with
    | none => exact List.nil_prefix
    | some x => simp [service?_of_launchedBy hx]

/-! ## A run that succeeds -/

private theorem background_reapFirst (kind : ServiceRole) (p : Progress σ) :
    ((c.reapFirst kind).run p).2.background = p.background.eraseP (·.kind == kind) := by
  rw [run_reapFirst]
  split
  · next hf => exact (List.eraseP_of_forall_not (List.find?_eq_none.mp hf)).symm
  · rfl

/-- The kinds of the processes in the background change as the step says. -/
theorem kinds_take {step : Step} (hp : p.AllStarted) (hs : (c.take step).run p = (.ok (), q)) :
    q.killList.map (·.kind) = step.running (p.killList.map (·.kind)) := by
  have ht := turnover_take (c := c) step hp
  have hx := map_service_launchedBy hs
  rw [hs] at ht
  dsimp only at ht
  cases step with
  | reap kind =>
    have hq : q.background = p.background.eraseP (·.kind == kind) := by
      rw [← background_reapFirst (c := c)]
      exact congrArg (·.2.background) hs.symm
    have hkinds (l : List Service) : (l.map Service.identity).map (·.kind) = l.map (·.kind) := by
      simp [Service.identity]
    unfold Progress.killList Step.running
    rw [hkinds, hkinds, hq]
    dsimp only
    rw [List.erase_eq_eraseP', List.eraseP_map]
    rfl
  | start kind command contract =>
    cases ht with
    | launch _ hq => simp [hq, Step.running, launchIdentity]
  | server step =>
    generalize c.launchedBy p (.server step) = launched at ht hx
    cases ht with
    | keep => cases hx
    | launch x hq =>
      have hkind : x.kind = .server := congrArg Prod.fst (Option.some.inj hx)
      simp [hq, Step.running, hkind]
  | _ =>
    cases ht with
    | keep hq =>
      rw [hq]
      rfl

/-- As long as steps succeed, the kinds on the kill list are those that they leave running. -/
theorem Leads.kinds (h : c.Leads p past q) (hp : p.AllStarted)
    (hok : ∀ m ∈ past, m.outcome = .ok ()) :
    q.killList.map (·.kind) =
      (past.map (·.step)).foldl Step.running (p.killList.map (·.kind)) := by
  refine h.induction_ok (motive := fun past q ↦ q.killList.map (·.kind) =
    (past.map (·.step)).foldl Step.running (p.killList.map (·.kind))) hok rfl ?_
  intro past q step q' hpast hok hs ih
  rw [kinds_take (hpast.allStarted hp hok) hs, ih, List.map_append, List.foldl_append]
  rfl

/-! ## Ends that are noticed -/

private theorem noneEnded_bringUp (hp : p.NoneEnded) (kind : ServiceRole) (label : String)
    (command : CommandLine) (contract : Readiness) :
    ((c.bringUp kind label command contract).run p).2.NoneEnded := by
  obtain ⟨service, world, hrun, -, hnew⟩ := c.run_bringUp_eq kind label command contract p
  rw [hrun]
  exact List.forall_mem_append.mpr ⟨hp, by simpa using hnew⟩

/-- A process that is waited for leaves the kill list, so that no end is noticed of those on it. -/
theorem noneEnded_take (step : Step) (hp : p.NoneEnded) :
    ((c.take step).run p).2.NoneEnded := by
  cases step with
  | clean => exact (Run.onlyWorld_tryOnWorld _).noneEnded hp
  | enter stage => exact hp
  | admin command => exact (c.onlyWorld_carryOut command).noneEnded hp
  | start kind command contract => exact noneEnded_bringUp hp kind kind.name command contract
  | client step =>
    show ((c.runClient step).run p).2.NoneEnded
    rw [run_runClient]
    exact (c.onlyWorld_clientStatus step).noneEnded hp
  | server step =>
    show ((c.startServer step).run p).2.NoneEnded
    rw [run_startServer]
    split
    · exact noneEnded_bringUp hp .server step.label _ step.readiness
    · exact hp
  | reap kind =>
    intro service hservice
    have hleft : ((c.take (.reap kind)).run p).2.background =
        p.background.eraseP (·.kind == kind) := background_reapFirst kind p
    rw [hleft] at hservice
    exact hp service (List.mem_of_mem_eraseP hservice)

/-- Nothing that ends stays on the kill list. -/
theorem Leads.noneEnded (h : c.Leads p past q) (hp : p.NoneEnded) : q.NoneEnded := by
  induction h with
  | start => exact hp
  | next _ _ hs ih =>
    have hq := congrArg Prod.snd hs
    dsimp only at hq
    exact hq ▸ noneEnded_take _ ih

/-- No step of a trail finds anything on the kill list that has ended. -/
theorem noneEnded_of_mem_trail {steps : List Step} {m : Moment σ} (hp : p.NoneEnded)
    (hm : m ∈ c.trail steps p) : m.found.NoneEnded := by
  obtain ⟨earlier, hleads, -⟩ := (leads_of_prefix_trail List.prefix_rfl).1.exists_of_mem hm
  exact hleads.noneEnded hp

/-- Every moment finds processes on the kill list that were started and not seen to end. -/
theorem Leads.found (h : c.Leads p past q) (hp : p.AllStarted) (hnew : p.NoneEnded) {m : Moment σ}
    (hm : m ∈ past) : m.found.AllStarted ∧ m.found.NoneEnded := by
  obtain ⟨earlier, hleads, hok⟩ := h.exists_of_mem hm
  exact ⟨hleads.allStarted hp hok, hleads.noneEnded hnew⟩

/-- Every step of a run finds only processes on the kill list that were started and run. -/
theorem found_of_mem_moments {s : σ} {m : Moment σ} (hm : m ∈ c.moments s) :
    m.found.AllStarted ∧ m.found.NoneEnded :=
  (leads_of_prefix_trail List.prefix_rfl).1.found (Progress.allStarted_start s)
    (Progress.noneEnded_start s) hm

/-! ## The end of a run -/

/-- Killing processes gives their labels in the order given. -/
theorem killAll_labels (services : List Service) (s : σ) :
    (c.killAll services s).1 = services.map (·.process.label) := by
  induction services generalizing s with
  | nil => rfl
  | cons service services ih =>
    unfold killAll
    dsimp only
    rw [ih, Subprocess.kill_label]
    rfl

/-- Everything on the kill list is killed, the last launched first. -/
theorem killBackground_labels (p : Progress σ) :
    (c.killBackground p).1 = (p.killList.map (·.label)).reverse := by
  unfold killBackground
  dsimp only
  rw [killAll_labels, List.map_reverse]
  simp [Progress.killList, Service.identity]

/-- A run that succeeds leaves nothing on the kill list. -/
theorem killList_of_attempt_eq_ok {s : σ} (h : (c.attempt.run { world := s }).1 = .ok ()) :
    (c.attempt.run { world := s }).2.killList = [] := by
  obtain ⟨hsteps, hok⟩ := trail_of_follow_eq_ok h
  have hleads := (leads_of_prefix_trail (List.prefix_refl (c.moments s))).1
  have hkinds := hleads.kinds (Progress.allStarted_start s) hok
  rw [moments, hsteps] at hkinds
  rw [after_moments]
  exact List.map_eq_nil_iff.mp (hkinds.trans (foldl_running_course c.plan))

/-- A run that succeeds kills nothing. -/
theorem killed_of_attempt_eq_ok {s : σ} (h : (c.attempt.run { world := s }).1 = .ok ()) :
    (c.run s).1.killed = [] := by
  unfold run
  split
  · rfl
  · next e p hrun =>
    rw [hrun] at h
    cases h

/-- A run that fails kills what is on its kill list, the last first. -/
theorem killed_of_attempt_eq_error {s : σ} {e : Failure}
    (h : (c.attempt.run { world := s }).1 = .error e) :
    (c.run s).1.killed = ((c.attempt.run { world := s }).2.killList.map (·.label)).reverse := by
  unfold run
  split
  · next p hrun =>
    rw [hrun] at h
    cases h
  · next e' p hrun =>
    rw [hrun]
    exact killBackground_labels p

end Setup
end ClusterHarness.Fixture
