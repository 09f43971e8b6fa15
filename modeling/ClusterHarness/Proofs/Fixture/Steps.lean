import ClusterHarness.Fixture.Run
import ClusterHarness.Proofs.Subprocess.Ending
import ClusterHarness.Proofs.Subprocess.Handshake

/-!
# What one step of a run does

One lemma for each operation says what it answers and how it changes the progress of the run.
Later modules argue from these and do not look into the operations again.
-/

namespace ClusterHarness.Fixture

variable {σ α β : Type}

/-! ## Operations of a run -/

namespace Run

/-- What comes after an operation begins where that has succeeded. -/
theorem run_bind (x : Run σ α) (f : α → Run σ β) (p : Progress σ) :
    (x >>= f).run p =
      match x.run p with
      | (.ok a, q) => (f a).run q
      | (.error e, q) => (.error e, q) := by
  show (ExceptT.bindCont f (x p).1 (x p).2) = _
  unfold ExceptT.run
  cases x p with
  | mk r q => cases r <;> rfl

/-- An operation on the world always succeeds. -/
theorem run_onWorld (f : σ → α × σ) (p : Progress σ) :
    (onWorld f).run p = (.ok (f p.world).1, { p with world := (f p.world).2 }) := rfl

/-- An operation on the world that may fail keeps what it did to the world. -/
theorem run_tryOnWorld (f : σ → Except Failure α × σ) (p : Progress σ) :
    (tryOnWorld f).run p = ((f p.world).1, { p with world := (f p.world).2 }) := by
  unfold tryOnWorld
  rw [run_bind, run_onWorld]
  cases (f p.world).1 <;> rfl

private theorem run_release (kind : ServiceRole) (p : Progress σ) :
    (release kind).run p =
      (.ok (p.background.find? (·.kind == kind)),
        { p with background := p.background.eraseP (·.kind == kind) }) := by
  unfold release
  rw [run_bind]
  have hget : (get : Run σ (Progress σ)).run p = (.ok p, p) := rfl
  rw [hget]
  dsimp only
  cases hf : p.background.find? (·.kind == kind) with
  | none =>
    have hn : p.background.eraseP (·.kind == kind) = p.background :=
      List.eraseP_of_forall_not (List.find?_eq_none.mp hf)
    rw [hn]
    rfl
  | some service => rfl

/-- An operation that changes nothing but the world. -/
def OnlyWorld (x : Run σ α) : Prop := ∀ p, ∃ world, (x.run p).2 = { p with world }

private theorem onlyWorld_pure (a : α) : OnlyWorld (pure a : Run σ α) := fun p ↦ ⟨p.world, rfl⟩

private theorem onlyWorld_onWorld (f : σ → α × σ) :
    OnlyWorld (onWorld f) := fun p ↦ ⟨(f p.world).2, rfl⟩

/-- An operation on the world changes nothing else. -/
theorem onlyWorld_tryOnWorld (f : σ → Except Failure α × σ) : OnlyWorld (tryOnWorld f) :=
  fun p ↦ ⟨(f p.world).2, by rw [run_tryOnWorld]⟩

/-- Operations that change the world alone may follow each other. -/
theorem OnlyWorld.bind {x : Run σ α} {f : α → Run σ β} (hx : OnlyWorld x)
    (hf : ∀ a, OnlyWorld (f a)) : OnlyWorld (x >>= f) := by
  intro p
  obtain ⟨world, hq⟩ := hx p
  rw [run_bind]
  cases hr : x.run p with
  | mk r q =>
    rw [hr] at hq
    dsimp only at hq
    subst hq
    cases r with
    | error e => exact ⟨world, rfl⟩
    | ok a => exact hf a _

end Run

namespace Setup

variable (c : Setup σ)

/-! ## Bringing up a service -/

/-- A process that is launched here prints the lines of its contract, each in time. -/
def CameUp (label : String) (command : CommandLine) (contract : Readiness) (s : σ) : Prop :=
  ∃ child pid lines t, (Subprocess.launch c.host c.site label command s).1.child = some child ∧
    (Subprocess.launch c.host c.site label command s).1.Reads c.host c.plan.harness.lineTimeout
      (Subprocess.launch c.host c.site label command s).2 lines t ∧
    contract.Accepts pid lines

/-- The lines of the contract are printed exactly if the handshake with the launched process
succeeds. -/
theorem cameUp_iff {label : String} {command : CommandLine} {contract : Readiness} {s t : σ}
    {process : Subprocess} (hl : Subprocess.launch c.host c.site label command s = (process, t)) :
    c.CameUp label command contract s ↔
      ∃ pid, (process.handshake c.host c.plan.harness.lineTimeout contract t).1 = .ok pid := by
  unfold CameUp
  rw [hl]
  constructor
  · rintro ⟨child, pid, lines, u, -, hreads, haccepts⟩
    have hok := Subprocess.handshake_eq_ok_iff.mpr ⟨rfl, lines, hreads, haccepts⟩
    exact ⟨pid, by rw [hok]⟩
  · rintro ⟨pid, hok⟩
    cases hh : process.handshake c.host c.plan.harness.lineTimeout contract t with
    | mk r x =>
    rw [hh] at hok
    dsimp only at hok
    subst hok
    obtain ⟨child, hsource⟩ := Subprocess.source?_of_handshake_eq_ok hh
    obtain ⟨-, lines, hreads, haccepts⟩ := Subprocess.handshake_eq_ok_iff.mp hh
    exact ⟨child, pid, lines, x.2, Subprocess.child_of_source? hsource, hreads, haccepts⟩

end Setup

/-- What tells a background process from the others. -/
structure Identity where
  kind : ServiceRole
  label : String
  child : Option Child
deriving DecidableEq, Repr

def Service.identity (service : Service) : Identity where
  kind := service.kind
  label := service.process.label
  child := service.process.child

/-- A service whose handshake is done: its child was not seen to end, and the output of that is
drained. -/
structure Service.Drains (service : Service) (child : Child) : Prop where
  child : service.process.child = some child
  notEnded : service.process.exitCode = none
  drained : service.drained = true

namespace Setup

variable (c : Setup σ)

/-- The process that a launch gives. -/
def launchIdentity (kind : ServiceRole) (label : String) (command : CommandLine) (s : σ) :
    Identity where
  kind
  label
  child := (Subprocess.launch c.host c.site label command s).1.child

/-- What the handshake with a process that is launched here comes to. -/
def handshakeOf (label : String) (command : CommandLine) (contract : Readiness) (s : σ) :
    Except Failure Nat :=
  ((Subprocess.launch c.host c.site label command s).1.handshake c.host c.plan.harness.lineTimeout
    contract (Subprocess.launch c.host c.site label command s).2).1

/-- A service that is brought up goes to the end of the kill list in any case, and nothing is known
of its end. Only the handshake decides whether it is brought up. -/
theorem run_bringUp_eq (kind : ServiceRole) (label : String) (command : CommandLine)
    (contract : Readiness) (p : Progress σ) :
    ∃ service world, (c.bringUp kind label command contract).run p =
        ((c.handshakeOf label command contract p.world).map fun _ ↦ (),
          { p with world, background := p.background ++ [service] }) ∧
      service.identity = c.launchIdentity kind label command p.world ∧
      service.process.exitCode = none := by
  have hlabel := Subprocess.launch_label c.host c.site label command p.world
  have hcases := Subprocess.launch_cases c.host c.site label command p.world
  unfold launchIdentity handshakeOf
  cases hl : Subprocess.launch c.host c.site label command p.world with
  | mk process s =>
  rw [hl] at hlabel hcases
  dsimp only at hlabel hcases
  have hnew : process.exitCode = none := by
    obtain ⟨_, rfl⟩ | ⟨_, rfl⟩ := hcases <;> rfl
  subst hlabel
  unfold bringUp
  rw [Run.run_bind, Run.run_onWorld, hl]
  dsimp only
  rw [Run.run_bind, Run.run_onWorld]
  have hpid := Subprocess.handshake_fst c.host c.plan.harness.lineTimeout contract process s
  generalize (Subprocess.pidIn? _).or _ = pid at hpid
  cases hh : process.handshake c.host c.plan.harness.lineTimeout contract s with
  | mk r x =>
  obtain ⟨shaken, t⟩ := x
  rw [hh] at hpid
  dsimp only at hpid ⊢
  subst hpid
  cases r with
  | error e => exact ⟨⟨kind, { process with discoveredPid := pid }, false⟩, t, rfl, rfl, hnew⟩
  | ok n =>
    cases hc : process.child with
    | none =>
      refine ⟨⟨kind, { process with discoveredPid := pid }, false⟩, t, ?_, ?_, hnew⟩
      · rw [hc]
        rfl
      · simp [Service.identity, hc]
    | some child =>
      refine ⟨⟨kind, { process with discoveredPid := pid }.takeOutput, true⟩,
        c.host.drainOutput child process.label t, ?_, ?_, hnew⟩
      · rw [hc]
        rfl
      · simp [Service.identity, Subprocess.takeOutput, hc]

/-- A service is brought up exactly if it has printed the lines of its contract. -/
theorem run_bringUp (kind : ServiceRole) (label : String) (command : CommandLine)
    (contract : Readiness) (p : Progress σ) :
    ∃ service world, ((c.bringUp kind label command contract).run p).2 =
        { p with world, background := p.background ++ [service] } ∧
      service.identity = c.launchIdentity kind label command p.world ∧
      (((c.bringUp kind label command contract).run p).1 = .ok () ↔
        c.CameUp label command contract p.world) := by
  obtain ⟨service, world, hrun, hid, -⟩ := c.run_bringUp_eq kind label command contract p
  refine ⟨service, world, by rw [hrun], hid, ?_⟩
  rw [hrun, c.cameUp_iff rfl]
  show (c.handshakeOf label command contract p.world).map _ = _ ↔
    ∃ pid, c.handshakeOf label command contract p.world = .ok pid
  cases c.handshakeOf label command contract p.world <;> simp [Except.map]

/-- A service that came up has printed the lines of its contract, and its output is drained from
there on. -/
theorem drained_of_bringUp_eq_ok {c : Setup σ} {kind : ServiceRole} {label : String}
    {command : CommandLine} {contract : Readiness} {p q : Progress σ}
    (h : (c.bringUp kind label command contract).run p = (.ok (), q)) :
    ∃ child pid lines t,
      (Subprocess.launch c.host c.site label command p.world).1.Reads c.host
        c.plan.harness.lineTimeout (Subprocess.launch c.host c.site label command p.world).2
        lines t ∧
      contract.Accepts pid lines ∧ q.world = c.host.drainOutput child label t ∧
      ∃ service, q.background = p.background ++ [service] ∧ service.kind = kind ∧
        service.Drains child := by
  unfold bringUp at h
  rw [Run.run_bind, Run.run_onWorld] at h
  cases hl : Subprocess.launch c.host c.site label command p.world with
  | mk process s =>
  rw [hl] at h
  dsimp only at h
  rw [Run.run_bind, Run.run_onWorld] at h
  cases hh : process.handshake c.host c.plan.harness.lineTimeout contract s with
  | mk r x =>
  obtain ⟨shaken, t⟩ := x
  rw [hh] at h
  dsimp only at h
  cases r with
  | error e =>
    have hfailed : Except.error e = Except.ok () := congrArg Prod.fst h
    cases hfailed
  | ok n =>
    obtain ⟨child, hsource⟩ := Subprocess.source?_of_handshake_eq_ok hh
    have hchild := Subprocess.child_of_source? hsource
    obtain ⟨rfl, lines, hreads, haccepts⟩ := Subprocess.handshake_eq_ok_iff.mp hh
    have hnew : process.exitCode = none := by
      have hcases := Subprocess.launch_cases c.host c.site label command p.world
      rw [hl] at hcases
      obtain ⟨_, rfl⟩ | ⟨_, rfl⟩ := hcases <;> rfl
    rw [hchild] at h
    exact ⟨child, n, lines, t, hreads, haccepts, (congrArg (·.2.world) h).symm, _,
      (congrArg (·.2.background) h).symm, rfl, rfl, hnew, rfl⟩

/-- Reading the command of a step changes nothing. -/
theorem run_stepLine (template : String) (p : Progress σ) :
    (c.stepLine template).run p =
      (c.plan.scenarioLine (c.host.isFile · p.world) template, p) := by
  unfold stepLine
  rw [Run.run_tryOnWorld]

/-- A server is brought up if its command can be read. -/
theorem run_startServer (step : ServerPlan) (p : Progress σ) :
    (c.startServer step).run p =
      match c.plan.scenarioLine (c.host.isFile · p.world) step.command with
      | .ok command => (c.bringUp .server step.label command step.readiness).run p
      | .error e => (.error e, p) := by
  unfold startServer
  rw [Run.run_bind, run_stepLine]
  cases c.plan.scenarioLine (c.host.isFile · p.world) step.command <;> rfl

/-! ## Reaping a service -/

/-- How a background process ends that is reaped: it is killed if its output stays open, and else
has the time of the plan to end by itself. -/
def reapEnding (service : Service) (child : Child) (s : σ) : WaitStatus :=
  let (hung, s) := c.hangs service s
  if hung then (c.host.kill child s).1 else c.host.endingWithin child c.plan.harness.grace s

/-- A background process is reaped with the status that it ends with. -/
theorem reapProcess_eq {service : Service} {child : Child}
    (hchild : service.process.child = some child) (hnew : service.process.exitCode = none) (s : σ) :
    (c.reapProcess service s).1 = .ok (c.reapEnding service child s).exitCode := by
  unfold reapProcess reapEnding
  cases c.hangs service s with
  | mk hung t =>
  cases hung with
  | false => exact Subprocess.endWithin_eq hchild hnew _ _
  | true =>
    have hkilled := Subprocess.kill_exitCode (h := c.host) hchild hnew t
    dsimp only
    rw [if_pos rfl, if_pos rfl, Subprocess.endWithin_of_exitCode hkilled]

/-- The first process of the kind leaves the kill list and is reaped. -/
theorem run_reapFirst (kind : ServiceRole) (p : Progress σ) :
    (c.reapFirst kind).run p =
      match p.background.find? (·.kind == kind) with
      | none => (.ok (), p)
      | some service =>
        (match (c.reapProcess service p.world).1 with
          | .ok code =>
            if kind = .server ∧ code ≠ 0 then .error (.stepFailed service.process.label code)
            else .ok ()
          | .error e => .error e,
        { p with
          world := (c.reapProcess service p.world).2
          background := p.background.eraseP (·.kind == kind) }) := by
  unfold reapFirst
  rw [Run.run_bind, Run.run_release]
  cases hf : p.background.find? (·.kind == kind) with
  | none =>
    have hn : p.background.eraseP (·.kind == kind) = p.background :=
      List.eraseP_of_forall_not (List.find?_eq_none.mp hf)
    rw [hn]
    rfl
  | some service =>
    dsimp only
    rw [Run.run_bind, Run.run_tryOnWorld]
    cases (c.reapProcess service p.world).1 with
    | error e => rfl
    | ok code =>
      dsimp only
      split <;> rfl

/-! ## Steps that touch no background process -/

/-- An admin command is carried out by the runner on the world. -/
theorem run_carryOut (command : Admin.Operation) (p : Progress σ) :
    (c.carryOut command).run p =
      ((Admin.checked c.admin c.plan.locator command p.world).1.map fun _ ↦ (),
        { p with world := (Admin.checked c.admin c.plan.locator command p.world).2 }) := by
  unfold carryOut
  rw [Run.run_bind, Run.run_tryOnWorld]
  cases (Admin.checked c.admin c.plan.locator command p.world).1 <;> rfl

/-- Admin commands change the world alone. -/
theorem onlyWorld_carryOut (command : Admin.Operation) : Run.OnlyWorld (c.carryOut command) :=
  (Run.onlyWorld_tryOnWorld _).bind fun _ ↦ Run.onlyWorld_pure ()

/-- Running a client changes the world alone. -/
theorem onlyWorld_clientStatus (step : ClientPlan) : Run.OnlyWorld (c.clientStatus step) := by
  unfold clientStatus stepLine
  refine (Run.onlyWorld_tryOnWorld _).bind fun command ↦ ?_
  refine (Run.onlyWorld_onWorld _).bind fun process ↦ ?_
  cases process.child with
  | none =>
    refine (Run.onlyWorld_tryOnWorld _).bind fun code ↦ ?_
    exact Run.onlyWorld_pure code
  | some child =>
    refine (Run.onlyWorld_onWorld _).bind fun _ ↦ ?_
    refine (Run.onlyWorld_tryOnWorld _).bind fun code ↦ ?_
    exact (Run.onlyWorld_onWorld _).bind fun _ ↦ Run.onlyWorld_pure code

/-- How a client ends that is launched here: with what its host reports, or not at all if it could
not be started. -/
def clientEnding (step : ClientPlan) (command : CommandLine) (s : σ) : Except String WaitStatus :=
  match Subprocess.launch c.host c.site step.label command s with
  | (process, s) =>
    match process.child with
    | some child =>
      .ok (c.host.wait child (c.host.closeInput child (c.host.drainOutput child step.label s))).1
    | none => .error (process.spawnError.getD "")

/-- The status of a client is that of its process. -/
theorem run_clientStatus (step : ClientPlan) (p : Progress σ) :
    ((c.clientStatus step).run p).1 =
      match c.plan.scenarioLine (c.host.isFile · p.world) step.command with
      | .ok command =>
        match c.clientEnding step command p.world with
        | .ok status => .ok status.exitCode
        | .error reason => .error (.notStarted step.label reason)
      | .error e => .error e := by
  unfold clientStatus
  rw [Run.run_bind, run_stepLine]
  cases c.plan.scenarioLine (c.host.isFile · p.world) step.command with
  | error e => rfl
  | ok command =>
  have hcases := Subprocess.launch_cases c.host c.site step.label command p.world
  unfold clientEnding
  dsimp only
  rw [Run.run_bind, Run.run_onWorld]
  cases hl : Subprocess.launch c.host c.site step.label command p.world with
  | mk process s =>
  rw [hl] at hcases
  obtain ⟨reason, hfailed⟩ | ⟨child, hstarted⟩ := hcases
  · dsimp only at hfailed
    subst hfailed
    rfl
  · dsimp only at hstarted
    subst hstarted
    rfl

/-- How the process ends that a step waits for: its client, or the process in the background that it
reaps. -/
def endingOf (p : Progress σ) : Step → Option WaitStatus
  | .client step =>
    match c.plan.scenarioLine (c.host.isFile · p.world) step.command with
    | .ok command => (c.clientEnding step command p.world).toOption
    | .error _ => none
  | .reap kind =>
    (p.background.find? (·.kind == kind)).bind fun service ↦
      service.process.child.map fun child ↦ c.reapEnding service child p.world
  | _ => none

/-- A client whose status is not 0 fails its step with that status. -/
theorem run_runClient (step : ClientPlan) (p : Progress σ) :
    (c.runClient step).run p =
      (match ((c.clientStatus step).run p).1 with
        | .ok code => if code ≠ 0 then .error (.stepFailed step.label code) else .ok ()
        | .error e => .error e,
      ((c.clientStatus step).run p).2) := by
  unfold runClient
  rw [Run.run_bind]
  cases (c.clientStatus step).run p with
  | mk r q =>
    cases r with
    | error e => rfl
    | ok code =>
      dsimp only
      split <;> rfl

end Setup
end ClusterHarness.Fixture
