import ClusterHarness.Proofs.Fixture.KillList
import ClusterHarness.Proofs.Subprocess.Noting

/-!
# Recording what a run does

A host can note what it is asked for beside its state, and a runner of admin commands its calls. A
run that is recorded does what it does without. The record of the runner holds the calls of the
admin steps of the run, each with its answer: no other step calls the runner, nor does the end of a
run that failed.
-/

namespace ClusterHarness

namespace Admin

variable {σ : Type}

/-- One call of a runner and its answer. -/
structure Exchange where
  locator : String
  operation : Operation
  answer : Except Failure Output

/-- A runner that keeps a record of its calls. -/
def recorded (run : Runner σ) : Runner (List Exchange × σ) :=
  fun locator operation (record, s) ↦
    let (answer, s) := run locator operation s
    (answer, record ++ [⟨locator, operation, answer⟩], s)

/-- A recorded call is checked as it would be without the record, and is added to it. -/
theorem checked_recorded (run : Runner σ) (locator : String) (operation : Operation)
    (record : List Exchange) (s : σ) :
    checked (recorded run) locator operation (record, s) =
      ((checked run locator operation s).1,
        record ++ [⟨locator, operation, (run locator operation s).1⟩],
        (checked run locator operation s).2) := by
  unfold checked recorded
  dsimp only
  cases run locator operation s with
  | mk answer t =>
  cases answer with
  | error e => rfl
  | ok output =>
    dsimp only
    split <;> rfl

/-- A runner that leaves something beside the state alone. -/
theorem checked_onSecond {τ : Type} (run : Runner σ) (locator : String) (operation : Operation)
    (x : τ) (s : σ) :
    checked (fun locator operation ↦ Host.onSecond (run locator operation)) locator operation
        (x, s) =
      Prod.map id (Prod.mk x) (checked run locator operation s) := by
  unfold checked
  dsimp only [Host.onSecond]
  cases run locator operation s with
  | mk answer t =>
  cases answer with
  | error e => rfl
  | ok output =>
    dsimp only
    split <;> rfl

end Admin

namespace Fixture

variable {σ τ α β : Type}

/-- A state of a run with something beside the state of the world. -/
def Progress.beside (p : Progress σ) (x : τ) : Progress (τ × σ) where
  world := (x, p.world)
  stage := p.stage
  history := p.history
  background := p.background

/-! ## Operations that are noted -/

namespace Run

/-- The first operation does what the second does, and leaves alone what is beside the world. -/
def Lifts (wide : Run (τ × σ) α) (narrow : Run σ α) : Prop :=
  ∀ p x, wide.run (p.beside x) = ((narrow.run p).1, (narrow.run p).2.beside x)

/-- In this state the first operation does what the second does, and notes that it has asked for
this. -/
def Notes (note : τ → Host.Request → τ) (wide : Run (τ × σ) α) (narrow : Run σ α)
    (p : Progress σ) (asked : List Host.Request) : Prop :=
  ∀ x, wide.run (p.beside x) =
    ((narrow.run p).1, (narrow.run p).2.beside (asked.foldl note x))

variable {note : τ → Host.Request → τ}

/-- An operation that leaves the notes alone asks for nothing. -/
theorem Lifts.notes {wide : Run (τ × σ) α} {narrow : Run σ α} (h : Lifts wide narrow)
    (p : Progress σ) : Notes note wide narrow p [] := h p

/-- An operation leaves alone what is beside the world if it has no notes to take. -/
theorem lifts_of_notes {wide : Run (τ × σ) α} {narrow : Run σ α}
    (h : ∀ p, Notes (fun x _ ↦ x) wide narrow p []) : Lifts wide narrow := h

/-- Giving a value back asks for nothing. -/
theorem lifts_pure (a : α) : Lifts (pure a : Run (τ × σ) α) (pure a) := fun _ _ ↦ rfl

private theorem lifts_throw (e : Failure) :
    Lifts (throw e : Run (τ × σ) α) (throw e) := fun _ _ ↦ rfl

private theorem lifts_enter (stage : Stage) :
    Lifts (enter stage : Run (τ × σ) Unit) (enter stage) :=
  fun _ _ ↦ rfl

private theorem lifts_keep (service : Service) :
    Lifts (keep service : Run (τ × σ) Unit) (keep service) := fun _ _ ↦ rfl

private theorem notes_onWorld {wide : τ × σ → α × τ × σ} {narrow : σ → α × σ} {p : Progress σ}
    {asked : List Host.Request}
    (h : ∀ x, wide (x, p.world) = Prod.map id (Prod.mk (asked.foldl note x)) (narrow p.world)) :
    Notes note (onWorld wide) (onWorld narrow) p asked := by
  intro x
  rw [run_onWorld, run_onWorld]
  show (Except.ok (wide (x, p.world)).1, { p.beside x with world := (wide (x, p.world)).2 }) = _
  rw [h]
  rfl

private theorem notes_tryOnWorld {wide : τ × σ → Except Failure α × τ × σ}
    {narrow : σ → Except Failure α × σ} {p : Progress σ} {asked : List Host.Request}
    (h : ∀ x, wide (x, p.world) = Prod.map id (Prod.mk (asked.foldl note x)) (narrow p.world)) :
    Notes note (tryOnWorld wide) (tryOnWorld narrow) p asked := by
  intro x
  rw [run_tryOnWorld, run_tryOnWorld]
  show ((wide (x, p.world)).1, { p.beside x with world := (wide (x, p.world)).2 }) = _
  rw [h]
  rfl

private theorem lifts_onWorld {wide : τ × σ → α × τ × σ} {narrow : σ → α × σ}
    (h : ∀ x s, wide (x, s) = Prod.map id (Prod.mk x) (narrow s)) :
    Lifts (onWorld wide) (onWorld narrow) :=
  lifts_of_notes fun p ↦ notes_onWorld (h · p.world)

/-- An operation on the world that may fail leaves alone what is beside it. -/
theorem lifts_tryOnWorld {wide : τ × σ → Except Failure α × τ × σ}
    {narrow : σ → Except Failure α × σ}
    (h : ∀ x s, wide (x, s) = Prod.map id (Prod.mk x) (narrow s)) :
    Lifts (tryOnWorld wide) (tryOnWorld narrow) :=
  lifts_of_notes fun p ↦ notes_tryOnWorld (h · p.world)

/-- What comes after an operation and leaves the notes alone asks for nothing more. -/
theorem Notes.bind_lifts {wide : Run (τ × σ) α} {narrow : Run σ α} {f : α → Run (τ × σ) β}
    {g : α → Run σ β} {p : Progress σ} {asked : List Host.Request}
    (h : Notes note wide narrow p asked) (hf : ∀ a, Lifts (f a) (g a)) :
    Notes note (wide >>= f) (narrow >>= g) p asked := by
  intro x
  rw [run_bind, run_bind, h]
  cases narrow.run p with
  | mk r q =>
    cases r with
    | error e => rfl
    | ok a => exact hf a q _

/-- Operations that leave the notes alone may follow each other. -/
theorem Lifts.bind {wide : Run (τ × σ) α} {narrow : Run σ α} {f : α → Run (τ × σ) β}
    {g : α → Run σ β} (h : Lifts wide narrow) (hf : ∀ a, Lifts (f a) (g a)) :
    Lifts (wide >>= f) (narrow >>= g) :=
  lifts_of_notes fun p ↦ (h.notes p).bind_lifts hf

/-- An operation that succeeds is noted before what comes after it. -/
theorem Notes.bind {wide : Run (τ × σ) α} {narrow : Run σ α} {f : α → Run (τ × σ) β}
    {g : α → Run σ β} {p q : Progress σ} {a : α} {asked more : List Host.Request}
    (h : Notes note wide narrow p asked) (hr : narrow.run p = (.ok a, q))
    (hf : Notes note (f a) (g a) q more) :
    Notes note (wide >>= f) (narrow >>= g) p (asked ++ more) := by
  intro x
  rw [run_bind, run_bind, h, hr]
  dsimp only
  rw [hf, List.foldl_append]

/-- Nothing comes after an operation that fails. -/
theorem Notes.bind_error {wide : Run (τ × σ) α} {narrow : Run σ α} {f : α → Run (τ × σ) β}
    {g : α → Run σ β} {p q : Progress σ} {e : Failure} {asked : List Host.Request}
    (h : Notes note wide narrow p asked) (hr : narrow.run p = (.error e, q)) :
    Notes note (wide >>= f) (narrow >>= g) p asked := by
  intro x
  rw [run_bind, run_bind, h, hr]

end Run

/-- A child that was launched into the background was started, one that was reaped was brought to
its end, and every other child that was started was brought to its end as well. -/
def Settles (asked : List Host.Request) (launched reaped : Option Identity) : Prop :=
  ∃ passing : List Child,
    asked.filterMap Host.Request.started? = passing ++ (launched.bind (·.child)).toList ∧
    asked.filterMap Host.Request.ended? = passing ++ (reaped.bind (·.child)).toList

/-- Asking for nothing settles nothing. -/
theorem settles_nil : Settles [] none none := ⟨[], rfl, rfl⟩

namespace Setup

variable (c : Setup σ)

/-- A setup whose host notes what it is asked for beside its state. -/
def noting (note : τ → Host.Request → τ) (admin : Admin.Runner (τ × σ)) : Setup (τ × σ) where
  host := c.host.noting note
  admin
  plan := c.plan

/-- A setup with something beside the state of its host, on which only the admin runner may act. -/
def beside (admin : Admin.Runner (τ × σ)) : Setup (τ × σ) where
  host := c.host.beside τ
  admin
  plan := c.plan

variable {c} {note : τ → Host.Request → τ} {admin : Admin.Runner (τ × σ)}

private theorem noting_host : (c.noting note admin).host = c.host.noting note := rfl

/-- Where nothing is noted, only the admin runner may act on what is beside the world. -/
theorem noting_const : c.noting (fun (x : τ) _ ↦ x) admin = c.beside admin := by
  unfold noting beside
  rw [Host.noting_const]

private theorem lifts_stepLine (template : String) :
    Run.Lifts ((c.noting note admin).stepLine template) (c.stepLine template) :=
  Run.lifts_tryOnWorld fun _ _ ↦ rfl

/-- Of all that brings a service up, only its launch is noted. -/
theorem notes_bringUp (kind : ServiceRole) (label : String) (command : CommandLine)
    (contract : Readiness) (p : Progress σ) :
    Run.Notes note ((c.noting note admin).bringUp kind label command contract)
      (c.bringUp kind label command contract) p
      (Subprocess.launchRequests c.host p.world c.site label command) := by
  unfold bringUp
  refine (Run.notes_onWorld fun x ↦ ?_).bind_lifts fun process ↦ ?_
  · exact Subprocess.launch_noting c.host note x p.world _ label command
  refine (Run.lifts_onWorld fun x s ↦ ?_).bind fun (r, process') ↦ ?_
  · show (let (r, p, s) := process.handshake (c.host.noting note) _ contract (x, s)
      ((r, p), s)) = _
    rw [Subprocess.handshake_noting]
    rfl
  cases r with
  | error e => exact (Run.lifts_keep _).bind fun _ ↦ Run.lifts_throw e
  | ok pid =>
    dsimp only
    cases process'.child with
    | none => exact Run.lifts_keep _
    | some child => exact (Run.lifts_onWorld fun x s ↦ rfl).bind fun _ ↦ Run.lifts_keep _

/-- Waiting for a client to end. -/
theorem notes_waitStatus (process : Subprocess) (p : Progress σ) :
    Run.Notes note
      (Run.tryOnWorld fun s : τ × σ ↦
        let (r, _, s) := process.wait (c.host.noting note) s
        (r, s))
      (Run.tryOnWorld fun s ↦
        let (r, _, s) := process.wait c.host s
        (r, s))
      p (process.waitRequests c.host p.world) := by
  refine Run.notes_tryOnWorld fun x ↦ ?_
  rw [Subprocess.wait_noting]
  rfl

variable (note admin) in
/-- Running a client asks for its launch and, if it was started, for its end. -/
theorem notes_clientStatus {step : ClientPlan} {command : CommandLine} {p : Progress σ}
    (hline : c.plan.scenarioLine (c.host.isFile · p.world) step.command = .ok command) :
    ∃ world, Run.Notes note ((c.noting note admin).clientStatus step) (c.clientStatus step) p
      (Subprocess.launchRequests c.host p.world c.site step.label command ++
        (Subprocess.launch c.host c.site step.label command p.world).1.waitRequests c.host
          world) := by
  have hread := (c.run_stepLine step.command p).trans (by rw [hline])
  have hlaunch : Run.Notes note
      (Run.onWorld (Subprocess.launch (c.host.noting note) c.site step.label command))
      (Run.onWorld (Subprocess.launch c.host c.site step.label command)) p
      (Subprocess.launchRequests c.host p.world c.site step.label command) :=
    Run.notes_onWorld fun x ↦ Subprocess.launch_noting c.host note x p.world _ step.label command
  unfold clientStatus
  cases hl : Subprocess.launch c.host c.site step.label command p.world with
  | mk process s =>
  have hstarted : (Run.onWorld (Subprocess.launch c.host c.site step.label command)).run p =
      (.ok process, { p with world := s }) := by
    rw [Run.run_onWorld, hl]
  cases hc : process.child with
  | none =>
    -- There is no child to wait for, and the wait fails without asking for one.
    refine ⟨s, ((lifts_stepLine step.command).notes p).bind hread (hlaunch.bind hstarted ?_)⟩
    rw [hc]
    exact (notes_waitStatus process.takeOutput _).bind_lifts fun code ↦ Run.lifts_pure code
  | some child =>
    refine ⟨c.host.drainOutput child step.label s,
      ((lifts_stepLine step.command).notes p).bind hread (hlaunch.bind hstarted ?_)⟩
    rw [hc]
    have hdrain : Run.Lifts
        (Run.onWorld fun s ↦ ((), (c.host.noting note).drainOutput child step.label s))
        (Run.onWorld fun s ↦ ((), c.host.drainOutput child step.label s)) :=
      Run.lifts_onWorld fun _ _ ↦ rfl
    refine (hdrain.notes _).bind (Run.run_onWorld _ _) ?_
    refine (notes_waitStatus process.takeOutput _).bind_lifts fun code ↦ ?_
    exact (Run.lifts_onWorld fun x s ↦ rfl).bind fun _ ↦ Run.lifts_pure code

private theorem notes_runClient {step : ClientPlan} {p : Progress σ} {asked : List Host.Request}
    (h : Run.Notes note ((c.noting note admin).clientStatus step) (c.clientStatus step) p asked) :
    Run.Notes note ((c.noting note admin).runClient step) (c.runClient step) p asked := by
  refine h.bind_lifts fun code ↦ ?_
  split
  · exact Run.lifts_throw _
  · exact Run.lifts_pure ()

private theorem hangs_noting (service : Service) (x : τ) (s : σ) :
    (c.noting note admin).hangs service (x, s) =
      Prod.map id (Prod.mk x) (c.hangs service s) := by
  unfold hangs
  cases service.process.child with
  | none => rfl
  | some child => cases service.drained <;> rfl

/-- A process that is reaped is killed if its output stays open, and else waited for. -/
def reapRequests (c : Setup σ) (service : Service) (s : σ) : List Host.Request :=
  let (hung, s) := c.hangs service s
  if hung then service.process.killRequests
  else service.process.endRequests c.host s c.plan.harness.grace

/-- A process that runs is brought to its end once by being reaped. -/
theorem filterMap_reapRequests (service : Service) (s : σ) :
    (c.reapRequests service s).filterMap Host.Request.started? = [] ∧
      (c.reapRequests service s).filterMap Host.Request.ended? =
        service.process.running?.toList := by
  unfold reapRequests
  cases c.hangs service s with
  | mk hung t =>
  cases hung with
  | true => exact service.process.filterMap_killRequests
  | false => exact service.process.filterMap_endRequests c.host t _

variable (c note admin) in
/-- Reaping a process is noted, and goes on as without notes. -/
theorem reapProcess_noting (service : Service) (x : τ) (s : σ) :
    (c.noting note admin).reapProcess service (x, s) =
      Prod.map id (Prod.mk ((c.reapRequests service s).foldl note x))
        (c.reapProcess service s) := by
  unfold reapProcess reapRequests
  rw [hangs_noting]
  cases c.hangs service s with
  | mk hung t =>
  cases hung with
  | false => exact Subprocess.endWithin_noting c.host note service.process x t _
  | true =>
    dsimp only [Prod.map, id]
    simp only [if_true]
    show (let (process, s) := service.process.kill (c.host.noting note) (x, t)
      process.endWithin (c.host.noting note) _ s) = _
    rw [Subprocess.kill_noting]
    dsimp only [Prod.map, id]
    rw [Subprocess.endWithin_noting]
    unfold Subprocess.endRequests
    rw [Subprocess.running?_kill]
    rfl

/-- A step that reaps asks for what reaping its process takes, if there is one. -/
theorem notes_reapFirst {kind : ServiceRole} {p : Progress σ} {service : Service}
    (hf : p.background.find? (·.kind == kind) = some service) :
    Run.Notes note ((c.noting note admin).reapFirst kind) (c.reapFirst kind) p
      (c.reapRequests service p.world) := by
  intro x
  have hreaped := reapProcess_noting c note admin service x p.world
  have hf' : (p.beside x).background.find? (·.kind == kind) = some service := hf
  have hworld : (p.beside x).world = (x, p.world) := rfl
  rw [run_reapFirst, run_reapFirst, hf, hf']
  dsimp only
  rw [hworld, hreaped]
  rfl

private theorem notes_reapFirst_none {kind : ServiceRole} {p : Progress σ}
    (hf : p.background.find? (·.kind == kind) = none) :
    Run.Notes note ((c.noting note admin).reapFirst kind) (c.reapFirst kind) p [] := by
  intro x
  have hf' : (p.beside x).background.find? (·.kind == kind) = none := hf
  rw [run_reapFirst, run_reapFirst, hf, hf']
  rfl

private theorem emptyDirs_noting (h : Host σ) (dirs : List Path) (x : τ) (s : σ) :
    emptyDirs (h.noting note) dirs (x, s) = Prod.map id (Prod.mk x) (emptyDirs h dirs s) := by
  have hone (dir : Path) (s : σ) :
      emptyDir (h.noting note) dir (x, s) = Prod.map id (Prod.mk x) (emptyDir h dir s) := by
    have hremove : (h.noting note).removeTree dir (x, s) =
        Prod.map id (Prod.mk x) (h.removeTree dir s) := rfl
    have hcreate (t : σ) : (h.noting note).createDirs dir (x, t) =
        Prod.map id (Prod.mk x) (h.createDirs dir t) := rfl
    unfold emptyDir
    rw [hremove]
    cases h.removeTree dir s with
    | mk r t =>
    cases hr : h.createDirs dir t with
    | mk r' u => cases r with
      | ok => cases r' <;> simp [Prod.map, hcreate, hr]
      | error e => cases e <;> cases r' <;> simp [Prod.map, hcreate, hr]
  induction dirs generalizing s with
  | nil => rfl
  | cons dir dirs ih =>
    unfold emptyDirs
    rw [hone]
    cases emptyDir h dir s with
    | mk r t =>
    cases r with
    | error e => rfl
    | ok => exact ih t

/-! ## Steps -/

private theorem settles_launch (kind : ServiceRole) (label : String) (command : CommandLine)
    (s : σ) :
    Settles (Subprocess.launchRequests c.host s c.site label command)
      (some (c.launchIdentity kind label command s)) none := by
  obtain ⟨hstarted, hended⟩ :=
    Subprocess.filterMap_launchRequests c.host s c.site label command
  exact ⟨[], hstarted, hended⟩

/-- A client that was started is brought to its end. -/
theorem settles_client (label : String) (command : CommandLine) (s world : σ) :
    Settles (Subprocess.launchRequests c.host s c.site label command ++
      (Subprocess.launch c.host c.site label command s).1.waitRequests c.host world) none none := by
  obtain ⟨hstarted, hended⟩ :=
    Subprocess.filterMap_launchRequests c.host s c.site label command
  have hwaited := Subprocess.filterMap_waitRequests c.host
    (Subprocess.launch c.host c.site label command s).1 world
  refine ⟨(Subprocess.launch c.host c.site label command s).1.child.toList, ?_, ?_⟩
  · rw [List.filterMap_append, hstarted, hwaited.1]
    rfl
  · rw [List.filterMap_append, hended, hwaited.2, Subprocess.running?_launch]
    exact (List.append_nil _).symm

/-- A process that is reaped is brought to its end. -/
theorem settles_reap {p : Progress σ} (hnew : p.NoneEnded) {kind : ServiceRole} {service : Service}
    (hf : p.background.find? (·.kind == kind) = some service) :
    Settles (c.reapRequests service p.world) none (p.reapedBy (.reap kind)) := by
  have hrunning : service.process.running? = service.process.child :=
    if_neg (by simp [hnew service (List.mem_of_find?_eq_some hf)])
  have hreaped : (p.reapedBy (.reap kind)).bind (·.child) = service.process.child := by
    unfold Progress.reapedBy
    dsimp only
    rw [hf]
    cases hc : service.process.child <;> simp [Service.identity, hc]
  obtain ⟨hstarted, hended⟩ := filterMap_reapRequests (c := c) service p.world
  refine ⟨[], hstarted, ?_⟩
  rw [hended, hrunning, hreaped]
  rfl

variable (note admin) in
/-- A step of a run whose host notes what it is asked for: what it asks for settles the process
that it launches into the background and the one that it reaps. Only admin commands may do otherwise
than without the notes. -/
theorem exists_notes_take {step : Step} (hs : ∀ command, step ≠ .admin command)
    (p : Progress σ) :
    ∃ asked, Run.Notes note ((c.noting note admin).take step) (c.take step) p asked ∧
      (p.NoneEnded → Settles asked (c.launchedBy p step) (p.reapedBy step)) := by
  cases step with
  | clean =>
    exact ⟨[], (Run.lifts_tryOnWorld (emptyDirs_noting c.host c.plan.dataDirs)).notes p,
      fun _ ↦ settles_nil⟩
  | enter stage => exact ⟨[], (Run.lifts_enter stage).notes p, fun _ ↦ settles_nil⟩
  | start kind command contract =>
    exact ⟨_, notes_bringUp kind kind.name command contract p,
      fun _ ↦ settles_launch kind kind.name command p.world⟩
  | admin command => exact absurd rfl (hs command)
  | server step =>
    have hread := c.run_stepLine step.command p
    unfold launchedBy
    dsimp only
    cases hline : c.plan.scenarioLine (c.host.isFile · p.world) step.command with
    | error e =>
      rw [hline] at hread
      exact ⟨[], ((lifts_stepLine step.command).notes p).bind_error hread, fun _ ↦ settles_nil⟩
    | ok command =>
      rw [hline] at hread
      exact ⟨_, ((lifts_stepLine step.command).notes p).bind hread
        (notes_bringUp .server step.label command step.readiness p),
        fun _ ↦ settles_launch .server step.label command p.world⟩
  | client step =>
    cases hline : c.plan.scenarioLine (c.host.isFile · p.world) step.command with
    | error e =>
      have hread := c.run_stepLine step.command p
      rw [hline] at hread
      exact ⟨[], notes_runClient (((lifts_stepLine step.command).notes p).bind_error hread),
        fun _ ↦ settles_nil⟩
    | ok command =>
      obtain ⟨world, hnotes⟩ := notes_clientStatus note admin hline
      exact ⟨_, notes_runClient hnotes, fun _ ↦ settles_client step.label command p.world world⟩
  | reap kind =>
    cases hf : p.background.find? (·.kind == kind) with
    | none =>
      have hnone : p.reapedBy (.reap kind) = none := by simp [Progress.reapedBy, hf]
      exact ⟨[], notes_reapFirst_none hf, fun _ ↦ hnone ▸ settles_nil⟩
    | some service => exact ⟨_, notes_reapFirst hf, fun hnew ↦ settles_reap hnew hf⟩

/-- Only the steps that are admin commands may act on what is beside the world. -/
theorem lifts_take {step : Step} (hs : ∀ command, step ≠ .admin command) :
    Run.Lifts ((c.beside admin).take step) (c.take step) := by
  intro p x
  obtain ⟨asked, hnotes, -⟩ := exists_notes_take (fun x _ ↦ x) admin hs p
  have hx := hnotes x
  rwa [List.foldl_fixed, noting_const] at hx

/-! ## The end of a run that failed -/

/-- Killing processes asks for that of each child that runs, in the order given. -/
theorem killAll_noting (services : List Service) (x : τ) (s : σ) :
    (c.noting note admin).killAll services (x, s) =
      Prod.map id (Prod.mk ((services.flatMap (·.process.killRequests)).foldl note x))
        (c.killAll services s) := by
  induction services generalizing x s with
  | nil => rfl
  | cons service services ih =>
    unfold killAll
    rw [List.flatMap_cons, List.foldl_append, noting_host, Subprocess.kill_noting]
    cases service.process.kill c.host s with
    | mk process t =>
    dsimp only [Prod.map, id]
    cases hchild : process.child with
    | none =>
      dsimp only
      rw [ih]
      rfl
    | some child =>
      cases service.drained with
      | false =>
        dsimp only
        rw [ih]
        rfl
      | true =>
        have hstop (y : τ) : (c.host.noting note).stopOutput child (y, t) =
            Prod.map id (Prod.mk y) (c.host.stopOutput child t) := rfl
        dsimp only
        rw [hstop]
        dsimp only [Prod.map, id]
        rw [ih]
        rfl

variable (c note admin) in
/-- Killing everything on the kill list asks for that of each child that runs, the last first. -/
theorem killBackground_noting (p : Progress σ) (x : τ) :
    (c.noting note admin).killBackground (p.beside x) =
      ((c.killBackground p).1, (c.killBackground p).2.beside
        ((p.background.reverse.flatMap (·.process.killRequests)).foldl note x)) := by
  unfold killBackground Progress.beside
  dsimp only
  rw [killAll_noting]
  rfl

/-- Killing leaves alone what is beside the world if nothing is noted. -/
theorem killBackground_beside (p : Progress σ) (x : τ) :
    (c.beside admin).killBackground (p.beside x) =
      ((c.killBackground p).1, (c.killBackground p).2.beside x) := by
  have hx := killBackground_noting c (fun x _ ↦ x) admin p x
  rwa [List.foldl_fixed, noting_const] at hx

/-! ## The record -/

variable (c)

/-- The setup with a runner that keeps a record of its calls. -/
def recorded : Setup (List Admin.Exchange × σ) := c.beside (Admin.recorded c.admin)

/-- The call that a step makes, with its answer. -/
def exchangeOf (p : Progress σ) : Step → Option Admin.Exchange
  | .admin command =>
    some ⟨c.plan.locator, command, (c.admin c.plan.locator command p.world).1⟩
  | _ => none

/-- The calls made so far. -/
def exchangesIn (past : List (Moment σ)) : List Admin.Exchange :=
  past.filterMap fun m ↦ c.exchangeOf m.found m.step

variable {c}

/-- A step adds its call to the record, and does nothing else that it does not do without one. -/
theorem run_take_recorded (step : Step) (p : Progress σ) (record : List Admin.Exchange) :
    (c.recorded.take step).run (p.beside record) =
      (((c.take step).run p).1,
        ((c.take step).run p).2.beside (record ++ (c.exchangeOf p step).toList)) := by
  have hother (hs : ∀ command, step ≠ .admin command) (hnone : c.exchangeOf p step = none) :
      (c.recorded.take step).run (p.beside record) = (((c.take step).run p).1,
        ((c.take step).run p).2.beside (record ++ (c.exchangeOf p step).toList)) := by
    rw [hnone, Option.toList_none, List.append_nil]
    exact lifts_take hs p record
  cases step with
  | admin command =>
    show (c.recorded.carryOut command).run (p.beside record) =
      (((c.carryOut command).run p).1, ((c.carryOut command).run p).2.beside _)
    rw [run_carryOut, run_carryOut]
    show (Except.map _ (Admin.checked (Admin.recorded c.admin) c.plan.locator command
        (record, p.world)).1, { p.beside record with
          world := (Admin.checked (Admin.recorded c.admin) c.plan.locator command
            (record, p.world)).2 }) = _
    rw [Admin.checked_recorded]
    rfl
  | _ => exact hother (by simp) rfl

/-- A run that is recorded does what it does without a record, and the record holds its calls. -/
theorem run_follow_recorded (steps : List Step) (p : Progress σ) (record : List Admin.Exchange) :
    (c.recorded.follow steps).run (p.beside record) =
      (((c.follow steps).run p).1,
        ((c.follow steps).run p).2.beside (record ++ c.exchangesIn (c.trail steps p))) := by
  induction steps generalizing p record with
  | nil =>
    show _ = (_, p.beside (record ++ []))
    rw [List.append_nil]
    rfl
  | cons step steps ih =>
    rw [run_follow_cons, run_follow_cons, run_take_recorded]
    unfold trail
    cases hs : (c.take step).run p with
    | mk r q =>
    cases r with
    | error e =>
      dsimp only
      cases hx : c.exchangeOf p step <;> simp [exchangesIn, hx]
    | ok =>
      dsimp only
      rw [ih]
      cases hx : c.exchangeOf p step <;> simp [exchangesIn, hx]

/-- The report of a run does not depend on whether it is recorded, and the record holds the calls
of the run. -/
theorem run_recorded (s : σ) :
    c.recorded.run ([], s) = ((c.run s).1, c.exchangesIn (c.moments s), (c.run s).2) := by
  have hattempt : c.recorded.attempt.run { world := ([], s) } =
      ((c.attempt.run { world := s }).1,
        (c.attempt.run { world := s }).2.beside (c.exchangesIn (c.moments s))) :=
    run_follow_recorded c.plan.course { world := s } []
  unfold run
  rw [hattempt]
  cases c.attempt.run { world := s } with
  | mk r p =>
  cases r with
  | ok => rfl
  | error e =>
    dsimp only
    unfold recorded
    rw [killBackground_beside]
    rfl

end Setup
end Fixture
end ClusterHarness
