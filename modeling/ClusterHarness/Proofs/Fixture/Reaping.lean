import ClusterHarness.Proofs.Fixture.Steps
import ClusterHarness.Proofs.Machine.Waiting

/-!
# Reaping on a machine

A background process is reaped in two waits: the first is for the end of its output, and only the
second closes its input. A process that ends by itself once its input is closed is therefore reaped
with its own status if its output comes to its end before that, and is killed if not. One that
keeps its output open until then is killed however long the harness waits.
-/

namespace ClusterHarness

namespace Machine

/-! ## Children and their pipes -/

/-- Whether no drain of the output of a child is at work or was cancelled. -/
def outputEnded (m : Machine) (child : Child) : Bool :=
  (m.outputDrain? child).all (·.ended == some .endOfStream)

/-- Whether a child runs and is not about to end. -/
def works (m : Machine) (child : Child) : Bool :=
  (m.job? child.id).any fun j ↦ j.ended.isNone && j.status?.isNone

/-- Whether the harness holds the input of a child open. -/
def holdsInput (m : Machine) (child : Child) : Bool :=
  m.inputs.any fun (id, input) ↦ id == child.id && input.isSome

/-- Time passes until the drain of the output of a child is over, or until the limit. -/
def awaitOutput (m : Machine) (child : Child) (limit : Duration) : Machine :=
  (m.waitFor (fun m ↦ (m.outputDrain? child).all (·.ended.isSome)) (some limit)).2

private theorem joinOutput_eq (m : Machine) (child : Child) (limit : Duration) :
    joinOutput child (some limit) m = stopOutput child (m.awaitOutput child limit) := rfl

/-- A change that keeps the keys does not change which entry has a key. -/
theorem find?_map_of_key {α : Type} {key : α → Nat} {f : α → α} (hf : ∀ a, key (f a) = key a)
    (k : Nat) (entries : List α) :
    (entries.map f).find? (key · == k) = (entries.find? (key · == k)).map f := by
  have hsame : (key · == k) ∘ f = (key · == k) := by
    funext a
    exact congrArg (· == k) (hf a)
  rw [List.find?_map, hsame]

private theorem output?_updateOutput (m : Machine) (child : Nat) (f : Outlet → Outlet) :
    (m.updateOutput child f).output? child = (m.output? child).map f := by
  let change (a : Attachment) : Attachment :=
    if a.child == child then { a with output := f a.output } else a
  have hkeep (a : Attachment) : (change a).child = a.child := by
    dsimp only [change]
    split <;> rfl
  have hfound : (m.updateOutput child f).attachment? child = (m.attachment? child).map change :=
    find?_map_of_key hkeep child m.attachments
  unfold output?
  rw [hfound]
  cases ha : m.attachment? child with
  | none => rfl
  | some a =>
    have hchild := List.find?_some ha
    have hchange : change a = { a with output := f a.output } := if_pos hchild
    rw [Option.map_some, hchange]
    rfl

/-- A drain is stopped unless it is over. -/
theorem stopOutput_fst (m : Machine) (child : Child) :
    (stopOutput child m).1 = if m.outputEnded child then .endOfStream else .cancelled := by
  unfold stopOutput outputEnded outputDrain?
  dsimp only
  rw [output?_updateOutput]
  cases m.output? child.id with
  | none => rfl
  | some o =>
    cases hr : o.reading with
    | drain d => cases he : d.ended with
      | none => simp [Outlet.cancelDrain, Outlet.drain?, hr, Drain.cancel, he]
      | some e => cases e <;> simp [Outlet.cancelDrain, Outlet.drain?, hr, Drain.cancel, he]
    | _ => simp [Outlet.cancelDrain, Outlet.drain?, hr]

/-! ## Children that run until their input closes -/

/-- A child holds its output open and runs on as long as its input is open, whatever the harness
waits for and however long. -/
structure RunsUntilInputCloses (m : Machine) (child : Child) : Prop where
  held : m.holdsInput child = true
  runsOn : ∀ holds limit, (m.waitFor holds limit).2.holdsInput child = true →
    (m.waitFor holds limit).2.outputEnded child = false ∧
      (m.waitFor holds limit).2.works child = true

/-- A child that has nothing to do but to wait for its input runs until that is closed. -/
theorem runsUntilInputCloses_of_nextWake_eq_none {m : Machine} {child : Child}
    (hheld : m.holdsInput child = true) (hrest : m.settle.nextWake = none)
    (hopen : m.settle.outputEnded child = false) (hworks : m.settle.works child = true) :
    m.RunsUntilInputCloses child where
  held := hheld
  runsOn holds limit _ := by
    obtain ⟨time, hn⟩ := waitFor_of_nextWake_eq_none hrest holds limit
    rw [hn]
    exact ⟨hopen, hworks⟩

/-- The input of such a child is still open when the harness has waited for its output, so that its
output is open as well. -/
theorem RunsUntilInputCloses.awaitOutput {m : Machine} {child : Child}
    (h : m.RunsUntilInputCloses child) (limit : Duration) :
    (m.awaitOutput child limit).outputEnded child = false ∧
      (m.awaitOutput child limit).works child = true := by
  refine h.runsOn _ _ ?_
  unfold holdsInput
  rw [inputs_waitFor]
  exact h.held

/-! ## Killing -/

private theorem job?_updateJob (m : Machine) (id target : Nat) {f : Job → Job}
    (hf : ∀ j, (f j).id = j.id) :
    (m.updateJob target f).job? id =
      (m.job? id).map fun j ↦ if j.id == target then f j else j := by
  refine find?_map_of_key (fun j ↦ ?_) id m.jobs
  split
  · exact hf j
  · rfl

private theorem jobs_forget (m : Machine) (id : Nat) : (m.forget id).jobs = m.jobs := by
  obtain ⟨_, _, h⟩ := m.forget_eq id
  rw [h]

/-- What a process that is told of something has become does not change. -/
theorem ended?_updateJob (m : Machine) (id target : Nat) {f : Job → Job}
    (hf : ∀ j, (f j).id = j.id ∧ (f j).ended = j.ended) :
    (m.updateJob target f).ended? id = m.ended? id := by
  unfold ended?
  rw [job?_updateJob m id target fun j ↦ (hf j).1]
  cases m.job? id with
  | none => rfl
  | some j =>
    dsimp only [Option.map_some, Option.bind_some]
    split
    · exact (hf j).2
    · rfl

private theorem ended?_endJob {m : Machine} {id : Nat} (h : (m.job? id).isSome)
    (status : WaitStatus) : (m.endJob id status).ended? id = some status := by
  obtain ⟨j, hj⟩ := Option.isSome_iff_exists.mp h
  have hid := List.find?_some hj
  let dead (j : Job) : Job :=
    { j with ended := some status, descriptors := [], wake := none, caught := [] }
  have hdead : (m.updateJob id dead).ended? id = some status := by
    unfold ended?
    rw [job?_updateJob m id id (f := dead) fun _ ↦ rfl, hj]
    dsimp only [Option.map_some, Option.bind_some]
    rw [if_pos hid]
  have hforgotten : ∀ (held : List (Nat × Nat)) (n : Machine),
      (held.foldl (fun m d ↦ m.forget d.2) n).jobs = n.jobs :=
    foldl_keeps fun m d ↦ jobs_forget m d.2
  have hkept : ∀ held : List (Nat × Nat),
      (held.foldl (fun m d ↦ m.forget d.2) (m.updateJob id dead)).ended? id = some status := by
    intro held
    rw [← hdead]
    unfold ended? job?
    rw [hforgotten]
  unfold endJob
  dsimp only
  split
  · rw [ended?_updateJob]
    · exact hkept _
    · intro j
      split
      · unfold Job.tell
        split <;> exact ⟨rfl, rfl⟩
      · exact ⟨rfl, rfl⟩
  · exact hkept _

private theorem ended?_reap (m : Machine) (child : Child) (id : Nat) :
    (reap child m).ended? id = m.ended? id := by
  let learned (j : Job) : Job := { j with reaped := j.ended.isSome }
  exact ended?_updateJob m id child.id (f := learned) fun _ ↦ ⟨rfl, rfl⟩

/-- A child that runs is killed by the signal. -/
theorem killChild_of_works {m : Machine} {child : Child} (h : m.works child = true) :
    (killChild child m).1 = .signaled Signal.kill ∧
      (killChild child m).2.ended? child.id = some (.signaled Signal.kill) := by
  unfold works at h
  cases hj : m.job? child.id with
  | none => simp [hj] at h
  | some j =>
  rw [hj, Option.any_some, Bool.and_eq_true, Option.isNone_iff_eq_none,
    Option.isNone_iff_eq_none] at h
  obtain ⟨hended, hstatus⟩ := h
  have hrunning : m.ended? child.id = none := by simp [ended?, hj, hended]
  have hsignal : ((m.job? child.id).bind fun j ↦ j.ended.or j.status?).getD
      (.signaled Signal.kill) = .signaled Signal.kill := by simp [hj, hended, hstatus]
  unfold killChild
  dsimp only
  rw [hsignal, hrunning]
  refine ⟨rfl, ?_⟩
  rw [ended?_reap]
  exact ended?_endJob (by rw [hj]; rfl) _

end Machine

namespace Subprocess

variable {p : Subprocess} {child : Child} {m : Machine}

/-- What is closed after a kill are pipes of the harness. -/
theorem ended?_kill (hchild : p.child = some child) (hnew : p.exitCode = none) (id : Nat) :
    (p.kill Machine.host m).2.ended? id = (Machine.killChild child m).2.ended? id := by
  cases p with
  | mk label _ pid inputOpen outputOpen errorsDrained _ spawnError =>
  cases hchild
  cases hnew
  cases inputOpen <;> cases outputOpen <;> cases errorsDrained <;> rfl

end Subprocess

namespace Fixture.Setup

/-! ## Reaping -/

variable {admin : Admin.Runner Machine} {plan : Plan} {service : Service} {child : Child}
  {m : Machine}

/-- What is awaited first is the output. The input of the child is not closed before. -/
theorem hangs_eq (hs : service.Drains child) :
    Setup.hangs ⟨Machine.host, admin, plan⟩ service m =
      (!(m.awaitOutput child plan.harness.grace).outputEnded child,
        (Machine.stopOutput child (m.awaitOutput child plan.harness.grace)).2) := by
  have hstop := (m.awaitOutput child plan.harness.grace).stopOutput_fst child
  have hjoin : Setup.hangs ⟨Machine.host, admin, plan⟩ service m =
      ((Machine.joinOutput child (some plan.harness.grace) m).1 == .cancelled,
        (Machine.joinOutput child (some plan.harness.grace) m).2) := by
    unfold hangs
    rw [hs.child, hs.drained]
    rfl
  rw [hjoin, Machine.joinOutput_eq, hstop]
  cases (m.awaitOutput child plan.harness.grace).outputEnded child <;> rfl

/-- A child whose output came to its end is waited for, which closes its input. -/
theorem reapProcess_of_outputEnded (hs : service.Drains child)
    (hended : (m.awaitOutput child plan.harness.grace).outputEnded child = true) :
    Setup.reapProcess ⟨Machine.host, admin, plan⟩ service m =
      service.process.endWithin Machine.host plan.harness.grace
        (Machine.stopOutput child (m.awaitOutput child plan.harness.grace)).2 := by
  unfold reapProcess
  rw [hangs_eq hs, hended]
  rfl

/-- A child whose output is still open is killed. -/
theorem reapProcess_of_not_outputEnded (hs : service.Drains child)
    (hopen : (m.awaitOutput child plan.harness.grace).outputEnded child = false)
    (hworks : (m.awaitOutput child plan.harness.grace).works child = true) :
    let r := Setup.reapProcess ⟨Machine.host, admin, plan⟩ service m
    r.1 = .ok 137 ∧ r.2.ended? child.id = some (.signaled Machine.Signal.kill) := by
  let stopped := (Machine.stopOutput child (m.awaitOutput child plan.harness.grace)).2
  have hstopped : stopped.works child = true := hworks
  obtain ⟨hstatus, hended⟩ := Machine.killChild_of_works hstopped
  have hcode : (service.process.kill Machine.host stopped).1.exitCode = some 137 := by
    have hkill : (Machine.host.kill child stopped).1 = .signaled Machine.Signal.kill := hstatus
    rw [Subprocess.kill_exitCode hs.child hs.notEnded, hkill]
    rfl
  have hr : Setup.reapProcess ⟨Machine.host, admin, plan⟩ service m =
      (.ok 137, (service.process.kill Machine.host stopped).2) := by
    unfold reapProcess
    rw [hangs_eq hs, hopen]
    exact Subprocess.endWithin_of_exitCode hcode _ _
  dsimp only
  rw [hr]
  refine ⟨rfl, ?_⟩
  rw [Subprocess.ended?_kill hs.child hs.notEnded]
  exact hended

/-- A background process that runs until its input is closed, and then ends with status zero in
time, is reaped with status zero exactly if its output comes to its end before that. If not, as
always if it holds its output open until then, it is killed, and a server that is killed fails the
run. -/
theorem reaped_with_zero_iff (hs : service.Drains child)
    (hworks : (m.awaitOutput child plan.harness.grace).works child = true)
    (hends : (Machine.host.waitUpTo child plan.harness.grace (Machine.host.closeInput child
      (Machine.host.joinOutput child (some plan.harness.grace) m).2)).1 = some (.exited 0)) :
    let c : Setup Machine := ⟨Machine.host, admin, plan⟩
    let ended := (m.awaitOutput child plan.harness.grace).outputEnded child
    ((c.reapProcess service m).1 = .ok 0 ↔ ended = true) ∧
    (ended = false → (c.reapProcess service m).1 = .ok 137 ∧
      (c.reapProcess service m).2.ended? child.id = some (.signaled Machine.Signal.kill)) ∧
    (m.RunsUntilInputCloses child → ended = false) ∧
    ∀ p : Progress Machine, p.world = m →
      p.background.find? (·.kind == .server) = some service →
      ((c.reapFirst .server).run p).1 =
        if ended then .ok () else .error (.stepFailed service.process.label 137) := by
  dsimp only
  have hholds : m.RunsUntilInputCloses child →
      (m.awaitOutput child plan.harness.grace).outputEnded child = false :=
    fun hruns ↦ (hruns.awaitOutput plan.harness.grace).1
  cases ho : (m.awaitOutput child plan.harness.grace).outputEnded child with
  | true =>
    rw [ho] at hholds
    have hzero : (Setup.reapProcess ⟨Machine.host, admin, plan⟩ service m).1 = .ok 0 := by
      rw [reapProcess_of_outputEnded hs ho]
      exact Subprocess.endWithin_of_waitUpTo hs.child hs.notEnded hends
    refine ⟨⟨fun _ ↦ rfl, fun _ ↦ hzero⟩, nofun, hholds, fun p hp hfirst ↦ ?_⟩
    rw [run_reapFirst, hfirst]
    dsimp only
    rw [hp, hzero]
    rfl
  | false =>
    obtain ⟨hcode, hkilled⟩ :=
      @reapProcess_of_not_outputEnded admin plan service child m hs ho hworks
    refine ⟨⟨fun hzero ↦ ?_, nofun⟩, fun _ ↦ ⟨hcode, hkilled⟩, fun _ ↦ rfl,
      fun p hp hfirst ↦ ?_⟩
    · rw [hcode] at hzero
      cases hzero
    · rw [run_reapFirst, hfirst]
      dsimp only
      rw [hp, hcode]
      rfl

/-- The harness waits for such a child, and the child waits for the harness: no grace helps. -/
theorem killed_of_runsUntilInputCloses (h : m.RunsUntilInputCloses child)
    (hs : service.Drains child) :
    let r := Setup.reapProcess ⟨Machine.host, admin, plan⟩ service m
    r.1 = .ok 137 ∧ r.2.ended? child.id = some (.signaled Machine.Signal.kill) := by
  obtain ⟨hopen, hworks⟩ := h.awaitOutput plan.harness.grace
  exact reapProcess_of_not_outputEnded hs hopen hworks

/-! ## Two servers -/

/-- A machine with one child, whose output is drained. -/
def childMachine (task : Machine.Task) : Machine where
  files := .directory []
  jobs :=
    [{ id := 1, task, directory := [], descriptors := [(0, 2), (1, 3), (2, 4)], parent := none }]
  openFiles := [(2, .reader 5), (3, .writer 6), (4, .writer 7)]
  pipes := [(5, {}), (6, {}), (7, {})]
  attachments :=
    [{ child := 1, input := some 5
       output := { pipe := some 6, reading := .drain { label := "server0" } }
       errors := { pipe := some 7, reading := .drain { label := "server0 (stderr)" } } }]
  next := 8

/-- Wait for the end of the input, and end. -/
def untilInputCloses : Machine.Task := .ask (.read 0 1) fun _ ↦ .exit 0

/-- Close the output before. -/
def closingOutput : Machine.Task := .ask (.close 1) fun _ ↦ untilInputCloses

def childService : Service where
  kind := .server
  process := { label := "server0", child := some ⟨1⟩, inputOpen := true, errorsDrained := true }
  drained := true

def childPlan : Plan where
  name := "x"
  testDir := ⟨"/"⟩
  port := 1
  admin := { binary := "admin" }
  registry := { binary := "true" }

def childSetup : Setup Machine where
  host := Machine.host
  admin := fun _ _ s ↦ (.ok ⟨0, ""⟩, s)
  plan := childPlan

private theorem drains_childService : childService.Drains ⟨1⟩ := ⟨rfl, rfl, rfl⟩

/-- A server that closes its output first is reaped with its own status. -/
theorem early_closing_server_is_reaped :
    (childSetup.reapProcess childService (childMachine closingOutput)).1 = .ok 0 ∧
      ∀ p : Progress Machine, p.world = childMachine closingOutput →
        p.background.find? (·.kind == .server) = some childService →
        ((childSetup.reapFirst .server).run p).1 = .ok () := by
  have hended : ((childMachine closingOutput).awaitOutput ⟨1⟩ childPlan.harness.grace).outputEnded
      ⟨1⟩ = true := by decide +kernel
  have hworks : ((childMachine closingOutput).awaitOutput ⟨1⟩ childPlan.harness.grace).works
      ⟨1⟩ = true := by decide +kernel
  obtain ⟨hiff, -, -, hserver⟩ :=
    @reaped_with_zero_iff childSetup.admin childPlan childService ⟨1⟩ (childMachine closingOutput)
      drains_childService hworks (by decide +kernel)
  refine ⟨hiff.mpr hended, fun p hp hfirst ↦ ?_⟩
  have hstep := hserver p hp hfirst
  rwa [hended, if_pos rfl] at hstep

/-- A server that holds its output open until its input is closed would end at once with status
zero, but is killed. -/
theorem waiting_server_is_killed :
    (childMachine untilInputCloses).RunsUntilInputCloses ⟨1⟩ ∧
      (childService.process.endWithin Machine.host childPlan.harness.grace
        (childMachine untilInputCloses)).1 = .ok 0 ∧
      (childSetup.reapProcess childService (childMachine untilInputCloses)).1 = .ok 137 ∧
      ((childSetup.reapFirst .server).run
        { world := childMachine untilInputCloses, background := [childService] }).1 =
          .error (.stepFailed "server0" 137) := by
  have hruns : (childMachine untilInputCloses).RunsUntilInputCloses ⟨1⟩ :=
    Machine.runsUntilInputCloses_of_nextWake_eq_none (by decide +kernel) (by decide +kernel)
      (by decide +kernel) (by decide +kernel)
  have hcode : (childSetup.reapProcess childService (childMachine untilInputCloses)).1 = .ok 137 :=
    (killed_of_runsUntilInputCloses hruns drains_childService).1
  have hends : (Machine.host.waitUpTo ⟨1⟩ childPlan.harness.grace
      (Machine.host.closeInput ⟨1⟩ (childMachine untilInputCloses))).1 = some (.exited 0) := by
    decide +kernel
  refine ⟨hruns, ?_, hcode, ?_⟩
  · exact Subprocess.endWithin_of_waitUpTo drains_childService.child
      drains_childService.notEnded hends
  · have hfirst : [childService].find? (·.kind == .server) = some childService := rfl
    rw [run_reapFirst, hfirst]
    dsimp only
    rw [hcode]
    rfl

end Fixture.Setup
end ClusterHarness
