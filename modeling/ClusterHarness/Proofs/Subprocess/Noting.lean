import ClusterHarness.Proofs.Subprocess.Ending
import ClusterHarness.Proofs.Subprocess.Handshake

/-!
# What processes ask of their host

A host can note beside its state what it is asked for. That has no part in what happens to a
process: every operation answers as it would without it. What an operation asks for is said here for
each of them. Reading lines asks for nothing that is noted; a process that was started and not seen
to end is brought to its end once by whatever ends it.
-/

namespace ClusterHarness

variable {σ τ : Type}

/-- The process that a command line stands for. -/
def Site.process (site : Site) (c : CommandLine) : Launch where
  program := c.program
  args := c.args
  directory := site.directory
  env := site.env

/-! ## Hosts that take notes -/

namespace Host

/-- What a host is asked for that can be seen from outside, with the child or the status that came
of it. -/
inductive Request where
  | spawn (l : Launch) (label : String) (child : Option Child)
  | capture (l : Launch)
  | emit (label text : String)
  /-- A wait for the end of a child, and the status that it gave unless the time ran out. -/
  | wait (child : Child) (status : Option WaitStatus)
  | kill (child : Child)

namespace Request

/-- The child that was started. -/
def started? : Request → Option Child
  | spawn _ _ child => child
  | _ => none

/-- The child that was brought to its end: its end was awaited, or it was killed. -/
def ended? : Request → Option Child
  | wait child (some _) => some child
  | kill child => some child
  | _ => none

end Request

/-- A host that notes beside its state what it is asked for. -/
def noting (h : Host σ) (note : τ → Request → τ) : Host (τ × σ) :=
  { h.beside τ with
    spawn := fun l label (x, s) ↦
      ((h.spawn l label s).1, note x (.spawn l label (h.spawn l label s).1.toOption),
        (h.spawn l label s).2)
    capture := fun l (x, s) ↦ ((h.capture l s).1, note x (.capture l), (h.capture l s).2)
    emit := fun label text (x, s) ↦ (note x (.emit label text), h.emit label text s)
    wait := fun child (x, s) ↦
      ((h.wait child s).1, note x (.wait child (some (h.wait child s).1)), (h.wait child s).2)
    waitUpTo := fun child limit (x, s) ↦
      ((h.waitUpTo child limit s).1, note x (.wait child (h.waitUpTo child limit s).1),
        (h.waitUpTo child limit s).2)
    kill := fun child (x, s) ↦ ((h.kill child s).1, note x (.kill child), (h.kill child s).2) }

/-- A host that keeps a list of what it was asked for. -/
def logged (h : Host σ) : Host (List Request × σ) := h.noting fun past r ↦ past ++ [r]

/-- What is beside the state of a host that takes no notes stays as it is. -/
theorem noting_const (h : Host σ) : h.noting (fun (x : τ) _ ↦ x) = h.beside τ := rfl

/-- A list of requests grows by those that are made. -/
theorem foldl_log (past asked : List Request) :
    asked.foldl (fun past r ↦ past ++ [r]) past = past ++ asked := by
  induction asked generalizing past with
  | nil => exact (List.append_nil past).symm
  | cons r asked ih => rw [List.foldl_cons, ih, List.append_assoc, List.singleton_append]

end Host

namespace Subprocess

open Host (Request)

variable (h : Host σ) (note : τ → Request → τ) (p : Subprocess) (x : τ) (s : σ)

/-! ## Launching -/

/-- A launch asks for one process, unless its command line is refused. -/
def launchRequests (site : Site) (label : String) (command : CommandLine) : List Request :=
  match command.validate with
  | .error _ => []
  | .ok () =>
    [.spawn (site.process command) (errorsLabel label) (launch h site label command s).1.child]

/-- A launch is noted, and goes on as without notes. -/
theorem launch_noting (site : Site) (label : String) (command : CommandLine) :
    launch (h.noting note) site label command (x, s) =
      Prod.map id (Prod.mk ((launchRequests h s site label command).foldl note x))
        (launch h site label command s) := by
  unfold launchRequests launch
  cases command.validate with
  | error e => rfl
  | ok =>
    dsimp only [Host.noting, Site.process]
    cases h.spawn ⟨command.program, command.args, site.directory, site.env⟩
      (errorsLabel label) s with
    | mk r t => cases r <;> rfl

/-- The child of a launch is the one that was started for it. -/
theorem filterMap_launchRequests (site : Site) (label : String) (command : CommandLine) :
    (launchRequests h s site label command).filterMap Request.started? =
        (launch h site label command s).1.child.toList ∧
      (launchRequests h s site label command).filterMap Request.ended? = [] := by
  unfold launchRequests
  cases hv : command.validate with
  | error e => exact ⟨by simp [launch, hv, failed], rfl⟩
  | ok => exact ⟨by cases (launch h site label command s).1.child <;> rfl, rfl⟩

/-! ## Reading -/

private theorem readLine_noting (timeout : Option Duration) :
    p.readLine (h.noting note) timeout (x, s) =
      Prod.map id (Prod.mk x) (p.readLine h timeout s) := by
  unfold readLine
  cases p.child with
  | none => rfl
  | some child => cases p.outputOpen <;> rfl

private theorem expectLine_noting (timeout : Option Duration) (expected : String) :
    p.expectLine (h.noting note) timeout expected (x, s) =
      Prod.map id (Prod.mk x) (p.expectLine h timeout expected s) := by
  unfold expectLine
  rw [readLine_noting]
  rfl

private theorem readPid_noting (timeout : Option Duration) :
    p.readPid (h.noting note) timeout (x, s) =
      Prod.map id (Prod.map id (Prod.mk x)) (p.readPid h timeout s) := by
  unfold readPid
  rw [expectLine_noting]
  cases p.expectLine h timeout pidExpected s with
  | mk r t =>
  cases r with
  | error e => rfl
  | ok line =>
    dsimp only [Prod.map, id]
    cases pid? (Text.trim line.toList) <;> rfl

private theorem readAdapter_noting (timeout : Option Duration) :
    p.readAdapter (h.noting note) timeout (x, s) =
      Prod.map id (Prod.mk x) (p.readAdapter h timeout s) := by
  unfold readAdapter
  rw [expectLine_noting]
  cases p.expectLine h timeout adapterExpected s with
  | mk r t =>
  cases r with
  | error e => rfl
  | ok line =>
    dsimp only [Prod.map, id]
    split <;> rfl

private theorem readAdapters_noting (timeout : Option Duration) (n : Nat) :
    p.readAdapters (h.noting note) timeout n (x, s) =
      Prod.map id (Prod.mk x) (p.readAdapters h timeout n s) := by
  induction n generalizing s with
  | zero => rfl
  | succ n ih =>
    unfold readAdapters
    rw [readAdapter_noting]
    cases p.readAdapter h timeout s with
    | mk r t =>
    cases r with
    | error e => rfl
    | ok => exact ih t

private theorem skipToComponent_noting (timeout : Option Duration) (token : String) :
    p.skipToComponent (h.noting note) timeout token (x, s) =
      Prod.map id (Prod.mk x) (p.skipToComponent h timeout token s) := by
  fun_induction skipToComponent h timeout token p s with
  | case1 s line t hr hm =>
    rw [skipToComponent_eq, readLine_noting, hr]
    dsimp only [Prod.map, id]
    rw [if_pos hm]
  | case2 s line t hr hm ih =>
    rw [skipToComponent_eq, readLine_noting, hr]
    dsimp only [Prod.map, id]
    rw [if_neg hm]
    exact ih
  | case3 s r t hnot hr =>
    rw [skipToComponent_eq, readLine_noting, hr]
    cases r with
    | line text => exact absurd rfl (hnot text)
    | _ => rfl

/-- A handshake asks for nothing that is noted. -/
theorem handshake_noting (timeout : Option Duration) (contract : Readiness) :
    p.handshake (h.noting note) timeout contract (x, s) =
      Prod.map id (Prod.map id (Prod.mk x)) (p.handshake h timeout contract s) := by
  unfold handshake
  rw [readPid_noting]
  cases p.readPid h timeout s with
  | mk r y =>
  obtain ⟨q, t⟩ := y
  cases r with
  | error e => rfl
  | ok pid =>
  dsimp only [Prod.map, id]
  rw [readAdapters_noting]
  cases q.readAdapters h timeout contract.adapters t with
  | mk r u =>
  cases r with
  | error e => rfl
  | ok =>
  dsimp only [Prod.map, id]
  cases contract.namedReady with
  | none => rfl
  | some token =>
    dsimp only
    rw [skipToComponent_noting]
    cases q.skipToComponent h timeout token u with
    | mk r v => cases r <;> rfl

/-! ## Ending -/

/-- A wait for a process that runs asks for the end of its child. -/
def waitRequests : List Request :=
  match p.running? with
  | none => []
  | some child => [.wait child (some (h.wait child (h.closeInput child s)).1)]

/-- The same with a limit. -/
def waitUpToRequests (limit : Duration) : List Request :=
  match p.running? with
  | none => []
  | some child => [.wait child (h.waitUpTo child limit (h.closeInput child s)).1]

/-- A kill of a process that runs asks for that of its child. -/
def killRequests : List Request := p.running?.toList.map .kill

/-- A process that is to end within a limit is waited for, and killed if its time runs out. -/
def endRequests (limit : Duration) : List Request :=
  match p.running? with
  | none => []
  | some child =>
    match (h.waitUpTo child limit (h.closeInput child s)).1 with
    | some status => [.wait child (some status)]
    | none => [.wait child none, .kill child]

private theorem recordEnd_noting (child : Child) (status : WaitStatus) :
    p.recordEnd (h.noting note) child status (x, s) =
      Prod.map id (Prod.mk x) (p.recordEnd h child status s) := by
  unfold recordEnd
  cases p.errorsDrained <;> rfl

/-- A wait is noted, and goes on as without notes. -/
theorem wait_noting :
    p.wait (h.noting note) (x, s) =
      Prod.map id (Prod.map id (Prod.mk ((p.waitRequests h s).foldl note x))) (p.wait h s) := by
  cases p with
  | mk _ child _ _ _ errorsDrained exitCode _ =>
  cases child with
  | none => cases exitCode <;> rfl
  | some child => cases exitCode <;> cases errorsDrained <;> rfl

private theorem waitUpTo_noting (limit : Duration) :
    p.waitUpTo (h.noting note) limit (x, s) =
      Prod.map id (Prod.map id (Prod.mk ((p.waitUpToRequests h s limit).foldl note x)))
        (p.waitUpTo h limit s) := by
  unfold waitUpToRequests waitUpTo
  cases p.running? with
  | none => rfl
  | some child =>
    have hw : (h.noting note).waitUpTo child limit ((h.noting note).closeInput child (x, s)) =
        Prod.map id
          (Prod.mk (note x (.wait child (h.waitUpTo child limit (h.closeInput child s)).1)))
          (h.waitUpTo child limit (h.closeInput child s)) := rfl
    dsimp only
    rw [hw]
    cases h.waitUpTo child limit (h.closeInput child s) with
    | mk status t =>
    cases status with
    | none => rfl
    | some status =>
      dsimp only [Prod.map, id]
      rw [recordEnd_noting]
      rfl

/-- A kill is noted, and goes on as without notes. -/
theorem kill_noting :
    p.kill (h.noting note) (x, s) =
      Prod.map id (Prod.mk (p.killRequests.foldl note x)) (p.kill h s) := by
  cases p with
  | mk _ child _ inputOpen outputOpen errorsDrained exitCode _ =>
  cases child with
  | none => cases exitCode <;> rfl
  | some child =>
    cases exitCode <;> cases inputOpen <;> cases outputOpen <;> cases errorsDrained <;> rfl

/-- A process that was killed is not waited for again. -/
theorem running?_kill : (p.kill h s).1.running? = none := by
  unfold kill
  cases hc : p.child with
  | none => simp [running?, hc]
  | some child => cases he : p.exitCode <;> simp [running?, he]

/-- Ending a process within a limit is noted, and goes on as without notes. -/
theorem endWithin_noting (limit : Duration) :
    p.endWithin (h.noting note) limit (x, s) =
      Prod.map id (Prod.mk ((p.endRequests h s limit).foldl note x)) (p.endWithin h limit s) := by
  unfold endWithin endRequests
  rw [waitUpTo_noting]
  unfold waitUpToRequests waitUpTo
  cases hr : p.running? with
  | none => rfl
  | some child =>
    have hrunning : { p with inputOpen := false : Subprocess }.running? = some child := hr
    dsimp only
    cases h.waitUpTo child limit (h.closeInput child s) with
    | mk status t =>
    cases status with
    | some status => rfl
    | none =>
      dsimp only [Prod.map, id]
      rw [kill_noting]
      dsimp only [Prod.map, id]
      -- The kill has left the status of the process, so the wait after it asks for nothing.
      rw [wait_noting]
      unfold waitRequests killRequests
      rw [running?_kill, hrunning]
      rfl

/-! ## What the requests come to -/

/-- A process whose launch is noted has not ended. -/
theorem running?_launch (site : Site) (label : String) (command : CommandLine) :
    (launch h site label command s).1.running? = (launch h site label command s).1.child := by
  obtain ⟨_, hf⟩ | ⟨_, hf⟩ := launch_cases h site label command s <;> rw [hf] <;> rfl

/-- A process that runs is brought to its end by waiting for it. -/
theorem filterMap_waitRequests :
    (p.waitRequests h s).filterMap Request.started? = [] ∧
      (p.waitRequests h s).filterMap Request.ended? = p.running?.toList := by
  unfold waitRequests
  cases p.running? <;> exact ⟨rfl, rfl⟩

/-- A process that runs is brought to its end by killing it. -/
theorem filterMap_killRequests :
    p.killRequests.filterMap Request.started? = [] ∧
      p.killRequests.filterMap Request.ended? = p.running?.toList := by
  unfold killRequests
  cases p.running? <;> exact ⟨rfl, rfl⟩

/-- A process that runs is brought to its end once within a limit, in time or not. -/
theorem filterMap_endRequests (limit : Duration) :
    (p.endRequests h s limit).filterMap Request.started? = [] ∧
      (p.endRequests h s limit).filterMap Request.ended? = p.running?.toList := by
  unfold endRequests
  cases p.running? with
  | none => exact ⟨rfl, rfl⟩
  | some child =>
    dsimp only
    cases (h.waitUpTo child limit (h.closeInput child s)).1 <;> exact ⟨rfl, rfl⟩

end Subprocess
end ClusterHarness
