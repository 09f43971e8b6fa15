import ClusterHarness.Proofs.Subprocess.Ending
import ClusterHarness.Proofs.Subprocess.Handshake

/-!
# The record of a managed process

Whatever is asked of a process, in whatever order, its record tells the truth: it runs until a wait
or a kill has completed, its status is kept once it is known, its output is gone once it was given
away, and its process id is the last that was accepted. What one call does to a record is stated
once (`Turns`); what holds after any number of calls follows from that.
-/

namespace ClusterHarness.Subprocess

variable {σ : Type}

/-! ## Calls and exchanges -/

/-- What may be asked of a process. -/
inductive Call where
  | readLine (timeout : Option Duration)
  | takeOutput
  | readPid (timeout : Option Duration)
  | readAdapter (timeout : Option Duration)
  | skipToComponent (timeout : Option Duration) (token : String)
  | handshake (timeout : Option Duration) (contract : Readiness)
  | wait
  | waitUpTo (limit : Duration)
  | kill

namespace Call

def ReadsPid : Call → Prop
  | readPid _ | handshake .. => True
  | _ => False

def ReadsReady : Call → Prop
  | readAdapter _ | skipToComponent .. => True
  | _ => False

def IsWait : Call → Prop
  | wait | waitUpTo _ => True
  | _ => False

end Call

/-- What a call gives back. -/
inductive Reply where
  | line (r : LineRead)
  /-- Whether there was an output to be given away. -/
  | taken (had : Bool)
  | pid (r : Except Failure Nat)
  | ready (r : Except Failure Unit)
  /-- What a wait has found out, or nothing if its time ran out. -/
  | waited (r : Option (Except Failure Int))
  | killed

/-- A reply with which a wait or a kill has completed. -/
def Reply.IsEnd : Reply → Prop
  | waited r => r.isSome
  | killed => True
  | _ => False

/-- Carry out one call. -/
def Call.run (h : Host σ) (p : Subprocess) (s : σ) : Call → Reply × Subprocess × σ
  | readLine timeout =>
    let (r, t) := p.readLine h timeout s
    (.line r, p, t)
  | takeOutput => (.taken p.outputOpen, p.takeOutput, s)
  | readPid timeout =>
    let (r, left) := p.readPid h timeout s
    (.pid r, left)
  | readAdapter timeout =>
    let (r, t) := p.readAdapter h timeout s
    (.ready r, p, t)
  | skipToComponent timeout token =>
    let (r, t) := p.skipToComponent h timeout token s
    (.ready r, p, t)
  | handshake timeout contract =>
    let (r, left) := p.handshake h timeout contract s
    (.pid r, left)
  | wait =>
    let (r, left) := p.wait h s
    (.waited (some r), left)
  | waitUpTo limit =>
    let (r, left) := p.waitUpTo h limit s
    (.waited r, left)
  | kill => (.killed, p.kill h s)

/-- The process id that a call reads and accepts, if it reads one. -/
def Call.acceptedPid? (h : Host σ) (p : Subprocess) (s : σ) : Call → Option Nat
  | readPid timeout | handshake timeout _ => pidIn? (p.readLine h timeout s).1
  | _ => none

/-- A call, what it gave back, and the process id that it accepted. -/
structure Exchange where
  call : Call
  reply : Reply
  acceptedPid? : Option Nat

/-- What calls leave that are carried out one after the other. -/
def after (h : Host σ) (x : Subprocess × σ) (calls : List Call) : Subprocess × σ :=
  calls.foldl (fun x call ↦ (call.run h x.1 x.2).2) x

/-- What calls give back that are carried out one after the other. -/
def exchanges (h : Host σ) (x : Subprocess × σ) : List Call → List Exchange
  | [] => []
  | call :: calls =>
    let (reply, left) := call.run h x.1 x.2
    ⟨call, reply, call.acceptedPid? h x.1 x.2⟩ :: exchanges h left calls

/-! ## One call -/

/-- What a call does to the record of a process. -/
inductive Turns (h : Host σ) (p : Subprocess) (s : σ) : Call → Reply → Subprocess → Prop
  | readLine {timeout : Option Duration} {r : LineRead} :
      Turns h p s (.readLine timeout) (.line r) p
  | takeOutput : Turns h p s .takeOutput (.taken p.outputOpen) p.takeOutput
  | readPid {call : Call} {r : Except Failure Nat} (hcall : call.ReadsPid) :
      Turns h p s call (.pid r)
        { p with discoveredPid := (call.acceptedPid? h p s).or p.discoveredPid }
  | readReady {call : Call} {r : Except Failure Unit} (hcall : call.ReadsReady) :
      Turns h p s call (.ready r) p
  /-- A wait for a process that does not run. -/
  | finished {call : Call} (hcall : call.IsWait) (hr : p.running? = none) :
      Turns h p s call (.waited (some p.outcome)) p
  | ended {call : Call} {child : Child} {code : Int} (hcall : call.IsWait)
      (hr : p.running? = some child) :
      Turns h p s call (.waited (some (.ok code)))
        { p with inputOpen := false, exitCode := some code, errorsDrained := false }
  /-- A wait whose time runs out. -/
  | late {limit : Duration} {child : Child} (hr : p.running? = some child) :
      Turns h p s (.waitUpTo limit) (.waited none) { p with inputOpen := false }
  | kill {child : Child} {code : Int} (hc : p.child = some child)
      (hcode : ∀ c ∈ p.exitCode, c = code) :
      Turns h p s .kill .killed
        { p with
          inputOpen := false, outputOpen := false, exitCode := some code, errorsDrained := false }
  | neverRan (hc : p.child = none) : Turns h p s .kill .killed p

variable {h : Host σ} {p q : Subprocess} {s : σ} {call : Call} {reply : Reply}

private theorem turns_wait (h : Host σ) (p : Subprocess) (s : σ) :
    Turns h p s .wait (.waited (some (p.wait h s).1)) (p.wait h s).2.1 := by
  unfold wait
  cases hr : p.running? with
  | none => exact .finished trivial hr
  | some child => exact .ended trivial hr

private theorem turns_waitUpTo (h : Host σ) (p : Subprocess) (limit : Duration) (s : σ) :
    Turns h p s (.waitUpTo limit) (.waited (p.waitUpTo h limit s).1)
      (p.waitUpTo h limit s).2.1 := by
  unfold waitUpTo
  cases hr : p.running? with
  | none => exact .finished trivial hr
  | some child =>
    dsimp only
    cases h.waitUpTo child limit (h.closeInput child s) with
    | mk status t =>
    cases status with
    | none => exact .late hr
    | some status => exact .ended trivial hr

private theorem kill_fst {child : Child} (hc : p.child = some child) :
    (p.kill h s).1 = { p with
      inputOpen := false, outputOpen := false, errorsDrained := false
      exitCode := some (p.exitCode.getD (h.kill child s).1.exitCode) } := by
  cases he : p.exitCode <;> simp [kill, hc, he]

private theorem turns_kill (h : Host σ) (p : Subprocess) (s : σ) :
    Turns h p s .kill .killed (p.kill h s).1 := by
  cases hc : p.child with
  | none =>
    have hkeep : (p.kill h s).1 = p := by simp [kill, hc]
    exact hkeep.symm ▸ .neverRan hc
  | some child =>
    rw [kill_fst hc]
    exact .kill hc fun c hcode ↦ by rw [hcode, Option.getD_some]

/-- Every call turns the record in one of these ways. -/
theorem turns_run (h : Host σ) (p : Subprocess) (s : σ) (call : Call) :
    Turns h p s call (call.run h p s).1 (call.run h p s).2.1 := by
  cases call with
  | readLine timeout => exact .readLine
  | takeOutput => exact .takeOutput
  | readPid timeout => exact (readPid_fst h timeout p s).symm ▸ .readPid trivial
  | readAdapter timeout => exact .readReady trivial
  | skipToComponent timeout token => exact .readReady trivial
  | handshake timeout contract =>
    exact (handshake_fst h timeout contract p s).symm ▸ .readPid trivial
  | wait => exact turns_wait h p s
  | waitUpTo limit => exact turns_waitUpTo h p limit s
  | kill => exact turns_kill h p s

namespace Turns

/-- A status is kept once it is known, and waits give it back. -/
theorem exitCode (ht : Turns h p s call reply q) {code : Int} (hcode : p.exitCode = some code) :
    q.exitCode = some code ∧ ∀ r, reply = .waited r → r = some (.ok code) := by
  have hrunning : p.running? = none := by simp [running?, hcode]
  cases ht with
  | finished hcall hr => exact ⟨hcode, fun r h ↦ by simp [Reply.waited.inj h.symm, outcome, hcode]⟩
  | ended hcall hr =>
    rw [hrunning] at hr
    cases hr
  | late hr =>
    rw [hrunning] at hr
    cases hr
  | kill hc hkeep =>
    refine ⟨congrArg some (hkeep code hcode).symm, fun r h ↦ ?_⟩
    cases h
  | _ =>
    refine ⟨hcode, fun r h ↦ ?_⟩
    cases h

/-- A process that runs does so until a wait or a kill has completed. -/
theorem isRunning_iff (ht : Turns h p s call reply q) :
    q.isRunning ↔ p.isRunning ∧ ¬ reply.IsEnd := by
  cases ht with
  | finished hcall hr => simp [isRunning, hr]
  | ended hcall hr => simp [isRunning, running?, Reply.IsEnd]
  | late hr => simp [isRunning, running?, Reply.IsEnd]
  | kill hc hkeep => simp [isRunning, running?, Reply.IsEnd]
  | neverRan hc => simp [isRunning, running?, hc]
  | _ => exact (and_iff_left id).symm

/-- An output that was given away stays away, and a kill gives it away. -/
theorem source?_eq_none (ht : Turns h p s call reply q)
    (hs : p.source? = none ∨ call = .takeOutput ∨ call = .kill) : q.source? = none := by
  cases ht with
  | takeOutput => rfl
  | kill hc hkeep => rfl
  | neverRan hc => simp [source?, hc]
  | readPid hcall | readReady hcall | finished hcall hr | ended hcall hr =>
    exact hs.resolve_right (by rintro (rfl | rfl) <;> exact hcall)
  | _ => exact hs.resolve_right nofun

/-- The process id is changed by one that is accepted, and by nothing else. -/
theorem discoveredPid (ht : Turns h p s call reply q) :
    q.discoveredPid = (call.acceptedPid? h p s).or p.discoveredPid := by
  cases ht with
  | readReady hcall | finished hcall hr | ended hcall hr => cases call <;> first | rfl | cases hcall
  | _ => rfl

end Turns

/-! ## Any number of calls -/

variable {x : Subprocess × σ}

/-- After the first call the others are made on what it has left. -/
theorem after_cons (h : Host σ) (x : Subprocess × σ) (call : Call) (calls : List Call) :
    after h x (call :: calls) = after h (call.run h x.1 x.2).2 calls := rfl

private theorem exchanges_cons (h : Host σ) (x : Subprocess × σ) (call : Call) (calls : List Call) :
    exchanges h x (call :: calls) =
      ⟨call, (call.run h x.1 x.2).1, call.acceptedPid? h x.1 x.2⟩ ::
        exchanges h (call.run h x.1 x.2).2 calls := rfl

/-- A status that is known is the status ever after, and all waits give it back. -/
theorem exitCode_after {code : Int} (hcode : x.1.exitCode = some code) (calls : List Call) :
    (after h x calls).1.exitCode = some code ∧
      ∀ e ∈ exchanges h x calls, ∀ r, e.reply = .waited r → r = some (.ok code) := by
  induction calls generalizing x with
  | nil => exact ⟨hcode, by simp [exchanges]⟩
  | cons call calls ih =>
    obtain ⟨hkept, hreply⟩ := (turns_run h x.1 x.2 call).exitCode hcode
    obtain ⟨hafter, hreplies⟩ := ih hkept
    exact ⟨hafter, List.forall_mem_cons.mpr ⟨hreply, hreplies⟩⟩

private theorem isRunning_after_iff (calls : List Call) :
    (after h x calls).1.isRunning ↔
      x.1.isRunning ∧ ∀ e ∈ exchanges h x calls, ¬ e.reply.IsEnd := by
  induction calls generalizing x with
  | nil => simp [after, exchanges]
  | cons call calls ih =>
    rw [after_cons, ih, (turns_run h x.1 x.2 call).isRunning_iff, and_assoc, exchanges_cons,
      List.forall_mem_cons]

private theorem source?_after {calls : List Call}
    (hs : x.1.source? = none ∨ .takeOutput ∈ calls ∨ .kill ∈ calls) :
    (after h x calls).1.source? = none := by
  induction calls generalizing x with
  | nil => simpa [after] using hs
  | cons call calls ih =>
    apply ih
    -- Either the output is gone after this call, or a later one gives it away.
    by_cases hlater : .takeOutput ∈ calls ∨ .kill ∈ calls
    · exact .inr hlater
    · refine .inl ((turns_run h x.1 x.2 call).source?_eq_none (hs.imp_right fun hmem ↦ ?_))
      rw [List.mem_cons, List.mem_cons] at hmem
      obtain (he | hm) | he | hm := hmem
      · exact .inl he.symm
      · exact absurd (.inl hm) hlater
      · exact .inr he.symm
      · exact absurd (.inr hm) hlater

/-- The process id is the last that was accepted. -/
theorem discoveredPid_after (calls : List Call) :
    (after h x calls).1.discoveredPid =
      ((exchanges h x calls).filterMap (·.acceptedPid?)).getLast?.or x.1.discoveredPid := by
  induction calls generalizing x with
  | nil => simp [after, exchanges]
  | cons call calls ih =>
    rw [after_cons, ih, (turns_run h x.1 x.2 call).discoveredPid, exchanges_cons,
      List.filterMap_cons]
    dsimp only
    cases call.acceptedPid? h x.1 x.2 with
    | none => rw [Option.none_or]
    | some pid =>
      rw [List.getLast?_cons]
      cases List.getLast? _ <;> rfl

/-! ## A process that never ran -/

/-- What a process that never ran gives back. -/
def Call.refusal (label reason : String) : Call → Reply
  | readLine _ => .line .ended
  | takeOutput => .taken false
  | readPid _ | handshake .. => .pid (.error (.notStarted label reason))
  | readAdapter _ | skipToComponent .. => .ready (.error (.notStarted label reason))
  | wait | waitUpTo _ => .waited (some (.error (.notStarted label reason)))
  | kill => .killed

/-- No call changes a process that never ran, or reaches the host. -/
theorem run_failed (h : Host σ) (label reason : String) (s : σ) (call : Call) :
    call.run h (failed label reason) s =
      (call.refusal label reason, failed label reason, s) := by
  cases call with
  | skipToComponent timeout token =>
    have hskip : (failed label reason).skipToComponent h timeout token s =
        (.error (.notStarted label reason), s) := by
      rw [skipToComponent]
      rfl
    rw [Call.run, hskip]
    rfl
  | _ => rfl

private theorem after_failed (h : Host σ) (label reason : String) (s : σ) (calls : List Call) :
    after h (failed label reason, s) calls = (failed label reason, s) := by
  induction calls with
  | nil => rfl
  | cons call calls ih => rw [after_cons, run_failed, ih]

/-! ## Any history of a launched process -/

/-- A launched process runs unless it could not be started, and has printed no process id yet. -/
theorem isRunning_launch_iff (h : Host σ) (site : Site) (label : String) (command : CommandLine)
    (s : σ) : (launch h site label command s).1.isRunning ↔
      (launch h site label command s).1.spawnError = none := by
  obtain ⟨reason, hf⟩ | ⟨child, hf⟩ := launch_cases h site label command s <;> rw [hf]
  · exact iff_of_false nofun nofun
  · exact iff_of_true rfl rfl

private theorem discoveredPid_launch (h : Host σ) (site : Site) (label : String)
    (command : CommandLine) (s : σ) : (launch h site label command s).1.discoveredPid = none := by
  obtain ⟨reason, hf⟩ | ⟨child, hf⟩ := launch_cases h site label command s
  · rw [hf]
    rfl
  · rw [hf]

private theorem launch_eq_failed {site : Site} {label reason : String} {command : CommandLine}
    {s : σ} (he : (launch h site label command s).1.spawnError = some reason) :
    (launch h site label command s).1 = failed label reason := by
  obtain ⟨other, hf⟩ | ⟨child, hf⟩ := launch_cases h site label command s <;> rw [hf] at he ⊢
  · rw [Option.some.inj he]
  · cases he

/-- The record of a launched process tells the truth after any calls in any order. Once a status is
known it stays, and every later wait gives it back. The process runs exactly while it was started
and no wait or kill has completed. Once the output was given away or the process was killed, reads
find the end. The process id is the last that was accepted. A process that could not be started
stays as it is: it has no status and does not run, and every call is refused with the reason. -/
theorem record_tells_truth (h : Host σ) (site : Site) (label : String) (command : CommandLine)
    (s : σ) (calls : List Call) :
    let launched := launch h site label command s
    let x := after h launched calls
    let past := exchanges h launched calls
    (∀ code, x.1.exitCode = some code → ∀ more, (after h x more).1.exitCode = some code ∧
      ∀ e ∈ exchanges h x more, ∀ r, e.reply = .waited r → r = some (.ok code)) ∧
    (x.1.isRunning ↔ launched.1.spawnError = none ∧ ∀ e ∈ past, ¬ e.reply.IsEnd) ∧
    (.takeOutput ∈ calls ∨ .kill ∈ calls →
      ∀ timeout, x.1.readLine h timeout x.2 = (.ended, x.2)) ∧
    x.1.discoveredPid = (past.filterMap (·.acceptedPid?)).getLast? ∧
    ∀ reason, launched.1.spawnError = some reason →
      x = launched ∧ x.1.exitCode = none ∧ x.1.isRunning = false ∧
        ∀ call : Call, (call.run h x.1 x.2).1 = call.refusal label reason := by
  intro launched x past
  refine ⟨fun code hcode more ↦ exitCode_after hcode more, ?_, fun hgone timeout ↦ ?_, ?_,
    fun reason hreason ↦ ?_⟩
  · rw [isRunning_after_iff, isRunning_launch_iff]
  · exact readLine_of_source?_eq_none (source?_after (.inr hgone)) timeout x.2
  · rw [discoveredPid_after, discoveredPid_launch, Option.or_none]
  · have hfailed : launched = (failed label reason, launched.2) :=
      Prod.ext (launch_eq_failed hreason) rfl
    have hx : x = (failed label reason, launched.2) := by
      rw [← after_failed h label reason launched.2 calls, ← hfailed]
    refine ⟨hx.trans hfailed.symm, by rw [hx]; rfl, by rw [hx]; rfl, fun call ↦ ?_⟩
    rw [hx, run_failed]

end ClusterHarness.Subprocess
