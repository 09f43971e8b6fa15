import ClusterHarness.Proofs.Drain.Wire
import ClusterHarness.Proofs.Subprocess.Ending
import ClusterHarness.Proofs.Subprocess.Handshake

/-!
# The verdict of a handshake

A handshake on the lines that a process prints accepts exactly those of the grammar, and reads no
line after them. Otherwise it breaks off at the first line that does not fit, or at the end of the
output.
-/

namespace ClusterHarness

variable {σ : Type}

namespace Subprocess

open Readiness

/-! ## What a process prints -/

/-- All that is read from a process: these lines, each in time, and then the end. -/
def Prints (h : Host σ) (timeout : Option Duration) (p : Subprocess) (s : σ)
    (lines : List String) (u : σ) : Prop :=
  ∃ t, p.Reads h timeout s lines t ∧ p.readLine h timeout t = (.ended, u)

/-- The record of a launch: either there is a child, or the reason why there is none. -/
def Recorded (p : Subprocess) : Prop := p.child = none ↔ p.spawnError.isSome

/-- How a handshake ends that has read some lines and expects one more. It has read the line that
does not fit, but nothing after it. -/
inductive BreaksOff (h : Host σ) (timeout : Option Duration) (p : Subprocess) (s u : σ)
    (want : Expected) (read : List String) : List String → Failure → σ → Prop
  | unexpected {line : String} {later : List String} {t : σ} :
    ¬ want.Fits line → p.Reads h timeout s (read ++ [line]) t →
      BreaksOff h timeout p s u want read (line :: later) (.unexpectedLine p.label want.text line) t
  | neverStarted {reason : String} : p.child = none → p.spawnError = some reason →
      BreaksOff h timeout p s u want read [] (.notStarted p.label reason) u
  | ended : p.child ≠ none →
      BreaksOff h timeout p s u want read [] (.endedEarly p.label want.text) u

variable {h : Host σ} {timeout : Option Duration} {p q : Subprocess} {s t u : σ}

/-- Every process that was launched is recorded, whether it could be started or not. -/
theorem recorded_launch (h : Host σ) (site : Site) (label : String) (command : CommandLine)
    (s : σ) : (launch h site label command s).1.Recorded := by
  obtain ⟨reason, hf⟩ | ⟨child, hf⟩ := launch_cases h site label command s <;> rw [hf]
  · simp [Recorded, failed]
  · simp [Recorded]

/-- Processes that are read alike print alike. -/
theorem Prints.congr {lines : List String} (hprints : p.Prints h timeout s lines u)
    (hq : p.readLine h timeout = q.readLine h timeout) : q.Prints h timeout s lines u := by
  obtain ⟨t, hr, hend⟩ := hprints
  exact ⟨t, hr.congr hq, hq ▸ hend⟩

private theorem prints_cons {line : String} {lines : List String}
    (hprints : p.Prints h timeout s (line :: lines) u) :
    ∃ t, p.readLine h timeout s = (.line line, t) ∧ p.Prints h timeout t lines u := by
  obtain ⟨v, hr, hend⟩ := hprints
  cases hr with
  | @cons _ t _ _ _ hl hrest => exact ⟨t, hl, v, hrest, hend⟩

private theorem readLine_of_prints_nil (hprints : p.Prints h timeout s [] u) :
    p.readLine h timeout s = (.ended, u) := by
  obtain ⟨_, hr, hend⟩ := hprints
  cases hr
  exact hend

namespace BreaksOff

variable {want : Expected} {read rest : List String} {e : Failure} {v : σ}

/-- Lines that were read before. -/
theorem after {earlier : List String} (hr : p.Reads h timeout s earlier t)
    (hb : p.BreaksOff h timeout t u want read rest e v) :
    p.BreaksOff h timeout s u want (earlier ++ read) rest e v := by
  cases hb with
  | unexpected hnot hline =>
    refine .unexpected hnot ?_
    rw [List.append_assoc]
    exact hr.append hline
  | neverStarted hchild hreason => exact .neverStarted hchild hreason
  | ended hchild => exact .ended hchild

private theorem withPid {pid : Option Nat}
    (hb : { p with discoveredPid := pid : Subprocess }.BreaksOff h timeout s u want read rest e v) :
    p.BreaksOff h timeout s u want read rest e v := by
  cases hb with
  | unexpected hnot hline => exact .unexpected hnot (hline.congr rfl)
  | neverStarted hchild hreason => exact .neverStarted hchild hreason
  | ended hchild => exact .ended hchild

end BreaksOff

/-- The end of the output where a line is expected. -/
theorem breaksOff_of_ended (hp : p.Recorded) (want : Expected) (read : List String) :
    ∃ e, p.lineOf timeout want.text .ended = .error e ∧
      p.BreaksOff h timeout s u want read [] e u := by
  cases hreason : p.spawnError with
  | some reason =>
    have hchild : p.child = none := hp.mpr (by simp [hreason])
    exact ⟨_, by simp [lineOf, hreason], .neverStarted hchild hreason⟩
  | none =>
    have hchild : p.child ≠ none := fun hnone ↦ by simpa [hreason] using hp.mp hnone
    exact ⟨_, by simp [lineOf, hreason], .ended hchild⟩

/-! ## The readers on what a process prints -/

private theorem expectLine_of_prints_cons {line : String} {lines : List String} (expected : String)
    (hprints : p.Prints h timeout s (line :: lines) u) :
    ∃ t, p.expectLine h timeout expected s = (.ok line, t) ∧ p.Reads h timeout s [line] t ∧
      p.Prints h timeout t lines u := by
  obtain ⟨t, hl, hrest⟩ := prints_cons hprints
  exact ⟨t, by simp [expectLine, hl, lineOf], .cons hl (.nil t), hrest⟩

private theorem expectLine_of_prints_nil (hp : p.Recorded) (want : Expected)
    (hprints : p.Prints h timeout s [] u) :
    ∃ e, p.expectLine h timeout want.text s = (.error e, u) ∧
      p.BreaksOff h timeout s u want [] [] e u := by
  obtain ⟨e, he, hb⟩ := breaksOff_of_ended hp want []
  exact ⟨e, by simp [expectLine, readLine_of_prints_nil hprints, he], hb⟩

private theorem readPid_of_prints (hp : p.Recorded) {lines : List String}
    (hprints : p.Prints h timeout s lines u) :
    (∃ pid first later t, lines = first :: later ∧ PidLine pid first ∧
      p.Reads h timeout s [first] t ∧ p.Prints h timeout t later u ∧
      p.readPid h timeout s = (.ok pid, { p with discoveredPid := some pid }, t)) ∨
    ∃ e t, p.BreaksOff h timeout s u .processId [] lines e t ∧
      p.readPid h timeout s = (.error e, p, t) := by
  unfold readPid
  cases lines with
  | nil =>
    obtain ⟨e, he, hb⟩ := expectLine_of_prints_nil hp .processId hprints
    have he' : p.expectLine h timeout pidExpected s = (.error e, u) := he
    exact .inr ⟨e, u, hb, by rw [he']⟩
  | cons line lines =>
    obtain ⟨t, he, hr, hrest⟩ := expectLine_of_prints_cons pidExpected hprints
    rw [he]
    cases hn : pid? (Text.trim line.toList) with
    | some pid =>
      exact .inl ⟨pid, line, lines, t, rfl, pid?_eq_some_iff.mp hn, hr, hrest, by simp [hn]⟩
    | none =>
      have hnot : ¬ Expected.processId.Fits line := by
        rintro ⟨pid, hpid⟩
        rw [pid?_eq_some_iff.mpr hpid] at hn
        cases hn
      exact .inr ⟨_, t, .unexpected hnot hr, by simp only [hn]; rfl⟩

private theorem readAdapter_of_prints (hp : p.Recorded) {lines : List String}
    (hprints : p.Prints h timeout s lines u) :
    (∃ line later t, lines = line :: later ∧ ReadyLine line ∧ p.Reads h timeout s [line] t ∧
      p.Prints h timeout t later u ∧ p.readAdapter h timeout s = (.ok (), t)) ∨
    ∃ e t, p.BreaksOff h timeout s u .adapter [] lines e t ∧
      p.readAdapter h timeout s = (.error e, t) := by
  unfold readAdapter
  cases lines with
  | nil =>
    obtain ⟨e, he, hb⟩ := expectLine_of_prints_nil hp .adapter hprints
    have he' : p.expectLine h timeout adapterExpected s = (.error e, u) := he
    exact .inr ⟨e, u, hb, by rw [he']⟩
  | cons line lines =>
    obtain ⟨t, he, hr, hrest⟩ := expectLine_of_prints_cons adapterExpected hprints
    rw [he]
    dsimp only
    by_cases hready : ReadyLine line
    · exact .inl ⟨line, lines, t, rfl, hready, hr, hrest,
        by rw [if_pos (isReadyLine_iff.mpr hready)]⟩
    · exact .inr ⟨_, t, .unexpected hready hr,
        by rw [if_neg (fun hr ↦ hready (isReadyLine_iff.mp hr))]; rfl⟩

/-- Adapters are read until enough are ready, or until one is not. -/
theorem readAdapters_of_prints (hp : p.Recorded) {n : Nat} {lines : List String}
    (hprints : p.Prints h timeout s lines u) :
    (∃ ready later t, lines = ready ++ later ∧ ready.length = n ∧
      (∀ line ∈ ready, ReadyLine line) ∧ p.Reads h timeout s ready t ∧
      p.Prints h timeout t later u ∧ p.readAdapters h timeout n s = (.ok (), t)) ∨
    ∃ ready rest e t, lines = ready ++ rest ∧ ready.length < n ∧
      (∀ line ∈ ready, ReadyLine line) ∧ p.BreaksOff h timeout s u .adapter ready rest e t ∧
      p.readAdapters h timeout n s = (.error e, t) := by
  induction n generalizing s lines with
  | zero => exact .inl ⟨[], lines, s, rfl, rfl, by simp, .nil s, hprints, rfl⟩
  | succ n ih =>
    unfold readAdapters
    obtain ⟨line, later, t, rfl, hready, hr, hrest, hone⟩ | ⟨e, t, hb, hone⟩ :=
      readAdapter_of_prints hp hprints
    · rw [hone]
      obtain ⟨ready, later, v, rfl, hlen, hall, hreads, hleft, hmany⟩ |
          ⟨ready, rest, e, v, rfl, hlen, hall, hb, hmany⟩ := ih hrest
      · exact .inl ⟨line :: ready, later, v, rfl, congrArg (· + 1) hlen,
          List.forall_mem_cons.mpr ⟨hready, hall⟩, hr.append hreads, hleft, hmany⟩
      · exact .inr ⟨line :: ready, rest, e, v, rfl, Nat.succ_lt_succ hlen,
          List.forall_mem_cons.mpr ⟨hready, hall⟩, hb.after hr, hmany⟩
    · rw [hone]
      exact .inr ⟨[], lines, e, t, rfl, Nat.succ_pos n, by simp, hb, rfl⟩

/-- Lines are skipped until the one of the component, or all of them. -/
theorem skipToComponent_of_prints (hp : p.Recorded) (token : String) {lines : List String}
    (hprints : p.Prints h timeout s lines u) :
    (∃ component later t, lines = component ++ later ∧ EndsWith (some token) component ∧
      p.Reads h timeout s component t ∧
      p.skipToComponent h timeout token s = (.ok (), t)) ∨
    ∃ e t, (∀ line ∈ lines, ¬ MarkerLine token line) ∧
      p.BreaksOff h timeout s u (.component token) lines [] e t ∧
      p.skipToComponent h timeout token s = (.error e, t) := by
  induction lines generalizing s with
  | nil =>
    obtain ⟨e, he, hb⟩ := breaksOff_of_ended (h := h) (s := s) hp (.component token) []
    rw [component_text] at he
    refine .inr ⟨e, u, by simp, hb, ?_⟩
    rw [skipToComponent_eq, readLine_of_prints_nil hprints]
    dsimp only
    rw [he]
    rfl
  | cons line lines ih =>
    obtain ⟨t, hl, hrest⟩ := prints_cons hprints
    rw [skipToComponent_eq, hl]
    dsimp only
    by_cases hmarker : MarkerLine token line
    · exact .inl ⟨[line], lines, t, rfl, endsWith_cons_iff.mpr (.inl ⟨hmarker, rfl⟩),
        .cons hl (.nil t), if_pos hmarker⟩
    · obtain ⟨component, later, v, rfl, hends, hreads, hk⟩ | ⟨e, v, hnone, hb, hk⟩ := ih hrest
      · exact .inl ⟨line :: component, later, v, rfl,
          endsWith_cons_iff.mpr (.inr ⟨hmarker, hends⟩), .cons hl hreads,
          (if_neg hmarker).trans hk⟩
      · refine .inr ⟨e, v, List.forall_mem_cons.mpr ⟨hmarker, hnone⟩, ?_, ?_⟩
        · exact hb.after (.cons hl (.nil t))
        · exact (if_neg hmarker).trans hk

/-! ## The verdict -/

/-- A handshake comes through the first lines that the contract accepts, or it breaks off where no
line, or none that fits, follows those that it has read. -/
theorem handshake_of_prints (hp : p.Recorded) {lines : List String}
    (hprints : p.Prints h timeout s lines u) (contract : Readiness) :
    (∃ pid read later t, lines = read ++ later ∧ contract.Accepts pid read ∧
      p.Reads h timeout s read t ∧
      p.handshake h timeout contract s = (.ok pid, { p with discoveredPid := some pid }, t)) ∨
    ∃ pid want read rest e t, lines = read ++ rest ∧ contract.Awaits pid want read ∧
      p.BreaksOff h timeout s u want read rest e t ∧
      p.handshake h timeout contract s =
        (.error e, { p with discoveredPid := pid.or p.discoveredPid }, t) := by
  unfold handshake
  obtain ⟨pid, first, later, t, rfl, hpid, hfirst, hleft, hread⟩ | ⟨e, t, hb, hread⟩ :=
    readPid_of_prints hp hprints
  swap
  · rw [hread]
    exact .inr ⟨none, .processId, [], lines, e, t, rfl, .processId, hb, rfl⟩
  rw [hread]
  dsimp only
  -- The process now knows its id, which makes no difference to what is read from it.
  have hp' : { p with discoveredPid := some pid : Subprocess }.Recorded := hp
  have hleft' : { p with discoveredPid := some pid : Subprocess }.Prints h timeout t later u :=
    hleft.congr rfl
  obtain ⟨ready, left, v, rfl, hlen, hready, hreads, hnamed, hmany⟩ |
      ⟨ready, rest, e, v, rfl, hlen, hready, hb, hmany⟩ :=
    readAdapters_of_prints (n := contract.adapters) hp' hleft'
  swap
  · rw [hmany]
    exact .inr ⟨some pid, .adapter, first :: ready, rest, e, v, rfl, .adapter hpid hlen hready,
      hb.withPid.after hfirst, rfl⟩
  rw [hmany]
  dsimp only
  have hbegun : p.Reads h timeout s (first :: ready) v := hfirst.append (hreads.congr rfl)
  cases htoken : contract.namedReady with
  | none =>
    refine .inl ⟨pid, first :: ready, left, v, rfl, ?_, hbegun, rfl⟩
    exact ⟨first, ready, [], (List.append_nil _).symm, hpid, hlen, hready, by rw [htoken]; rfl⟩
  | some token =>
    dsimp only
    obtain ⟨component, after, w, rfl, hends, hskipped, hk⟩ | ⟨e, w, hnone, hb, hk⟩ :=
      skipToComponent_of_prints hp' token hnamed
    · rw [hk]
      refine .inl ⟨pid, first :: ready ++ component, after, w, ?_, ?_, ?_, rfl⟩
      · simp
      · exact ⟨first, ready, component, rfl, hpid, hlen, hready, by rwa [htoken]⟩
      · exact hbegun.append (hskipped.congr rfl)
    · rw [hk]
      refine .inr ⟨some pid, .component token, first :: ready ++ left, [], e, w, ?_, ?_, ?_, rfl⟩
      · simp
      · exact .component hpid hlen hready htoken hnone
      · exact hb.withPid.after hbegun

/-- The first lines that a contract accepts make the handshake succeed, whatever follows them. -/
theorem handshake_of_prints_append {contract : Readiness} {pid : Nat} {read later : List String}
    (hprints : p.Prints h timeout s (read ++ later) u) (haccepts : contract.Accepts pid read) :
    (p.handshake h timeout contract s).1 = .ok pid := by
  obtain ⟨v, hall, -⟩ := hprints
  obtain ⟨t, hreads, -⟩ := hall.of_append
  rw [handshake_eq_ok_iff.mpr ⟨rfl, read, hreads, haccepts⟩]

/-- The verdict of a handshake on the lines that a process prints: it succeeds exactly when the
first of them are all that the contract asks for. Then it keeps the process id and has read just
these lines. Otherwise it breaks off after the beginning of such lines: a line that does not fit is
the last that was read, and the failure names it; the end of the output is a failure of the start
or of the process. The process id is kept once its line has been read. -/
theorem handshake_verdict (hp : p.Recorded) {lines : List String}
    (hprints : p.Prints h timeout s lines u) (contract : Readiness) :
    let r := p.handshake h timeout contract s
    (∀ pid, r.1 = .ok pid ↔ ∃ read later, lines = read ++ later ∧ contract.Accepts pid read) ∧
    (∀ pid, r.1 = .ok pid → r.2.1 = { p with discoveredPid := some pid } ∧
      ∃ read later, lines = read ++ later ∧ contract.Accepts pid read ∧
        p.Reads h timeout s read r.2.2) ∧
    ∀ e, r.1 = .error e → ∃ pid want read rest, lines = read ++ rest ∧
      contract.Awaits pid want read ∧ p.BreaksOff h timeout s u want read rest e r.2.2 ∧
      r.2.1 = { p with discoveredPid := pid.or p.discoveredPid } := by
  dsimp only
  have haccepted : ∀ pid, (∃ read later, lines = read ++ later ∧ contract.Accepts pid read) →
      (p.handshake h timeout contract s).1 = .ok pid := by
    rintro pid ⟨read, later, rfl, haccepts⟩
    exact handshake_of_prints_append hprints haccepts
  obtain ⟨n, read, later, t, hlines, haccepts, hreads, hr⟩ |
      ⟨known, want, read, rest, e, t, hlines, hawaits, hb, hr⟩ :=
    handshake_of_prints hp hprints contract
  · rw [hr] at haccepted ⊢
    refine ⟨fun pid ↦ ⟨fun hok ↦ ?_, haccepted pid⟩, fun pid hok ↦ ?_, fun e he ↦ nomatch he⟩
    · cases hok
      exact ⟨read, later, hlines, haccepts⟩
    · cases hok
      exact ⟨rfl, read, later, hlines, haccepts, hreads⟩
  · rw [hr] at haccepted ⊢
    refine ⟨fun pid ↦ ⟨fun hok ↦ ?_, haccepted pid⟩, fun pid hok ↦ ?_, fun e he ↦ ?_⟩
    · cases hok
    · cases hok
    · cases he
      exact ⟨known, want, read, rest, hlines, hawaits, hb, rfl⟩

end Subprocess

/-! ## Processes that print any lines -/

namespace Wire

/-- Whatever text waits on a wire is printed. -/
theorem prints_of_waiting (rest : Host σ) (timeout : Option Duration) {p : Subprocess}
    {child : Child} (hp : p.source? = some child) {lines : List String} {w : Wire}
    (h : w.Waiting (lines.map some)) (s : σ) :
    ∃ u, p.Prints (host rest) timeout (w, s) lines u := by
  have hread (x : Wire × σ) :
      p.readLine (host rest) timeout x = (x.1.readLine.1, (x.1.readLine.2, x.2)) :=
    Subprocess.readLine_of_source?_eq_some hp
  induction lines generalizing w with
  | nil =>
    obtain ⟨v, hr⟩ := readLine_of_waiting_nil h
    exact ⟨_, _, .nil _, by rw [hread, hr]⟩
  | cons line lines ih =>
    obtain ⟨v, hr, hv⟩ := readLine_of_waiting_cons h
    obtain ⟨u, t, hreads, hend⟩ := ih hv
    exact ⟨u, t, .cons (by rw [hread, hr]) hreads, hend⟩

end Wire

namespace Subprocess

/-- A server that prints lines before and after the one that its contract names. -/
def talk : Wire where
  unprinted := none
  outlet :=
    { pipe := some 0
      unread := Text.toBytes "+7\nAdapter ready\nhello\nserver0 ready\nhello\n" }

def talking : Subprocess := { label := "server0", child := some default, outputOpen := true }

def talkContract : Readiness := { adapters := 1, namedReady := some "server0" }

/-- The handshake leaves the last line of the server unread. -/
theorem talk_is_accepted :
    let r := talking.handshake (Wire.host Machine.host) none talkContract
      (talk, Machine.initial ["work"])
    r.1 = .ok 7 ∧ r.2.1 = { talking with discoveredPid := some 7 } ∧
      ∃ read later,
        ["+7", "Adapter ready", "hello", "server0 ready", "hello"] = read ++ later ∧
        talkContract.Accepts 7 read ∧
        talking.Reads (Wire.host Machine.host) none (talk, Machine.initial ["work"]) read
          r.2.2 := by
  have hwaiting : talk.Waiting
      (["+7", "Adapter ready", "hello", "server0 ready", "hello"].map some) :=
    ⟨rfl, rfl, by decide +kernel⟩
  have hrecorded : talking.Recorded := by simp [Recorded, talking]
  have haccepts : talkContract.Accepts 7 ["+7", "Adapter ready", "hello", "server0 ready"] := by
    refine ⟨"+7", ["Adapter ready"], ["hello", "server0 ready"], rfl, ?_, rfl, ?_, ?_⟩
    · have hdigits : ∀ c ∈ ['7'], c.isDigit := List.forall_mem_singleton.mpr rfl
      exact ⟨['+'], ['7'], by decide, .inr rfl, List.cons_ne_nil _ _, hdigits, rfl, by decide⟩
    · simp only [List.forall_mem_singleton]
      exact .inr ⟨"Adapter".toList, by decide⟩
    · refine ⟨["hello"], "server0 ready", rfl, ?_, ?_⟩
      · unfold Readiness.MarkerLine
        decide
      · simp only [List.forall_mem_singleton]
        unfold Readiness.MarkerLine
        decide
  obtain ⟨u, hprints⟩ := Wire.prints_of_waiting (p := talking) Machine.host none rfl hwaiting
    (Machine.initial ["work"])
  obtain ⟨hiff, hkeeps, -⟩ := handshake_verdict hrecorded hprints talkContract
  have hok := (hiff 7).mpr ⟨_, ["hello"], rfl, haccepts⟩
  exact ⟨hok, hkeeps 7 hok⟩

end Subprocess
end ClusterHarness
