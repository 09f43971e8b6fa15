import ClusterHarness.Proofs.Subprocess.Grammar

/-!
# What a successful handshake has read

A handshake succeeds exactly when the lines that it has read are those of its contract. Each of its
readers is turned into the lines that it has read when it succeeds, and no reader changes more of a
process than the id that was found.
-/

namespace ClusterHarness.Subprocess

open Readiness

variable {σ : Type}

/-! ## Lines of a process -/

/-- Reads of the output of a process that give lines, one after the other, each in time. -/
inductive Reads (h : Host σ) (timeout : Option Duration) (p : Subprocess) :
    σ → List String → σ → Prop
  | nil (s : σ) : Reads h timeout p s [] s
  | cons {s t u : σ} {line : String} {lines : List String} :
    p.readLine h timeout s = (.line line, t) → Reads h timeout p t lines u →
      Reads h timeout p s (line :: lines) u

/-- The child whose output is still read here. -/
def source? (p : Subprocess) : Option Child := if p.outputOpen then p.child else none

variable {h : Host σ} {timeout : Option Duration} {p q : Subprocess} {s t u : σ}

/-- Reading from a process without an open output finds the end, and asks no host. -/
theorem readLine_of_source?_eq_none (hs : p.source? = none) (timeout : Option Duration) (s : σ) :
    p.readLine h timeout s = (.ended, s) := by
  unfold source? at hs
  unfold readLine
  cases hc : p.child with
  | none => rfl
  | some child => cases ho : p.outputOpen <;> simp_all

/-- A process that can be read from was started. -/
theorem child_of_source? {child : Child} (hs : p.source? = some child) : p.child = some child := by
  unfold source? at hs
  split at hs
  · exact hs
  · cases hs

/-- A process with an open output gives the lines of its child. -/
theorem readLine_of_source?_eq_some {child : Child} (hs : p.source? = some child) :
    p.readLine h timeout s = h.readLine child timeout s := by
  unfold source? at hs
  cases ho : p.outputOpen <;> simp_all [readLine]

/-- Lines come from a child. -/
theorem source?_of_readLine {line : String} (hl : p.readLine h timeout s = (.line line, t)) :
    ∃ child, p.source? = some child := by
  cases hs : p.source? with
  | some child => exact ⟨child, rfl⟩
  | none =>
    rw [readLine_of_source?_eq_none hs] at hl
    cases hl

namespace Reads

/-- What was read one after the other was read together. -/
theorem append {xs ys : List String} (hx : p.Reads h timeout s xs t)
    (hy : p.Reads h timeout t ys u) : p.Reads h timeout s (xs ++ ys) u := by
  induction hx with
  | nil => exact hy
  | cons hr _ ih => exact .cons hr (ih hy)

/-- The first lines are read first. -/
theorem of_append {xs ys : List String} (hr : p.Reads h timeout s (xs ++ ys) u) :
    ∃ t, p.Reads h timeout s xs t ∧ p.Reads h timeout t ys u := by
  induction xs generalizing s with
  | nil => exact ⟨s, .nil s, hr⟩
  | cons x xs ih =>
    cases hr with
    | cons hx hrest =>
      obtain ⟨t, hxs, hys⟩ := ih hrest
      exact ⟨t, .cons hx hxs, hys⟩

/-- What is read does not depend on the rest of the record. -/
theorem congr {lines : List String} (hr : p.Reads h timeout s lines t)
    (hq : p.readLine h timeout = q.readLine h timeout) : q.Reads h timeout s lines t := by
  induction hr with
  | nil => exact .nil _
  | cons hl _ ih => exact .cons (hq ▸ hl) ih

end Reads

/-! ## The readers -/

private theorem lineOf_eq_ok_iff {expected text : String} {r : LineRead} :
    p.lineOf timeout expected r = .ok text ↔ r = .line text := by
  cases r with
  | line => simp [lineOf]
  | ended => cases he : p.spawnError <;> simp [lineOf, he]
  | timedOut => simp [lineOf]
  | failed cause => simp [lineOf]

/-- An expected line is the line that is read. -/
theorem expectLine_eq_ok_iff (expected : String) {text : String} :
    p.expectLine h timeout expected s = (.ok text, t) ↔
      p.readLine h timeout s = (.line text, t) := by
  unfold expectLine
  cases p.readLine h timeout s with
  | mk r u => simp [lineOf_eq_ok_iff]

/-- The process id is read from one line and kept. -/
theorem readPid_eq_ok_iff {pid : Nat} :
    p.readPid h timeout s = (.ok pid, q, t) ↔
      q = { p with discoveredPid := some pid } ∧
      ∃ line, p.readLine h timeout s = (.line line, t) ∧ PidLine pid line := by
  simp only [← expectLine_eq_ok_iff pidExpected, ← pid?_eq_some_iff]
  unfold readPid
  cases p.expectLine h timeout pidExpected s with
  | mk r u =>
  cases r with
  | error e => simp
  | ok line =>
    dsimp only
    constructor
    · intro hr
      split at hr
      · next n hn =>
        cases hr
        exact ⟨rfl, line, rfl, hn⟩
      · cases hr
    · rintro ⟨rfl, _, hline, hn⟩
      cases hline
      rw [hn]

/-- One adapter is read from one line. -/
theorem readAdapter_eq_ok_iff :
    p.readAdapter h timeout s = (.ok (), t) ↔
      ∃ line, p.readLine h timeout s = (.line line, t) ∧ ReadyLine line := by
  simp only [← expectLine_eq_ok_iff adapterExpected, ← isReadyLine_iff]
  unfold readAdapter
  cases p.expectLine h timeout adapterExpected s with
  | mk r u =>
  cases r with
  | error e => simp
  | ok line =>
    dsimp only
    constructor
    · intro hr
      split at hr
      · next hready =>
        cases hr
        exact ⟨line, rfl, hready⟩
      · cases hr
    · rintro ⟨_, hline, hready⟩
      cases hline
      rw [if_pos hready]

/-- Exactly as many lines are read as there are adapters, and all are ready lines. -/
theorem readAdapters_eq_ok_iff {n : Nat} :
    p.readAdapters h timeout n s = (.ok (), t) ↔
      ∃ lines, p.Reads h timeout s lines t ∧ lines.length = n ∧
        ∀ line ∈ lines, ReadyLine line := by
  induction n generalizing s with
  | zero =>
    simp only [readAdapters, Prod.mk.injEq, true_and, List.length_eq_zero_iff]
    constructor
    · rintro rfl
      exact ⟨[], .nil s, rfl, by simp⟩
    · rintro ⟨_, hr, rfl, _⟩
      cases hr
      rfl
  | succ n ih =>
    have hone (u : σ) : p.readAdapter h timeout s = (.ok (), u) ↔ ∃ line,
        p.readLine h timeout s = (.line line, u) ∧ ReadyLine line := readAdapter_eq_ok_iff
    unfold readAdapters
    cases ha : p.readAdapter h timeout s with
    | mk r u =>
    rw [ha] at hone
    cases r with
    | error e =>
      simp only [Prod.mk.injEq, reduceCtorEq, false_and, false_iff, not_exists, not_and] at hone ⊢
      rintro lines hr hlen hready
      cases hr with
      | nil => cases hlen
      | cons hl _ => exact hone _ _ hl (hready _ List.mem_cons_self)
    | ok =>
      obtain ⟨first, hfirst, hready⟩ := (hone u).mp rfl
      simp only [ih]
      constructor
      · rintro ⟨lines, hr, rfl, hall⟩
        exact ⟨first :: lines, .cons hfirst hr, rfl, List.forall_mem_cons.mpr ⟨hready, hall⟩⟩
      · rintro ⟨lines, hr, hlen, hall⟩
        cases hr with
        | nil => cases hlen
        | cons hl hrest =>
          rw [hfirst] at hl
          cases hl
          exact ⟨_, hrest, Nat.succ.inj hlen, fun l hm ↦ hall l (List.mem_cons_of_mem _ hm)⟩

/-- One turn of the loop that skips lines. -/
theorem skipToComponent_eq (h : Host σ) (p : Subprocess) (s : σ) (timeout : Option Duration)
    (token : String) :
    p.skipToComponent h timeout token s =
      match p.readLine h timeout s with
      | (.line line, t) =>
        if Text.trim line.toList = (marker token).toList then (.ok (), t)
        else p.skipToComponent h timeout token t
      | (r, t) => ((p.lineOf timeout (markerExpected token) r).map fun _ ↦ (), t) := by
  rw [skipToComponent]
  split <;> simp_all

/-- What is read up to the component begins with the next line. -/
private theorem exists_endsWith_iff {token line : String}
    (hr : p.readLine h timeout s = (.line line, u)) :
    (∃ lines, p.Reads h timeout s lines t ∧ EndsWith (some token) lines) ↔
      MarkerLine token line ∧ u = t ∨ ¬ MarkerLine token line ∧
        ∃ lines, p.Reads h timeout u lines t ∧ EndsWith (some token) lines := by
  constructor
  · rintro ⟨lines, hreads, hends⟩
    cases hreads with
    | nil => exact absurd hends not_endsWith_nil
    | cons hl hrest =>
      rw [hr] at hl
      cases hl
      obtain ⟨hline, rfl⟩ | ⟨hline, hends⟩ := endsWith_cons_iff.mp hends
      · cases hrest
        exact .inl ⟨hline, rfl⟩
      · exact .inr ⟨hline, _, hrest, hends⟩
  · rintro (⟨hline, rfl⟩ | ⟨hline, lines, hreads, hends⟩)
    · exact ⟨[line], .cons hr (.nil _), endsWith_cons_iff.mpr (.inl ⟨hline, rfl⟩)⟩
    · exact ⟨line :: lines, .cons hr hreads, endsWith_cons_iff.mpr (.inr ⟨hline, hends⟩)⟩

/-- Lines are skipped up to the first that names the component. -/
theorem skipToComponent_eq_ok_iff {token : String} :
    p.skipToComponent h timeout token s = (.ok (), t) ↔
      ∃ lines, p.Reads h timeout s lines t ∧ EndsWith (some token) lines := by
  fun_induction skipToComponent h timeout token p s with
  | case1 s line u hr hm =>
    have hmarker : MarkerLine token line := hm
    rw [exists_endsWith_iff hr]
    simp [hmarker]
  | case2 s line u hr hm ih =>
    have hmarker : ¬ MarkerLine token line := hm
    rw [exists_endsWith_iff hr, ih]
    simp [hmarker]
  | case3 s r u hnot hr =>
    constructor
    · intro he
      cases hl : p.lineOf timeout (markerExpected token) r with
      | error e => simp [hl, Except.map] at he
      | ok line => exact absurd (lineOf_eq_ok_iff.mp hl) (hnot line)
    · rintro ⟨lines, hreads, hends⟩
      cases hreads with
      | nil => exact absurd hends not_endsWith_nil
      | cons hl _ =>
        rw [hr] at hl
        cases hl
        exact absurd rfl (hnot _)

/-! ## What becomes of the record -/

/-- The process id in a line that was read, if there is one. -/
def pidIn? : LineRead → Option Nat
  | .line text => pid? (Text.trim text.toList)
  | _ => none

/-- Reading the process id changes nothing else of a process. -/
theorem readPid_fst (h : Host σ) (timeout : Option Duration) (p : Subprocess) (s : σ) :
    (p.readPid h timeout s).2.1 =
      { p with discoveredPid := (pidIn? (p.readLine h timeout s).1).or p.discoveredPid } := by
  unfold readPid expectLine
  generalize p.readLine h timeout s = x
  obtain ⟨r, t⟩ := x
  cases r with
  | line text => cases hn : pid? (Text.trim text.toList) <;> simp [lineOf, pidIn?, hn]
  | ended =>
    obtain ⟨e, he⟩ : ∃ e, p.lineOf timeout pidExpected .ended = .error e := by
      unfold lineOf
      cases p.spawnError <;> exact ⟨_, rfl⟩
    dsimp only
    rw [he]
    rfl
  | timedOut => rfl
  | failed cause => rfl

/-- A handshake changes nothing of a process but the id that it has printed. -/
theorem handshake_fst (h : Host σ) (timeout : Option Duration) (contract : Readiness)
    (p : Subprocess) (s : σ) :
    (p.handshake h timeout contract s).2.1 =
      { p with discoveredPid := (pidIn? (p.readLine h timeout s).1).or p.discoveredPid } := by
  rw [← readPid_fst]
  unfold handshake
  split
  · next hp => rw [hp]
  · next hp =>
    rw [hp]
    split
    · rfl
    · split
      · rfl
      · split <;> rfl

/-! ## The whole handshake -/

/-- A handshake that succeeds has read the lines of its contract. -/
private theorem accepts_of_handshake_eq_ok {contract : Readiness} {pid : Nat}
    (hok : p.handshake h timeout contract s = (.ok pid, q, t)) :
    q = { p with discoveredPid := some pid } ∧
      ∃ lines, p.Reads h timeout s lines t ∧ contract.Accepts pid lines := by
  unfold handshake at hok
  cases hp : p.readPid h timeout s with
  | mk r x =>
  obtain ⟨p', u⟩ := x
  rw [hp] at hok
  cases r with
  | error e => cases hok
  | ok n =>
  obtain ⟨rfl, first, hfirst, hpid⟩ := readPid_eq_ok_iff.mp hp
  dsimp only at hok
  cases ha : readAdapters h timeout { p with discoveredPid := some n } contract.adapters u with
  | mk r v =>
  rw [ha] at hok
  cases r with
  | error e => cases hok
  | ok =>
  obtain ⟨ready, hready, hlen, hall⟩ := readAdapters_eq_ok_iff.mp ha
  -- What is read from the process does not depend on the id that is now known.
  have hbegun : p.Reads h timeout s (first :: ready) v := .cons hfirst (hready.congr rfl)
  cases hn : contract.namedReady with
  | none =>
    simp only [hn] at hok
    cases hok
    exact ⟨rfl, first :: ready, hbegun, first, ready, [], (List.append_nil _).symm, hpid, hlen,
      hall, by rw [hn]; rfl⟩
  | some token =>
    simp only [hn] at hok
    cases hk : skipToComponent h timeout token { p with discoveredPid := some n } v with
    | mk r w =>
    rw [hk] at hok
    cases r with
    | error e => cases hok
    | ok =>
    cases hok
    obtain ⟨component, hcomponent, hnamed⟩ := skipToComponent_eq_ok_iff.mp hk
    exact ⟨rfl, first :: ready ++ component, hbegun.append (hcomponent.congr rfl), first, ready,
      component, rfl, hpid, hlen, hall, hn ▸ hnamed⟩

/-- A process whose lines are those of the contract comes through the handshake. -/
private theorem handshake_eq_ok_of_accepts {contract : Readiness} {pid : Nat} {lines : List String}
    (hreads : p.Reads h timeout s lines t) (haccepts : contract.Accepts pid lines) :
    p.handshake h timeout contract s = (.ok pid, { p with discoveredPid := some pid }, t) := by
  obtain ⟨first, ready, component, rfl, hpid, hlen, hall, hnamed⟩ := haccepts
  cases hreads with
  | cons hfirst hrest =>
    obtain ⟨v, hready, hcomponent⟩ := hrest.of_append
    have hp := readPid_eq_ok_iff.mpr ⟨rfl, first, hfirst, hpid⟩
    have ha : readAdapters h timeout { p with discoveredPid := some pid } contract.adapters _ =
        (.ok (), v) := readAdapters_eq_ok_iff.mpr ⟨ready, hready.congr rfl, hlen, hall⟩
    simp only [handshake, hp, ha]
    cases hn : contract.namedReady with
    | none =>
      rw [hn] at hnamed
      cases hnamed
      cases hcomponent
      rfl
    | some token =>
      rw [hn] at hnamed
      have hk : skipToComponent h timeout token { p with discoveredPid := some pid } v =
          (.ok (), t) := skipToComponent_eq_ok_iff.mpr ⟨component, hcomponent.congr rfl, hnamed⟩
      simp only [hk]

/-- A handshake succeeds exactly when the lines that it reads are those of its contract. It reads
no more, and keeps the process id. -/
theorem handshake_eq_ok_iff {contract : Readiness} {pid : Nat} :
    p.handshake h timeout contract s = (.ok pid, q, t) ↔
      q = { p with discoveredPid := some pid } ∧
      ∃ lines, p.Reads h timeout s lines t ∧ contract.Accepts pid lines := by
  constructor
  · exact accepts_of_handshake_eq_ok
  · rintro ⟨rfl, lines, hreads, haccepts⟩
    exact handshake_eq_ok_of_accepts hreads haccepts

/-- A process that never ran, or whose output was given away, comes through no handshake. -/
theorem source?_of_handshake_eq_ok {contract : Readiness} {pid : Nat}
    (hok : p.handshake h timeout contract s = (.ok pid, q, t)) :
    ∃ child, p.source? = some child := by
  obtain ⟨-, lines, hreads, first, ready, component, rfl, -⟩ := handshake_eq_ok_iff.mp hok
  cases hreads with
  | cons hfirst _ => exact source?_of_readLine hfirst

end ClusterHarness.Subprocess
