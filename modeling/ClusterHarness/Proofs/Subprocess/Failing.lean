import ClusterHarness.Proofs.Subprocess.Handshake

/-!
# Failures with and without a status

A failure stands for a child that ended with a status, or for none. The harness takes over the
status where there is one. Bringing a process up and waiting for its end never fail with a status:
whether the status of a child is a failure is decided by those who asked for it.
-/

namespace ClusterHarness

variable {σ α β : Type}

namespace Failure

/-- The status of the child that a failure is about. -/
def status? : Failure → Option Int
  | adminFailed _ status _ | stepFailed _ status | testFailed _ status => some status
  | _ => none

/-- A failure ends the program with its status, or with 1. -/
theorem exitCode_eq (e : Failure) : e.exitCode = (e.status?.map nonzero).getD 1 := by
  cases e <;> rfl

private theorem nonzero_ne_zero (status : Int) : nonzero status ≠ 0 := by
  unfold nonzero
  split <;> omega

/-- No failure ends the harness with status zero. -/
theorem exitCode_ne_zero (e : Failure) : e.exitCode ≠ 0 := by
  rw [exitCode_eq]
  cases e.status? with
  | none => exact Int.one_ne_zero
  | some status => exact nonzero_ne_zero status

end Failure

/-- A result is statusless if it is no failure that carries a status. -/
def Statusless (r : Except Failure α) : Prop := ∀ e, r = .error e → e.status? = none

namespace Statusless

/-- What succeeds carries no status. -/
theorem ok (a : α) : Statusless (.ok a) := fun _ h ↦ nomatch h

/-- A failure without a status carries none. -/
theorem error {e : Failure} (he : e.status? = none) : Statusless (.error e : Except Failure α) := by
  rintro _ ⟨⟩
  exact he

/-- What a failure is passed on as makes no difference. -/
theorem of_error {e : Failure} (h : Statusless (.error e : Except Failure α)) :
    Statusless (.error e : Except Failure β) :=
  error (h e rfl)

/-- Computations that carry no status may follow each other. -/
theorem bind {x : Except Failure α} {f : α → Except Failure β} (hx : Statusless x)
    (hf : ∀ a, Statusless (f a)) : Statusless (x >>= f) := by
  cases x with
  | error e => exact of_error hx
  | ok a => exact hf a

/-- Changing the result brings in no status. -/
theorem map {x : Except Failure α} (hx : Statusless x) (f : α → β) : Statusless (x.map f) := by
  cases x with
  | error e => exact of_error hx
  | ok a => exact ok _

/-- A check brings in no status if its failure has none. -/
theorem refuse {c : Prop} [Decidable c] {e : Failure} (he : e.status? = none)
    {x : Except Failure α} (hx : Statusless x) :
    Statusless (if c then throw e >>= fun (_ : Unit) ↦ x else x) := by
  split
  · exact error he
  · exact hx

/-- Checks of all values of a list bring in no status if none of them does. -/
theorem forM {f : α → Except Failure Unit} (hf : ∀ a, Statusless (f a)) (xs : List α) :
    Statusless (xs.forM f) := by
  induction xs with
  | nil => exact ok ()
  | cons x xs ih => exact (hf x).bind fun _ ↦ ih

end Statusless

namespace Subprocess

open Statusless

variable (h : Host σ) (p : Subprocess) (s : σ)

private theorem statusless_lineOf (timeout : Option Duration) (expected : String) (r : LineRead) :
    Statusless (p.lineOf timeout expected r) := by
  cases r with
  | line => exact ok _
  | ended => cases he : p.spawnError <;> simp only [lineOf, he] <;> exact error rfl
  | timedOut => exact error rfl
  | failed => exact error rfl

private theorem statusless_expectLine (timeout : Option Duration) (expected : String) :
    Statusless (p.expectLine h timeout expected s).1 :=
  p.statusless_lineOf timeout expected _

private theorem statusless_readPid (timeout : Option Duration) :
    Statusless (p.readPid h timeout s).1 := by
  have hline := p.statusless_expectLine h s timeout pidExpected
  unfold readPid
  cases he : p.expectLine h timeout pidExpected s with
  | mk r t =>
  rw [he] at hline
  cases r with
  | error e => exact of_error hline
  | ok line =>
    dsimp only
    split
    · exact ok _
    · exact error rfl

private theorem statusless_readAdapter (timeout : Option Duration) :
    Statusless (p.readAdapter h timeout s).1 := by
  have hline := p.statusless_expectLine h s timeout adapterExpected
  unfold readAdapter
  cases he : p.expectLine h timeout adapterExpected s with
  | mk r t =>
  rw [he] at hline
  cases r with
  | error e => exact of_error hline
  | ok line =>
    dsimp only
    split
    · exact ok _
    · exact error rfl

private theorem statusless_readAdapters (timeout : Option Duration) (n : Nat) :
    Statusless (p.readAdapters h timeout n s).1 := by
  induction n generalizing s with
  | zero => exact ok _
  | succ n ih =>
    have hone := p.statusless_readAdapter h s timeout
    unfold readAdapters
    cases ha : p.readAdapter h timeout s with
    | mk r t =>
    rw [ha] at hone
    cases r with
    | error e => exact hone
    | ok => exact ih t

private theorem statusless_skipToComponent (timeout : Option Duration) (token : String) :
    Statusless (p.skipToComponent h timeout token s).1 := by
  fun_induction skipToComponent h timeout token p s with
  | case1 => exact ok _
  | case2 s line t hr hm ih => exact ih
  | case3 s r t hnot hr =>
    have hline := p.statusless_lineOf timeout (markerExpected token) r
    dsimp only
    cases he : p.lineOf timeout (markerExpected token) r with
    | error e => exact of_error (he ▸ hline)
    | ok => exact ok _

/-- A handshake that fails carries no status. -/
theorem statusless_handshake (timeout : Option Duration) (contract : Readiness) :
    Statusless (p.handshake h timeout contract s).1 := by
  have hpid := p.statusless_readPid h s timeout
  unfold handshake
  cases hp : p.readPid h timeout s with
  | mk r x =>
  obtain ⟨q, t⟩ := x
  rw [hp] at hpid
  cases r with
  | error e => exact hpid
  | ok pid =>
  have hadapters := q.statusless_readAdapters h t timeout contract.adapters
  dsimp only
  cases ha : q.readAdapters h timeout contract.adapters t with
  | mk r u =>
  rw [ha] at hadapters
  cases r with
  | error e => exact of_error hadapters
  | ok =>
  dsimp only
  cases contract.namedReady with
  | none => exact ok _
  | some token =>
  have hskip := q.statusless_skipToComponent h u timeout token
  dsimp only
  cases hk : q.skipToComponent h timeout token u with
  | mk r v =>
  rw [hk] at hskip
  cases r with
  | error e => exact of_error hskip
  | ok => exact ok _

end Subprocess
end ClusterHarness
