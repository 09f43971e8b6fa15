import ClusterHarness.Subprocess

/-!
# The end of a managed process

A process that was started comes to an end with a status, however it is waited for. Waiting and
killing never change which process a record is about. Only a process that ends by itself, and with
status zero, counts as zero.
-/

namespace ClusterHarness

variable {σ : Type}

/-! ## Statuses -/

namespace WaitStatus

/-- Death by a signal never counts as zero. -/
theorem exitCode_eq_zero_iff {w : WaitStatus} : w.exitCode = 0 ↔ w = .exited 0 := by
  cases w with
  | exited code => simp [exitCode]
  | signaled signal =>
    simp only [exitCode, reduceCtorEq, iff_false]
    omega

end WaitStatus

/-- How a child ends whose input is closed now, and which is killed when the limit has passed. -/
def Host.endingWithin (h : Host σ) (child : Child) (limit : Duration) (s : σ) : WaitStatus :=
  match h.waitUpTo child limit (h.closeInput child s) with
  | (some status, _) => status
  | (none, s) => (h.kill child s).1

namespace Subprocess

variable {h : Host σ}

/-! ## Launching -/

/-- A launch gives a process that has just started, or one that never ran. -/
theorem launch_cases (h : Host σ) (site : Site) (label : String) (command : CommandLine) (s : σ) :
    (∃ reason, (launch h site label command s).1 = failed label reason) ∨
      ∃ child, (launch h site label command s).1 =
        { label, child := some child, inputOpen := true, outputOpen := true,
          errorsDrained := true } := by
  unfold launch
  split
  · next e _ => exact .inl ⟨_, rfl⟩
  · dsimp only
    split
    · exact .inl ⟨_, rfl⟩
    · next child t _ => exact .inr ⟨child, rfl⟩

/-- A process has the label that it was launched with. -/
theorem launch_label (h : Host σ) (site : Site) (label : String) (command : CommandLine) (s : σ) :
    (launch h site label command s).1.label = label := by
  cases launch_cases h site label command s with
  | inl hf =>
    obtain ⟨_, hf⟩ := hf
    rw [hf]
    rfl
  | inr hf =>
    obtain ⟨_, hf⟩ := hf
    rw [hf]

/-! ## Which process a record is about -/

/-- A process that is killed keeps its label. -/
theorem kill_label (h : Host σ) (p : Subprocess) (s : σ) :
    (p.kill h s).1.label = p.label := by
  unfold kill
  cases p.child with
  | none => rfl
  | some child => cases he : p.exitCode <;> simp

/-! ## The status of a process whose end was not noticed -/

section

variable {p : Subprocess} {child : Child}

/-- A process whose end was noticed is not waited for. -/
theorem endWithin_of_exitCode {code : Int} (hcode : p.exitCode = some code)
    (limit : Duration) (s : σ) : p.endWithin h limit s = (.ok code, s) := by
  simp [endWithin, waitUpTo, running?, outcome, hcode]

variable (hchild : p.child = some child) (hnew : p.exitCode = none)
include hchild hnew

/-- A process that is killed gets the status of the killed child. -/
theorem kill_exitCode (s : σ) : (p.kill h s).1.exitCode = some (h.kill child s).1.exitCode := by
  simp [kill, hchild, hnew]

/-- A process that is waited for within a limit gets the status that its child ends with. -/
theorem endWithin_eq (limit : Duration) (s : σ) :
    (p.endWithin h limit s).1 = .ok (h.endingWithin child limit s).exitCode := by
  have hrunning : p.running? = some child := by simp [running?, hchild, hnew]
  unfold endWithin waitUpTo Host.endingWithin
  rw [hrunning]
  dsimp only
  cases h.waitUpTo child limit (h.closeInput child s) with
  | mk status t =>
  cases status with
  | some status => rfl
  | none =>
    have hkilled := kill_exitCode (h := h) (p := { p with inputOpen := false }) hchild hnew t
    have hnot : (Subprocess.kill h { p with inputOpen := false } t).1.running? = none := by
      simp [running?, hkilled]
    unfold wait
    dsimp only
    rw [hnot]
    simp [outcome, hkilled]

/-- A process that ends in time once its input is closed ends with its own status. -/
theorem endWithin_of_waitUpTo {limit : Duration} {s : σ} {status : WaitStatus}
    (hw : (h.waitUpTo child limit (h.closeInput child s)).1 = some status) :
    (p.endWithin h limit s).1 = .ok status.exitCode := by
  rw [endWithin_eq hchild hnew]
  unfold Host.endingWithin
  cases he : h.waitUpTo child limit (h.closeInput child s) with
  | mk r t =>
  rw [he] at hw
  cases hw
  rfl

end

end Subprocess
end ClusterHarness
