import ClusterHarness.Admin.Runner
import ClusterHarness.Proofs.Admin.Payload
import ClusterHarness.Proofs.CommandLine.Forbidden
import ClusterHarness.Proofs.Subprocess.Noting

/-!
# Refusing forbidden characters

An admin call is refused exactly if its tool has no program, or if a text that it would hand on
holds a forbidden character, through whichever layers of quoting that text goes. A process is
launched under the same condition. What is refused asks nothing of the host; what is not asks it for
one process, with the program and arguments of the command line.
-/

namespace ClusterHarness

open CommandLine (HoldsForbidden)

variable {σ : Type}

/-! ## Texts that a call hands on -/

namespace Admin

namespace Operation

/-- An operation with a field that holds a forbidden character. -/
def HoldsForbidden : Operation → Prop
  | applicationAdd descriptor targets =>
    CommandLine.HoldsForbidden descriptor.text ∨
      ∃ target ∈ targets, CommandLine.HoldsForbidden target
  | applicationRemove descriptor => CommandLine.HoldsForbidden descriptor.text
  | serverAdd node name descriptor executable libraryPath targets =>
    CommandLine.HoldsForbidden node ∨ CommandLine.HoldsForbidden name ∨
      CommandLine.HoldsForbidden descriptor.text ∨ CommandLine.HoldsForbidden executable.text ∨
      CommandLine.HoldsForbidden libraryPath ∨
      ∃ target ∈ targets, CommandLine.HoldsForbidden target
  | serverRemove name => CommandLine.HoldsForbidden name
  | serverStart name => CommandLine.HoldsForbidden name
  | adapterList => False
  | shutdown => False
  | nodeShutdown node => CommandLine.HoldsForbidden node

/-- No field is left out of the arguments. -/
theorem exists_holdsForbidden_arguments_iff {o : Operation} :
    (∃ arg ∈ o.arguments, CommandLine.HoldsForbidden arg) ↔ o.HoldsForbidden := by
  cases o <;> simp [arguments, HoldsForbidden]

private theorem not_holdsForbidden_verbWords (o : Operation) :
    ¬ ∃ word ∈ o.verbWords, CommandLine.HoldsForbidden word := by
  cases o <;> simp [verbWords, CommandLine.HoldsForbidden]

/-- The payload holds what the fields hold. -/
theorem holdsForbidden_render {o : Operation} :
    CommandLine.HoldsForbidden o.render ↔ o.HoldsForbidden := by
  rw [render_eq_join, CommandLine.holdsForbidden_join, ← exists_holdsForbidden_arguments_iff]
  unfold words
  simp only [List.mem_append, or_and_right, exists_or]
  exact or_iff_right o.not_holdsForbidden_verbWords

end Operation

namespace Tool

/-- A call without a program, or that would hand on a forbidden character. -/
def Refuses (tool : Tool) (locator : String) (o : Operation) : Prop :=
  tool.binary = "" ∨ HoldsForbidden tool.binary ∨
    (∃ option ∈ tool.options, HoldsForbidden option) ∨ HoldsForbidden tool.locatorFlag ∨
    HoldsForbidden locator ∨ o.HoldsForbidden

private theorem refused_invocation_iff {tool : Tool} {locator : String} {o : Operation} :
    (tool.invocation locator o).Refused ↔ tool.Refuses locator o := by
  have hequals : ¬ HoldsForbidden "=" := by simp [HoldsForbidden]
  have hflag : ¬ HoldsForbidden "-e" := by simp [HoldsForbidden]
  simp [CommandLine.Refused, Refuses, invocation, or_and_right, exists_or,
    CommandLine.holdsForbidden_append, Operation.holdsForbidden_render, hequals, hflag, or_assoc]

end Tool
end Admin

/-! ## What is asked for a command line -/

namespace Admin

private theorem emitLines_logged (h : Host σ) (text : List Char) (past : List Host.Request)
    (s : σ) :
    (emitLines h.logged text (past, s)).1 =
      past ++ ((Text.lines text).map String.ofList).map (.emit label ·) := by
  unfold emitLines
  induction Text.lines text generalizing past s with
  | nil => simp
  | cons line lines ih =>
    rw [List.foldl_cons, List.map_cons, List.map_cons, List.append_cons]
    exact ih _ _

variable {h : Host σ} {tool : Tool} {site : Site} {locator : String} {o : Operation} {s : σ}

private theorem viaTool_of_refuses (hr : tool.Refuses locator o) :
    ∃ fault, viaTool h tool site locator o s = (.error (.badCommandLine fault), s) := by
  obtain ⟨fault, hfault⟩ :=
    CommandLine.exists_validate_eq_error_iff.mpr (Tool.refused_invocation_iff.mpr hr)
  refine ⟨fault, ?_⟩
  unfold viaTool
  dsimp only
  rw [hfault]

/-- A call that is not refused runs the tool once, and then shows what the tool has written. -/
theorem viaTool_logged (hr : ¬ tool.Refuses locator o) :
    (∀ fault, (viaTool h.logged tool site locator o ([], s)).1 ≠
        .error (.badCommandLine fault)) ∧
      ∃ lines : List String, (viaTool h.logged tool site locator o ([], s)).2.1 =
        .capture (site.process (tool.invocation locator o)) :: lines.map (.emit label ·) := by
  have hok := CommandLine.validate_eq_ok_iff.mpr (mt Tool.refused_invocation_iff.mp hr)
  unfold viaTool
  dsimp only
  rw [hok]
  dsimp only [Host.logged, Host.noting]
  cases h.capture _ s with
  | mk r t =>
  cases r with
  | error e => exact ⟨nofun, [], rfl⟩
  | ok c => exact ⟨nofun, _, emitLines_logged h _ _ t⟩

end Admin

namespace Subprocess

variable {h : Host σ} {site : Site} {label : String} {command : CommandLine} {s : σ}

/-- A launch that is refused gives a failed process and does not touch the host. -/
theorem launch_of_refused (hr : command.Refused) : ∃ fault, command.validate = .error fault ∧
    launch h site label command s =
      (failed label (Failure.badCommandLine fault).message, s) := by
  obtain ⟨fault, hfault⟩ := CommandLine.exists_validate_eq_error_iff.mpr hr
  refine ⟨fault, hfault, ?_⟩
  unfold launch
  rw [hfault]

/-- A launch that is not refused asks for one process, and for nothing else. -/
theorem launch_logged (hr : ¬ command.Refused) :
    (launch h.logged site label command ([], s)).2.1 =
      [.spawn (site.process command) (errorsLabel label)
        (launch h.logged site label command ([], s)).1.child] := by
  unfold Host.logged
  rw [launch_noting, launchRequests, CommandLine.validate_eq_ok_iff.mpr hr]
  rfl

end Subprocess

/-- Forbidden characters reach no process, and no layer of quoting hides or invents one. An admin
call fails with a bad command line, having asked its host for nothing, exactly if its tool has no
program or the program, an option, the flag, the locator or a field of the operation holds one;
otherwise the tool is run once with the command line of the call. A process is launched under the
same condition on its command line: if it is refused, the process never ran for that very reason,
and otherwise the host is asked for just its program and arguments. -/
theorem forbidden_reaches_no_process (h : Host σ) (site : Site) (s : σ) :
    (∀ (tool : Admin.Tool) (locator : String) (o : Admin.Operation),
      let run := Admin.viaTool h.logged tool site locator o ([], s)
      (tool.Refuses locator o ↔ ∃ fault, run = (.error (.badCommandLine fault), [], s)) ∧
      (¬ tool.Refuses locator o →
        (∀ fault, run.1 ≠ .error (.badCommandLine fault)) ∧
        ∃ lines : List String, run.2.1 =
          .capture (site.process (tool.invocation locator o)) ::
            lines.map (.emit Admin.label ·))) ∧
    ∀ (label : String) (command : CommandLine),
      let launched := Subprocess.launch h.logged site label command ([], s)
      (command.Refused → ∃ fault, command.validate = .error fault ∧
        launched = (.failed label (Failure.badCommandLine fault).message, [], s)) ∧
      (¬ command.Refused →
        launched.2.1 =
          [.spawn (site.process command) (Subprocess.errorsLabel label) launched.1.child]) := by
  constructor
  · intro tool locator o run
    refine ⟨⟨Admin.viaTool_of_refuses, fun ⟨fault, hfault⟩ ↦ ?_⟩, Admin.viaTool_logged⟩
    refine Classical.byContradiction fun hr ↦ ?_
    exact (Admin.viaTool_logged hr).1 fault (congrArg Prod.fst hfault)
  · intro label command launched
    exact ⟨Subprocess.launch_of_refused, Subprocess.launch_logged⟩

end ClusterHarness
