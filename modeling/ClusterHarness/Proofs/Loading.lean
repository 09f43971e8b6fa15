import ClusterHarness.Plan.Reading
import ClusterHarness.Proofs.CommandLine.Forbidden
import ClusterHarness.Proofs.Subprocess.Failing
import ClusterHarness.Suite.Manifest

/-!
# Loading plans and manifests

What is loaded from a file is what its document says, and is valid. A file from which nothing can be
loaded gives a failure without a status.
-/

namespace ClusterHarness

/-! ## Plans -/

namespace Plan

/-- A plan that is loaded from a file is that of its document, resolved from the directory of the
file. -/
theorem ofFile_eq_ok_iff {path : Path} {content : Except IoError String} {plan : Plan} :
    Plan.ofFile path content = .ok plan ↔
      ∃ text document, content = .ok text ∧ Plan.ofToml text = .ok document ∧
        plan = document.resolve (path.parent.getD ⟨"."⟩) := by
  cases content with
  | error cause => simp [ofFile]
  | ok text => cases hd : ofToml text <;> simp [ofFile, hd, Except.map, eq_comm]

private theorem statusless_validateStep (role label command : String) :
    Statusless (validateStep role label command) := by
  refine .refuse rfl ?_
  cases CommandLine.parse command with
  | error e => exact .error rfl
  | ok c => exact .ok ()

private theorem statusless_validateNode (n : NodePlan) : Statusless (validateNode n) := by
  refine .refuse rfl ?_
  split
  · exact .ok ()
  · exact .error rfl

private theorem statusless_validate (p : Plan) : Statusless p.validate := by
  refine .refuse rfl <| .refuse rfl <| .refuse rfl <| .refuse rfl ?_
  refine .bind ?_ fun _ ↦ .bind (.forM (fun _ ↦ statusless_validateStep _ _ _) _) fun _ ↦
    .forM (fun _ ↦ statusless_validateStep _ _ _) _
  cases p.node with
  | none => exact .ok ()
  | some n => exact statusless_validateNode n

/-- A plan that cannot be loaded gives a failure without a status. -/
theorem statusless_ofFile (path : Path) (content : Except IoError String) :
    Statusless (ofFile path content) := by
  cases content with
  | error cause => exact .error rfl
  | ok text =>
    refine .map ?_ _
    unfold ofToml
    split
    · exact .error rfl
    · exact (statusless_validate _).bind fun _ ↦ .ok _

end Plan

/-! ## Manifests -/

namespace Suite

private theorem Test.statusless_validate (t : Test) : Statusless t.validate := by
  refine .refuse rfl ?_
  split
  · exact .error rfl
  · exact .ok ()

namespace Manifest

/-- A manifest that is loaded from a file is that of its document, with its root counted from the
directory of the file. -/
theorem ofFile_eq_ok_iff {path : Path} {content : Except IoError String}
    {suite : Manifest} :
    ofFile path content = .ok suite ↔
      ∃ text document, content = .ok text ∧ ofToml text = .ok document ∧
        suite = { document with root := (path.parent.getD ⟨"."⟩).join document.root } := by
  cases content with
  | error cause => simp [ofFile]
  | ok text => cases hd : ofToml text <;> simp [ofFile, hd, Except.map, eq_comm]

private theorem statusless_validate (m : Manifest) : Statusless m.validate :=
  .refuse rfl (.forM (fun t ↦ t.statusless_validate) _)

/-- A manifest that cannot be loaded gives a failure without a status. -/
theorem statusless_ofFile (path : Path) (content : Except IoError String) :
    Statusless (ofFile path content) := by
  cases content with
  | error cause => exact .error rfl
  | ok text =>
    refine .map ?_ _
    unfold ofToml
    split
    · exact .error rfl
    · exact (statusless_validate _).bind fun _ ↦ .ok _

/-- A manifest that is loaded has a test. -/
theorem tests_ne_nil_of_ofFile {path : Path} {content : Except IoError String} {m : Manifest}
    (h : ofFile path content = .ok m) : m.tests ≠ [] := by
  obtain ⟨text, document, -, hread, rfl⟩ := ofFile_eq_ok_iff.mp h
  unfold ofToml at hread
  split at hread
  · cases hread
  · next d hd =>
    obtain ⟨hvalid, hdocument⟩ := bind_eq_ok_iff.mp hread
    cases hdocument
    simpa using (refuse_eq_ok_iff.mp hvalid).1

end Manifest
end Suite
end ClusterHarness
