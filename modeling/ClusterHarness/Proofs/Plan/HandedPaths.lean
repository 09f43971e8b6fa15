import ClusterHarness.Fixture.Run
import ClusterHarness.Machine.Hosting
import ClusterHarness.Proofs.FileTree.Standpoint
import ClusterHarness.Proofs.Loading

/-!
# The paths that a plan hands to its processes

The programs, descriptors and data directories of a plan are paths that the harness puts together
from the directory of the plan, and looks at from its own. The processes of the plan are given the
same paths and start in the test directory. A path with an absolute part means the same to both; any
other does so only where both walks turn at the same directory.
-/

namespace ClusterHarness

namespace Admin.Operation

/-- The paths among the arguments of an operation. -/
def paths : Operation → List Path
  | applicationAdd descriptor _ => [descriptor]
  | applicationRemove descriptor => [descriptor]
  | serverAdd _ _ descriptor executable _ _ => [descriptor, executable]
  | _ => []

private theorem paths_resolve (base : Path) (o : Operation) :
    (o.resolve base).paths = o.paths.map base.join := by
  cases o <;> rfl

end Admin.Operation

namespace Plan

open FileTree

/-- A program that is a single component is looked up by its name. -/
def IsBare (binary : String) : Prop := (Path.mk binary).componentCount = 1

/-- The paths that the processes of a plan are given, each with the parts of the document that it is
put together from. The plan is the one that is resolved from `base`. -/
inductive Hands (document : Plan) (base : Path) (isFile : Path → Bool) : Path → List Path → Prop
  | registry : ¬ IsBare document.registry.binary →
    Hands document base isFile ⟨(document.resolve base).registryLine.program⟩
      [⟨document.registry.binary⟩]
  | node {written resolved : NodePlan} : document.node = some written →
    (document.resolve base).node = some resolved → ¬ IsBare written.service.binary →
    Hands document base isFile ⟨((document.resolve base).nodeLine resolved).program⟩
      [⟨written.service.binary⟩]
  | admin (locator : String) (command : Admin.Operation) : ¬ IsBare document.admin.binary →
    Hands document base isFile ⟨((document.resolve base).admin.invocation locator command).program⟩
      [⟨document.admin.binary⟩]
  /-- A program of a server or client that is found in the test directory. -/
  | program {template : String} {written command : CommandLine} :
    template ∈ document.servers.map (·.command) ++ document.clients.map (·.command) →
    CommandLine.parse ((document.resolve base).expand template) = .ok written →
    (Path.mk written.program).isAbsolute = false →
    isFile ((document.resolve base).localProgram written.program) = true →
    (document.resolve base).scenarioLine isFile template = .ok command →
    Hands document base isFile ⟨command.program⟩ [document.testDir, ⟨written.program⟩]
  /-- A descriptor or executable of an admin command. -/
  | operand {command : Admin.Operation} {i : Nat} {written handed : Path} :
    command ∈ document.provision ++ document.deprovision → command.paths[i]? = some written →
    (command.resolve (document.resolve base).testDir).paths[i]? = some handed →
    Hands document base isFile handed [document.testDir, written]
  | registryData : Hands document base isFile (document.resolve base).registryData
    [document.testDir]
  | nodeData : document.node.isSome →
    Hands document base isFile (document.resolve base).nodeData [document.testDir]

variable {document : Plan} {base p : Path} {isFile : Path → Bool} {parts : List Path}

/-- A program that is not looked up by its name counts from the root if it or the base does. -/
theorem isAbsolute_resolveProgram {binary : String} (h : ¬ IsBare binary) :
    (Path.mk (resolveProgram base binary)).isAbsolute ↔
      base.isAbsolute ∨ (Path.mk binary).isAbsolute := by
  unfold resolveProgram
  by_cases habs : (Path.mk binary).isAbsolute
  · simp [habs]
  · have hjoin := Path.isAbsolute_join base ⟨binary⟩
    rw [Bool.not_eq_true] at habs
    rw [habs, Bool.false_or] at hjoin
    simp [habs, beq_eq_false_iff_ne.mpr h, ← hjoin]

/-- A program that is found in the test directory is run from there. -/
theorem program_of_scenarioLine {p : Plan} {template : String} {written command : CommandLine}
    (hwritten : CommandLine.parse (p.expand template) = .ok written)
    (hrel : (Path.mk written.program).isAbsolute = false)
    (hfile : isFile (p.localProgram written.program) = true)
    (h : p.scenarioLine isFile template = .ok command) :
    Path.mk command.program = p.localProgram written.program := by
  unfold scenarioLine at h
  rw [hwritten] at h
  simp only [hrel, hfile, Bool.not_false, Bool.and_self, if_true] at h
  cases h
  rfl

/-- A data directory counts from the root if the test directory does. -/
theorem isAbsolute_dataRoot_join (p : Plan) {name : Path} (h : name.isAbsolute = false) :
    (p.dataRoot.join name).isAbsolute = p.testDir.isAbsolute := by
  have hdata : (Path.mk "db").isAbsolute = false := by decide
  unfold dataRoot
  rw [Path.isAbsolute_join, Path.isAbsolute_join, h, hdata, Bool.false_or, Bool.false_or]

/-- A path counts from the root if the base or one of its parts does. -/
theorem Hands.isAbsolute_iff (h : document.Hands base isFile p parts) :
    p.isAbsolute ↔ base.isAbsolute ∨ ∃ part ∈ parts, part.isAbsolute := by
  have hdir : (document.resolve base).testDir = base.join document.testDir := rfl
  cases h with
  | registry hbare => exact (isAbsolute_resolveProgram hbare).trans (by simp)
  | @node written resolved hwritten hresolved hbare =>
    have hnode : resolved.service.binary = resolveProgram base written.service.binary := by
      simp only [resolve, hwritten, Option.map_some, Option.some.injEq] at hresolved
      rw [← hresolved]
    rw [show ((document.resolve base).nodeLine resolved).program = _ from hnode]
    exact (isAbsolute_resolveProgram hbare).trans (by simp)
  | admin locator command hbare => exact (isAbsolute_resolveProgram hbare).trans (by simp)
  | @program template written command _ hwritten hrel hfile hline =>
    rw [program_of_scenarioLine hwritten hrel hfile hline]
    simp [localProgram, hdir, Path.isAbsolute_join, hrel, or_comm]
  | @operand command i written _ _ hwritten hhanded =>
    rw [Admin.Operation.paths_resolve, List.getElem?_map, hwritten, Option.map_some,
      Option.some.injEq] at hhanded
    subst hhanded
    simp [hdir, Path.isAbsolute_join, or_comm, or_left_comm]
  | registryData =>
    unfold Plan.registryData
    rw [isAbsolute_dataRoot_join _ (by decide), hdir]
    simp [Path.isAbsolute_join, or_comm]
  | nodeData =>
    unfold Plan.nodeData
    rw [isAbsolute_dataRoot_join _ (by decide), hdir]
    simp [Path.isAbsolute_join, or_comm]

/-- What the paths of a plan mean to its processes, whatever the files are by then. If the path of
the plan file or a part of the handed path is absolute, a process finds the same by it as the
harness does. Otherwise it finds what the harness finds exactly if it can walk the path and both
walks turn at the same directory. -/
theorem handed_paths_agree_iff {m : Machine} {path : Path} {plan : Plan}
    (h : Plan.ofFile path (Machine.host.readText path m) = .ok plan) :
    ∃ text document, Machine.host.readText path m = .ok text ∧ Plan.ofToml text = .ok document ∧
      plan = document.resolve (path.parent.getD ⟨"."⟩) ∧
      ∀ later : Machine, later.directory = m.directory →
      ∀ there, later.startDirectory (Fixture.Setup.siteOf plan).directory = .ok there →
      ∀ isFile p parts, document.Hands (path.parent.getD ⟨"."⟩) isFile p parts →
        (path.isAbsolute ∨ (∃ part ∈ parts, part.isAbsolute) →
          later.files.resolve there p = later.files.resolve m.directory p) ∧
        (¬ (path.isAbsolute ∨ ∃ part ∈ parts, part.isAbsolute) →
          ∀ place, later.files.locate m.directory p = .ok place →
            (later.files.locate there p = .ok place ↔
              (∃ other, later.files.locate there p = .ok other) ∧
                turning there p = turning m.directory p)) := by
  obtain ⟨text, document, hread, hdocument, rfl⟩ := ofFile_eq_ok_iff.mp h
  refine ⟨text, document, hread, hdocument, rfl, fun later _ there _ isFile p parts hands ↦ ?_⟩
  obtain ⟨d, hd, hbase⟩ := exists_parent (meansDirectory_of_readText_eq_ok hread)
  rw [hd, Option.getD_some] at hands
  rw [← hbase, ← hands.isAbsolute_iff]
  exact ⟨fun habs ↦ resolve_of_isAbsolute habs _ _ _, fun hrel place hplace ↦
    (locate_eq_iff hplace).trans (or_iff_right hrel)⟩

/-! ## One plan, named by two paths -/

def nestedDocument : String :=
  "name=\"x\"\ntest_dir=\"t\"\nport=1\nadmin.binary=\"admin\"\nregistry.binary=\"bin/reg\"\n"

def nestedPlan : Plan where
  name := "x"
  testDir := ⟨"t"⟩
  port := 1
  admin := { binary := "admin" }
  registry := { binary := "bin/reg" }

/-- A machine with a plan in a directory of its own, beside its registry and its test directory. -/
def nestedMachine : Machine where
  files := .directory [("work", .directory [("plans", .directory [
    ("plan.toml", .file (Text.toBytes nestedDocument) false),
    ("bin", .directory [("reg", .file (Text.toBytes "#!/bin/sh\n") true)]),
    ("t", .directory [])])])]
  directory := ["work"]

/-- The machine after the plan, found in `base`, has had its data directories emptied. -/
def emptiedMachine (base : Path) : Machine :=
  (Fixture.emptyDataDirs Machine.host (nestedPlan.resolve base) nestedMachine).2

/-- The document is that of the plan. -/
theorem ofToml_nestedDocument : Plan.ofToml nestedDocument = .ok nestedPlan := by decide +kernel

/-- Wherever the document is, the plan that is loaded is resolved from there. -/
theorem ofFile_nestedMachine {path : Path}
    (h : Machine.host.readText path nestedMachine = .ok nestedDocument) :
    Plan.ofFile path (Machine.host.readText path nestedMachine) =
      .ok (nestedPlan.resolve (path.parent.getD ⟨"."⟩)) :=
  ofFile_eq_ok_iff.mpr ⟨_, _, h, ofToml_nestedDocument, rfl⟩

/-- With an absolute path of the plan the registry finds the data directory that was emptied. -/
theorem absolute_plan_hands_same_data :
    isDirectoryAt (emptiedMachine ⟨"/work/plans"⟩).files ["work", "plans", "t"]
      (nestedPlan.resolve ⟨"/work/plans"⟩).registryData = true := by
  have hread : Machine.host.readText ⟨"/work/plans/plan.toml"⟩ nestedMachine =
      .ok nestedDocument := by decide +kernel
  have hbase : (Path.mk "/work/plans/plan.toml").parent.getD ⟨"."⟩ = ⟨"/work/plans"⟩ := by
    decide +kernel
  have hplan := ofFile_nestedMachine hread
  obtain ⟨text, document, htext, hparsed, -, hall⟩ := handed_paths_agree_iff hplan
  cases hread.symm.trans htext
  cases ofToml_nestedDocument.symm.trans hparsed
  rw [hbase] at hall
  have hagree := (hall (emptiedMachine ⟨"/work/plans"⟩) (by decide +kernel) ["work", "plans", "t"]
    (by decide +kernel) (fun _ ↦ false) _ _ .registryData).1 (.inl rfl)
  unfold isDirectoryAt
  rw [hagree]
  decide +kernel

/-- With a relative path of the plan the registry finds neither that nor its own program, which the
harness both sees. -/
theorem relative_plan_hands_other_paths :
    Plan.ofFile ⟨"plans/plan.toml"⟩ (Machine.host.readText ⟨"plans/plan.toml"⟩ nestedMachine) =
        .ok (nestedPlan.resolve ⟨"plans"⟩) ∧
      nestedMachine.startDirectory (Fixture.Setup.siteOf (nestedPlan.resolve ⟨"plans"⟩)).directory =
        .ok ["work", "plans", "t"] ∧
      isFileAt nestedMachine.files nestedMachine.directory
        ⟨(nestedPlan.resolve ⟨"plans"⟩).registryLine.program⟩ = true ∧
      isFileAt nestedMachine.files ["work", "plans", "t"]
        ⟨(nestedPlan.resolve ⟨"plans"⟩).registryLine.program⟩ = false ∧
      isDirectoryAt (emptiedMachine ⟨"plans"⟩).files nestedMachine.directory
        (nestedPlan.resolve ⟨"plans"⟩).registryData = true ∧
      isDirectoryAt (emptiedMachine ⟨"plans"⟩).files ["work", "plans", "t"]
        (nestedPlan.resolve ⟨"plans"⟩).registryData = false := by
  have hbase : (Path.mk "plans/plan.toml").parent.getD ⟨"."⟩ = ⟨"plans"⟩ := by decide +kernel
  refine ⟨hbase ▸ ofFile_nestedMachine (by decide +kernel), by decide +kernel, by decide +kernel,
    by decide +kernel, by decide +kernel, by decide +kernel⟩

end Plan
end ClusterHarness
