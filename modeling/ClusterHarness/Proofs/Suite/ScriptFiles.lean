import ClusterHarness.Machine.Hosting
import ClusterHarness.Proofs.FileTree.Standpoint
import ClusterHarness.Proofs.Loading
import ClusterHarness.Suite.Scripts

/-!
# The script files of a suite

A manifest names its scripts from its own directory. The process that runs a test is given the
script by a path that the harness has put together, and looks for it from the directory of the
script, in which it starts. An absolute path stands for the same file there; a relative one does
so only where both walks turn at the same directory.
-/

namespace ClusterHarness.Suite

open FileTree

namespace Test

/-- The path of a script as its manifest names it: from the directory of the manifest, with the root
that the manifest gives. -/
def named (t : Test) (manifest root : Path) : Path :=
  ((manifest.parent.getD ⟨"."⟩).join root).join t.script

/-- The path of the script that the process of a test is given: as its program, or as the first
argument of the interpreter. -/
def handed (t : Test) (root : Path) : Path :=
  match t.interpreter with
  | none => ⟨(t.launch root).program⟩
  | some _ => ⟨(t.launch root).args.headD ""⟩

/-- The process of a test starts in a directory from which it finds a file by the path that it is
given. -/
def Finds (t : Test) (root : Path) (m : Machine) (place : Location) (file : FileTree) : Prop :=
  ∃ there, m.startDirectory (t.launch root).directory = .ok there ∧
    m.files.resolve there (t.handed root) = .ok (place, file)

private theorem handed_eq (t : Test) (root : Path) : t.handed root = t.scriptFile root := by
  cases hi : t.interpreter <;> simp [handed, launch, hi]

private theorem directory_launch (t : Test) (root : Path) :
    (t.launch root).directory = some (t.directory root) := by
  cases hi : t.interpreter <;> simp [launch, hi]

/-- The path of a script counts from the root if one of its parts does. -/
theorem isAbsolute_named {t : Test} {manifest root : Path} (h : meansDirectory manifest = false) :
    (t.named manifest root).isAbsolute ↔
      manifest.isAbsolute ∨ root.isAbsolute ∨ t.script.isAbsolute := by
  obtain ⟨d, hd, habs⟩ := exists_parent h
  unfold named
  rw [Path.isAbsolute_join, Path.isAbsolute_join, hd, Option.getD_some, habs]
  simp only [Bool.or_eq_true]
  rw [or_comm, or_comm (a := root.isAbsolute = true), or_assoc]

variable {t : Test} {root : Path} {m : Machine} {place : Location} {file : FileTree}

/-- The process of a test starts beside its script, unless the path of the script is a bare name. -/
theorem startDirectory_launch
    (h : m.files.resolve m.directory (t.scriptFile root) = .ok (place, file))
    (hfile : file.isDirectory = false) {there : Location} :
    m.startDirectory (t.launch root).directory = .ok there ↔
      '/' ∈ (t.scriptFile root).text.toList ∧ there = place.dropLast := by
  rw [directory_launch]
  unfold Machine.startDirectory directory
  by_cases hslash : '/' ∈ (t.scriptFile root).text.toList
  · obtain ⟨d, dir, hd, hresolve, hdir⟩ := resolve_parent h hfile hslash
    simp [hd, hresolve, hdir, hslash, eq_comm]
  · obtain ⟨-, -, hmeans⟩ := resolve_eq_ok_iff.mp h
    obtain ⟨segment, -, hloud, -, htext | ⟨before, htext⟩⟩ :=
      exists_lastSegment (p := t.scriptFile root) (by simpa [hfile] using hmeans)
    · rw [Path.parent_of_notMem hslash (htext ▸ hloud)]
      simp [hslash, resolve, locate]
    · simp [htext] at hslash

/-- The process of a test finds the script exactly if its path is absolute, or leads back to it from
the directory of the script. -/
theorem finds_iff (h : m.files.resolve m.directory (t.scriptFile root) = .ok (place, file))
    (hfile : file.isDirectory = false) :
    t.Finds root m place file ↔
      (t.scriptFile root).isAbsolute ∨
        '/' ∈ (t.scriptFile root).text.toList ∧
          (∃ other, m.files.locate place.dropLast (t.scriptFile root) = .ok other) ∧
            turning place.dropLast (t.scriptFile root) =
              turning m.directory (t.scriptFile root) := by
  unfold Finds
  rw [handed_eq]
  constructor
  · rintro ⟨there, hthere, hfound⟩
    obtain ⟨hslash, rfl⟩ := (startDirectory_launch h hfile).mp hthere
    exact ((resolve_eq_iff h).mp hfound).imp_right fun hback ↦ ⟨hslash, hback⟩
  · intro hback
    have hslash : '/' ∈ (t.scriptFile root).text.toList := by
      rcases hback with habs | ⟨hslash, -⟩
      · exact List.mem_of_mem_head? (by simpa [Path.isAbsolute] using habs)
      · exact hslash
    exact ⟨place.dropLast, (startDirectory_launch h hfile).mpr ⟨hslash, rfl⟩,
      (resolve_eq_iff h).mpr (hback.imp_right (·.2))⟩

/-- By an absolute path the process of a test finds what the harness finds. -/
theorem finds_iff_of_isAbsolute (habs : (t.scriptFile root).isAbsolute)
    (hfile : file.isDirectory = false) :
    t.Finds root m place file ↔
      m.files.resolve m.directory (t.scriptFile root) = .ok (place, file) := by
  refine ⟨fun ⟨there, _, hfound⟩ ↦ ?_, fun h ↦ (finds_iff h hfile).mpr (.inl habs)⟩
  rwa [handed_eq, resolve_of_isAbsolute habs] at hfound

end Test

/-- The script that the process of a test runs, whatever the files are by then. If the path of the
manifest, its root or the path of the script is absolute, it is the one that the manifest names as
the harness sees it. Otherwise it is that one exactly if the path that is put together leads back
to it from its own directory. -/
theorem finds_named_script_iff {m : Machine} {path : Path} {suite : Manifest}
    (h : Manifest.ofFile path (Machine.host.readText path m) = .ok suite) :
    ∃ text document, Machine.host.readText path m = .ok text ∧
      Manifest.ofToml text = .ok document ∧
      suite = { document with root := (path.parent.getD ⟨"."⟩).join document.root } ∧
      ∀ later : Machine, later.directory = m.directory →
      ∀ t ∈ suite.tests, ∀ place file, file.isDirectory = false →
        (path.isAbsolute ∨ document.root.isAbsolute ∨ t.script.isAbsolute →
          (t.Finds suite.root later place file ↔
            later.files.resolve m.directory (t.named path document.root) = .ok (place, file))) ∧
        (¬ (path.isAbsolute ∨ document.root.isAbsolute ∨ t.script.isAbsolute) →
          later.files.resolve m.directory (t.named path document.root) = .ok (place, file) →
          (t.Finds suite.root later place file ↔
            '/' ∈ (t.named path document.root).text.toList ∧
              (∃ other, later.files.locate place.dropLast (t.named path document.root) =
                .ok other) ∧
              turning place.dropLast (t.named path document.root) =
                turning m.directory (t.named path document.root))) := by
  obtain ⟨text, document, hread, hdocument, rfl⟩ := Manifest.ofFile_eq_ok_iff.mp h
  refine ⟨text, document, hread, hdocument, rfl, fun later hlater t _ place file hfile ↦ ?_⟩
  have hnamed : t.scriptFile ((path.parent.getD ⟨"."⟩).join document.root) =
      t.named path document.root := rfl
  rw [← Test.isAbsolute_named (meansDirectory_of_readText_eq_ok hread), ← hlater]
  refine ⟨fun habs ↦ hnamed ▸ Test.finds_iff_of_isAbsolute habs hfile, fun hrel hfound ↦ ?_⟩
  exact (Test.finds_iff hfound hfile).trans (or_iff_right hrel)

/-! ## One suite, named by two paths -/

def nestedScript : FileTree := .file (Text.toBytes "#!/bin/sh\nexit 0\n") true

def nestedTest : Test where
  name := "first"
  script := ⟨"test/run.sh"⟩

def nestedDocument : String := "[[test]]\nname = \"first\"\nscript = \"test/run.sh\"\n"

/-- A machine with a suite of one test, whose script lies in a directory of its own. -/
def nestedMachine : Machine where
  files := .directory [("work", .directory [
    ("suite.toml", .file (Text.toBytes nestedDocument) false),
    ("test", .directory [("run.sh", nestedScript)])])]
  directory := ["work"]

/-- The document is that of the manifest. -/
theorem ofToml_nestedDocument : Manifest.ofToml nestedDocument = .ok { tests := [nestedTest] } := by
  decide +kernel

/-- Wherever the document is, the root of its manifest is counted from there. -/
theorem ofFile_nestedMachine {path : Path}
    (h : Machine.host.readText path nestedMachine = .ok nestedDocument) :
    Manifest.ofFile path (Machine.host.readText path nestedMachine) =
      .ok { root := (path.parent.getD ⟨"."⟩).join ⟨"."⟩, tests := [nestedTest] } :=
  Manifest.ofFile_eq_ok_iff.mpr ⟨_, _, h, ofToml_nestedDocument, rfl⟩

/-- With an absolute path of the manifest the process of the test finds its script. -/
theorem absolute_manifest_finds_script :
    nestedTest.Finds ⟨"/work/."⟩ nestedMachine ["work", "test", "run.sh"] nestedScript := by
  have hread : Machine.host.readText ⟨"/work/suite.toml"⟩ nestedMachine = .ok nestedDocument := by
    decide +kernel
  have hroot : ((Path.mk "/work/suite.toml").parent.getD ⟨"."⟩).join ⟨"."⟩ = ⟨"/work/."⟩ := by
    decide +kernel
  have hsuite := ofFile_nestedMachine hread
  rw [hroot] at hsuite
  obtain ⟨text, document, htext, hparsed, -, hall⟩ := finds_named_script_iff hsuite
  cases hread.symm.trans htext
  cases ofToml_nestedDocument.symm.trans hparsed
  have hscript := hall nestedMachine rfl nestedTest List.mem_cons_self
    ["work", "test", "run.sh"] nestedScript rfl
  refine (hscript.1 (.inl rfl)).mpr ?_
  exact resolve_eq_ok_iff.mpr ⟨by decide +kernel, rfl, fun hdir ↦ absurd hdir (by decide +kernel)⟩

/-- With a relative path of the manifest it does not, although the harness sees the script there:
the test fails. -/
theorem relative_manifest_misses_script :
    Manifest.ofFile ⟨"suite.toml"⟩ (Machine.host.readText ⟨"suite.toml"⟩ nestedMachine) =
        .ok { root := ⟨"."⟩, tests := [nestedTest] } ∧
      isFileAt nestedMachine.files nestedMachine.directory
        (nestedTest.named ⟨"suite.toml"⟩ ⟨"."⟩) = true ∧
      (∀ place file, ¬ nestedTest.Finds ⟨"."⟩ nestedMachine place file) ∧
      (scripts Machine.host nestedTest ⟨"."⟩ ([], nestedMachine)).1 = 1 := by
  have hroot : ((Path.mk "suite.toml").parent.getD ⟨"."⟩).join ⟨"."⟩ = ⟨"."⟩ := by decide +kernel
  refine ⟨hroot ▸ ofFile_nestedMachine (by decide +kernel), by decide +kernel, ?_,
    by decide +kernel⟩
  rintro place file ⟨there, hthere, hfound⟩
  have hstart : nestedMachine.startDirectory (nestedTest.launch ⟨"."⟩).directory =
      .ok ["work", "test"] := by decide +kernel
  cases hstart.symm.trans hthere
  have hmissing : nestedMachine.files.locate ["work", "test"] (nestedTest.handed ⟨"."⟩) =
      .error .notFound := by decide +kernel
  cases hmissing.symm.trans (resolve_eq_ok_iff.mp hfound).1

end ClusterHarness.Suite
