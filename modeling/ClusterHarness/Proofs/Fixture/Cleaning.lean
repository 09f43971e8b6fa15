import ClusterHarness.Fixture.Cleaning
import ClusterHarness.Machine.Hosting
import ClusterHarness.Proofs.FileTree.Creation
import ClusterHarness.Proofs.Plan.Expansion

/-!
# Emptying the data directories

The data directories of a plan lie beside each other, so emptying one leaves the others as they are.
They end up empty unless something else is in the way of one, or the system does not take its path,
and then the first such directory is named.
-/

namespace ClusterHarness

namespace FileTree

variable {root mid after : FileTree} {base place l : Location} {places : List Location}
  {p d : Path}

/-! ## Trees with emptied directories -/

/-- Two locations of which neither is above the other. -/
def Beside (k l : Location) : Prop := ¬ k <+: l ∧ ¬ l <+: k

/-- Some locations hold empty directories, and what is not above or below one is as before. -/
structure Emptied (root : FileTree) (places : List Location) (after : FileTree) : Prop where
  distinct : Distinct after
  above : ∀ place ∈ places, ∀ l, l <+: place → after.entryAt l = .ok .directory
  below : ∀ place ∈ places, ∀ l, place <+: l → l ≠ place → after.entryAt l = .error .notFound
  beside : ∀ l, (∀ place ∈ places, Beside l place) → after.entryAt l = root.entryAt l

/-- A tree of which no directory is emptied stays as it is. -/
theorem Emptied.nil (h : Distinct root) : Emptied root [] root where
  distinct := h
  above := nofun
  below := nofun
  beside _ _ := rfl

/-- Directories beside each other can be emptied one after the other. -/
theorem Emptied.cons (h : Emptied root [place] mid) (h' : Emptied mid places after)
    (hapart : ∀ other ∈ places, Beside place other) : Emptied root (place :: places) after := by
  have hfirst := h.above place List.mem_cons_self
  refine ⟨h'.distinct, ?_, ?_, ?_⟩
  · rw [List.forall_mem_cons]
    refine ⟨fun l hl ↦ ?_, h'.above⟩
    by_cases hother : ∃ other ∈ places, l <+: other
    · obtain ⟨other, hmem, hpre⟩ := hother
      exact h'.above other hmem l hpre
    · push Not at hother
      rw [h'.beside l fun other hmem ↦ ⟨hother other hmem, fun hpre ↦
        (hapart other hmem).2 (hpre.trans hl)⟩, hfirst l hl]
  · rw [List.forall_mem_cons]
    refine ⟨fun l hl hne ↦ ?_, h'.below⟩
    rw [h'.beside l, h.below place List.mem_cons_self l hl hne]
    intro other hmem
    refine ⟨fun hpre ↦ (hapart other hmem).1 (hl.trans hpre), fun hpre ↦ ?_⟩
    exact (List.prefix_or_prefix_of_prefix hl hpre).elim (hapart other hmem).1
      (hapart other hmem).2
  · intro l hl
    rw [List.forall_mem_cons] at hl
    rw [h'.beside l hl.2, h.beside l (by simpa using hl.1)]

/-- Emptying again changes nothing. -/
theorem Emptied.again {again : FileTree} (h : Emptied root places after)
    (h' : Emptied after places again) (l : Location) : again.entryAt l = after.entryAt l := by
  by_cases habove : ∃ place ∈ places, l <+: place
  · obtain ⟨place, hmem, hpre⟩ := habove
    rw [h.above place hmem l hpre, h'.above place hmem l hpre]
  by_cases hbelow : ∃ place ∈ places, place <+: l
  · obtain ⟨place, hmem, hpre⟩ := hbelow
    have hne : l ≠ place := fun heq ↦ habove ⟨place, hmem, heq ▸ List.prefix_rfl⟩
    rw [h.below place hmem l hpre hne, h'.below place hmem l hpre hne]
  · push Not at habove hbelow
    exact h'.beside l fun place hmem ↦ ⟨habove place hmem, hbelow place hmem⟩

private theorem Emptied.not_obstructed (h : Emptied root places after) (hplace : place ∈ places) :
    ¬ after.Obstructed place := by
  rintro ⟨k, hk, e, he, hne⟩
  rw [h.above place hplace k hk] at he
  exact hne (Except.ok.inj he).symm

/-- What is in the way of a directory is no matter of those beside it. -/
theorem Emptied.obstructed_iff (h : Emptied root [place] after) (hnot : ¬ root.Obstructed place)
    (hapart : Beside place l) : after.Obstructed l ↔ root.Obstructed l := by
  have hsame {k : Location} (hk : k <+: l) (hnotAbove : ¬ k <+: place) :
      after.entryAt k = root.entryAt k := by
    refine h.beside k ?_
    rw [List.forall_mem_singleton]
    exact ⟨hnotAbove, fun hpre ↦ hapart.1 (hpre.trans hk)⟩
  constructor
  · rintro ⟨k, hk, e, he, hne⟩
    by_cases habove : k <+: place
    · exact absurd ⟨k, habove, e, he, hne⟩ (h.not_obstructed List.mem_cons_self)
    · exact ⟨k, hk, e, hsame hk habove ▸ he, hne⟩
  · rintro ⟨k, hk, e, he, hne⟩
    by_cases habove : k <+: place
    · exact absurd ⟨k, habove, e, he, hne⟩ hnot
    · exact ⟨k, hk, e, (hsame hk habove).trans he, hne⟩

/-- Some locations hold empty directories, and outside them nothing but missing directories has
changed. -/
structure Stopped (root : FileTree) (places : List Location) (after : FileTree) : Prop where
  empty : ∀ place ∈ places, ∀ l, place <+: l →
    after.entryAt l = if l = place then .ok .directory else .error .notFound
  kept : ∀ l, (∀ place ∈ places, ¬ place <+: l) → after.entryAt l = root.entryAt l ∨
    root.entryAt l = .error .notFound ∧ after.entryAt l = .ok .directory

/-- Emptied directories stay empty when directories beside them are created. -/
theorem Emptied.stopped {place : Location} (h : Emptied root places mid)
    (hgrown : Grown mid place after) (hapart : ∀ other ∈ places, Beside other place)
    (hclear : ∀ other ∈ places, ¬ root.Obstructed other) : Stopped root places after := by
  constructor
  · intro other hother l hl
    split
    · next heq => exact hgrown.keeps (h.above other hother l (heq ▸ List.prefix_rfl))
    · next hne =>
      rw [hgrown.entryAt_of_not_prefix, h.below other hother l hl hne]
      exact fun hpre ↦ (hapart other hother).1 (hl.trans hpre)
  · intro l hl
    by_cases habove : ∃ other ∈ places, l <+: other
    · obtain ⟨other, hother, hpre⟩ := habove
      have hdir := hgrown.keeps (h.above other hother l hpre)
      obtain hbefore | hmiss := entryAt_of_not_obstructed fun hob ↦
        hclear other hother (hob.mono hpre)
      · exact .inl (hdir.trans hbefore.symm)
      · exact .inr ⟨hmiss, hdir⟩
    · push Not at habove
      rw [← h.beside l fun other hother ↦ ⟨habove other hother, hl other hother⟩]
      exact (hgrown.entryAt l).imp_right (·.2)

/-- A directory that can be emptied: the system takes its path, and nothing else is in the way. -/
structure Fit (root : FileTree) (base : Location) (p : Path) : Prop where
  usable : Usable p
  clear : ¬ root.Obstructed (target base p)

instance (root : FileTree) (base : Location) (p : Path) : Decidable (Fit root base p) :=
  decidable_of_iff (Usable p ∧ ¬ root.Obstructed (target base p))
    ⟨fun ⟨husable, hclear⟩ ↦ ⟨husable, hclear⟩, fun ⟨husable, hclear⟩ ↦ ⟨husable, hclear⟩⟩

/-- What has been emptied can be emptied again. -/
theorem Emptied.fit {dirs : List Path} (h : Emptied root (dirs.map (target base)) after)
    (hfit : ∀ d ∈ dirs, Fit root base d) : ∀ d ∈ dirs, Fit after base d :=
  fun d hd ↦ ⟨(hfit d hd).usable, h.not_obstructed (List.mem_map_of_mem hd)⟩

end FileTree

namespace Fixture

open FileTree

variable {m : Machine} {d : Path}

/-! ## Emptying one directory -/

private theorem emptyDir_of_removed {mid : FileTree}
    (h : m.files.removeTree m.directory d = (.ok (), mid) ∨
      m.files.removeTree m.directory d = (.error .notFound, mid)) :
    emptyDir Machine.host d m =
      ((mid.createDirs m.directory d).1.mapError (Failure.cleanup d),
        { m with files := (mid.createDirs m.directory d).2 }) := by
  cases hcreate : mid.createDirs m.directory d with
  | mk result after =>
    obtain h | h := h <;> cases result <;>
      simp [emptyDir, Machine.host, h, hcreate, Except.mapError]

private theorem emptyDir_of_refused {mid : FileTree} {e : IoError}
    (h : m.files.removeTree m.directory d = (.error e, mid)) (he : e ≠ .notFound) :
    emptyDir Machine.host d m = (.error (.cleanup d e), { m with files := mid }) := by
  unfold emptyDir Machine.host
  simp only [h]

section One

variable (hup : ".." ∉ names d) (hnames : names d ≠ []) (hd : Distinct m.files)
  (hstart : m.files.entryAt (start m.directory d) = .ok .directory)
include hup hnames hd hstart

private theorem emptyDir_of_fit (h : Fit m.files m.directory d) :
    ∃ after, emptyDir Machine.host d m = (.ok (), { m with files := after }) ∧
      Emptied m.files [target m.directory d] after := by
  have hp : LeadsDown d := ⟨h.usable, hup⟩
  obtain ⟨mid, hremove, hdmid, hmid⟩ :=
    removeTree_of_not_obstructed hp (text_ne_of_names hnames) hnames hd hstart h.clear
  have hstartmid : mid.entryAt (start m.directory d) = .ok .directory := by
    rw [hmid, if_neg (not_target_prefix_start hnames m.directory), hstart]
  have hclear : ¬ mid.Obstructed (target m.directory d) := by
    rintro ⟨k, hk, e, he, hne⟩
    rw [hmid] at he
    split at he
    · cases he
    · exact h.clear ⟨k, hk, e, he, hne⟩
  have hok : (mid.createDirs m.directory d).1 = .ok () :=
    createDirsTo_eq_ok hp hdmid hstartmid hclear (Nat.lt_succ_self _)
  have hcreates : Creates mid m.directory d (mid.createDirs m.directory d) :=
    createDirsTo_creates (d.text.length + 1) hup hdmid hstartmid
  have hthere := (hcreates.there hok).1
  refine ⟨(mid.createDirs m.directory d).2, ?_, hcreates.grown.distinct, ?_, ?_, ?_⟩
  · rw [emptyDir_of_removed hremove, hok]
    rfl
  · rw [List.forall_mem_singleton]
    intro l hl
    obtain rfl | hne := eq_or_ne l (target m.directory d)
    · exact hthere
    · exact entryAt_of_prefix hthere hl hne
  · rw [List.forall_mem_singleton]
    intro l hl hne
    rw [hcreates.grown.entryAt_of_not_prefix, hmid, if_pos hl]
    exact fun hpre ↦ hne (hpre.eq_of_length_le hl.length_le)
  · intro l hl
    rw [List.forall_mem_singleton] at hl
    rw [hcreates.grown.entryAt_of_not_prefix hl.1, hmid, if_neg hl.2]

private theorem emptyDir_of_not_fit (h : ¬ Fit m.files m.directory d) :
    ∃ cause after, emptyDir Machine.host d m =
        (.error (.cleanup d cause), { m with files := after }) ∧
      Grown m.files (target m.directory d) after := by
  have hgrown := Grown.refl hd (target m.directory d)
  by_cases hu : Usable d
  · have hob : m.files.Obstructed (target m.directory d) := by
      by_contra hclear
      exact h ⟨hu, hclear⟩
    have hremove := removeTree_of_obstructed ⟨hu, hup⟩ (text_ne_of_names hnames) hob
    exact ⟨_, _, emptyDir_of_refused hremove nofun, hgrown⟩
  · cases hresolve : m.files.resolve m.directory d with
    | ok found =>
      obtain ⟨place, t⟩ := found
      obtain ⟨hlocate, -⟩ := resolve_eq_ok_iff.mp hresolve
      exact absurd (locate_down_eq_ok hup hlocate).2.1.toUsable hu
    | error e =>
      have hremove : m.files.removeTree m.directory d = (.error e, m.files) := by
        rw [removeTree, hresolve]
      by_cases he : e = .notFound
      · subst he
        have hcreates : Creates m.files m.directory d (m.files.createDirs m.directory d) :=
          createDirsTo_creates (d.text.length + 1) hup hd hstart
        cases hresult : (m.files.createDirs m.directory d).1 with
        | ok _ => exact absurd (hcreates.there hresult).2.toUsable hu
        | error cause =>
          refine ⟨cause, _, ?_, hcreates.grown⟩
          rw [emptyDir_of_removed (.inr hremove), hresult]
          rfl
      · exact ⟨e, m.files, emptyDir_of_refused hremove he, hgrown⟩

end One

/-! ## Emptying directories in order -/

/-- What emptying directories comes to: all are empty, or one cannot be emptied and those before it
are. -/
inductive Cleaned (root : FileTree) (base : Location) :
    List Path → Except Failure Unit → FileTree → Prop
  | all {dirs : List Path} {after : FileTree} (fit : ∀ d ∈ dirs, Fit root base d)
      (emptied : Emptied root (dirs.map (target base)) after) :
      Cleaned root base dirs (.ok ()) after
  | upTo (done : List Path) {rest : List Path} {d : Path} {mid after : FileTree} (cause : IoError)
      (fit : ∀ c ∈ done, Fit root base c) (unfit : ¬ Fit root base d)
      (emptied : Emptied root (done.map (target base)) mid)
      (grown : Grown mid (target base d) after) :
      Cleaned root base (done ++ d :: rest) (.error (.cleanup d cause)) after

/-- A path that leads from a directory down to one below it. -/
structure LeadsBelow (base origin : Location) (d : Path) : Prop where
  start_eq : start base d = origin
  no_up : ".." ∉ names d
  names_ne : names d ≠ []

private theorem LeadsBelow.origin_begins {base origin : Location} (h : LeadsBelow base origin d) :
    origin <+: target base d := by
  rw [target, h.start_eq]
  exact List.prefix_append _ _

/-- A directory that is emptied first is empty at the end too. -/
theorem Cleaned.cons {root mid after : FileTree} {base : Location} {dirs : List Path}
    {result : Except Failure Unit} (hfit : Fit root base d)
    (hempty : Emptied root [target base d] mid)
    (hapart : ∀ c ∈ dirs, Beside (target base d) (target base c))
    (h : Cleaned mid base dirs result after) : Cleaned root base (d :: dirs) result after := by
  have hsame {c : Path} (hc : c ∈ dirs) : Fit mid base c ↔ Fit root base c := by
    have hob := hempty.obstructed_iff hfit.clear (hapart c hc)
    exact ⟨fun h ↦ ⟨h.usable, hob.not.mp h.clear⟩, fun h ↦ ⟨h.usable, hob.not.mpr h.clear⟩⟩
  cases h with
  | all fit emptied =>
    refine .all ?_ (hempty.cons emptied (by simpa using hapart))
    rw [List.forall_mem_cons]
    exact ⟨hfit, fun c hc ↦ (hsame hc).mp (fit c hc)⟩
  | @upTo done rest other mid' after cause fit unfit emptied grown =>
    have hdone {c : Path} (hc : c ∈ done) : c ∈ done ++ other :: rest :=
      List.mem_append_left _ hc
    refine .upTo (d :: done) cause ?_ ?_ (hempty.cons emptied ?_) grown
    · rw [List.forall_mem_cons]
      exact ⟨hfit, fun c hc ↦ (hsame (hdone hc)).mp (fit c hc)⟩
    · exact fun h ↦ unfit ((hsame (by simp)).mpr h)
    · rw [List.forall_mem_map]
      exact fun c hc ↦ hapart c (hdone hc)

private theorem Cleaned.eq_ok_iff {root after : FileTree} {base : Location} {dirs : List Path}
    {result : Except Failure Unit} (h : Cleaned root base dirs result after) :
    result = .ok () ↔ ∀ d ∈ dirs, Fit root base d := by
  cases h with
  | all fit emptied => exact iff_of_true rfl fit
  | upTo done cause fit unfit emptied grown =>
    exact iff_of_false nofun fun hfit ↦ unfit (hfit _ (by simp))

private theorem Cleaned.emptied {root after : FileTree} {base : Location} {dirs : List Path}
    (h : Cleaned root base dirs (.ok ()) after) : Emptied root (dirs.map (target base)) after := by
  cases h with
  | all fit emptied => exact emptied

private theorem emptyDirs_cleaned {origin : Location} {dirs : List Path}
    (hdirs : ∀ d ∈ dirs, LeadsBelow m.directory origin d)
    (hapart : dirs.Pairwise fun c d ↦ Beside (target m.directory c) (target m.directory d))
    (hd : Distinct m.files) (horigin : m.files.entryAt origin = .ok .directory) :
    ∃ result after, emptyDirs Machine.host dirs m = (result, { m with files := after }) ∧
      Cleaned m.files m.directory dirs result after := by
  induction dirs generalizing m with
  | nil => exact ⟨.ok (), m.files, rfl, .all nofun (.nil hd)⟩
  | cons d dirs ih =>
    rw [List.forall_mem_cons] at hdirs
    rw [List.pairwise_cons] at hapart
    obtain ⟨hfirst, hrest⟩ := hdirs
    rw [emptyDirs]
    have hstart : m.files.entryAt (start m.directory d) = .ok .directory := by
      rwa [hfirst.start_eq]
    by_cases hfit : Fit m.files m.directory d
    · obtain ⟨mid, hmid, hempty⟩ :=
        emptyDir_of_fit hfirst.no_up hfirst.names_ne hd hstart hfit
      rw [hmid]
      obtain ⟨result, after, hafter, hcleaned⟩ := ih (m := { m with files := mid }) hrest hapart.2
        hempty.distinct (hempty.above _ List.mem_cons_self _ hfirst.origin_begins)
      exact ⟨result, after, hafter, hcleaned.cons hfit hempty hapart.1⟩
    · obtain ⟨cause, after, hafter, hgrown⟩ :=
        emptyDir_of_not_fit hfirst.no_up hfirst.names_ne hd hstart hfit
      rw [hafter]
      exact ⟨_, after, rfl, .upTo [] cause nofun hfit (.nil hd) hgrown⟩

end Fixture

/-! ## The data directories of a plan -/

namespace FileTree

private theorem names_of_notMem {p : Path} (hslash : '/' ∉ p.text.toList)
    (hloud : Path.isSilent p.text.toList = false) : names p = [p.text] := by
  have hvisible : names p = (Path.visible p.text.toList).map String.ofList := rfl
  rw [hvisible, Path.visible_of_notMem hslash, List.filter_singleton, hloud]
  simp

private theorem names_join (base : Path) {p : Path} (hp : p.isAbsolute = false) :
    names (base.join p) = names base ++ names p := by
  have hvisible (q : Path) : names q = (Path.visible q.text.toList).map String.ofList := rfl
  rw [hvisible, hvisible, hvisible, Path.visible_join base hp, List.map_append]

end FileTree

namespace Fixture

open FileTree

variable {p : Plan}

/-- Where the data directories lie in the test directory, in the order in which they are emptied. -/
def dataPlaces : List Location :=
  [["db", "node", "servers"], ["db", "node", "db"], ["db", "registry"]]

private theorem names_dataDirs (p : Plan) :
    p.dataDirs.map names = dataPlaces.map (names p.testDir ++ ·) := by
  have hnames : names ⟨"db"⟩ = ["db"] ∧ names ⟨"node"⟩ = ["node"] ∧
      names ⟨"servers"⟩ = ["servers"] ∧ names ⟨"registry"⟩ = ["registry"] := by decide +kernel
  obtain ⟨hdb, hnode, hservers, hregistry⟩ := hnames
  have hjoin (d : Path) (name : String) (h : (Path.mk name).isAbsolute = false) := names_join d h
  simp only [Plan.dataDirs, Plan.nodeData, Plan.registryData, Plan.dataRoot, dataPlaces,
    List.map_cons, List.map_nil, hjoin _ "db" rfl, hjoin _ "node" rfl, hjoin _ "servers" rfl,
    hjoin _ "registry" rfl, hdb, hnode, hservers, hregistry, List.append_assoc, List.cons_append,
    List.nil_append]

private theorem start_dataDirs (base : Location) (hd : d ∈ p.dataDirs) :
    start base d = start base p.testDir := by
  have habs : d.isAbsolute = p.testDir.isAbsolute := by
    revert d
    simp only [Plan.dataDirs, Plan.nodeData, Plan.registryData, Plan.dataRoot,
      List.forall_mem_cons, Path.isAbsolute_join]
    exact ⟨rfl, rfl, rfl, nofun⟩
  rw [start, start, habs]

private theorem exists_dataPlace (hd : d ∈ p.dataDirs) :
    ∃ place ∈ dataPlaces, names p.testDir ++ place = names d := by
  have hmem := List.mem_map_of_mem (f := names) hd
  rw [names_dataDirs] at hmem
  exact List.mem_map.mp hmem

private theorem leadsBelow_dataDirs (hup : ".." ∉ names p.testDir) (base : Location)
    (hd : d ∈ p.dataDirs) : LeadsBelow base (start base p.testDir) d := by
  obtain ⟨place, hplace, hnames⟩ := exists_dataPlace hd
  have hdown : place ≠ [] ∧ ".." ∉ place := by
    clear hnames
    revert place
    decide
  refine ⟨start_dataDirs base hd, ?_, ?_⟩
  · rw [← hnames, List.mem_append, not_or]
    exact ⟨hup, hdown.2⟩
  · rw [← hnames]
    exact List.append_ne_nil_of_right_ne_nil _ hdown.1

private theorem target_dataDirs (p : Plan) (base : Location) :
    p.dataDirs.map (target base) = dataPlaces.map (target base p.testDir ++ ·) := by
  calc p.dataDirs.map (target base)
      = p.dataDirs.map fun d ↦ start base p.testDir ++ names d :=
        List.map_congr_left fun d hd ↦ by rw [target, start_dataDirs base hd]
    _ = (p.dataDirs.map names).map (start base p.testDir ++ ·) := by
        rw [List.map_map]
        rfl
    _ = dataPlaces.map (target base p.testDir ++ ·) := by
        rw [names_dataDirs, List.map_map]
        exact List.map_congr_left fun place _ ↦ (List.append_assoc _ _ _).symm

private theorem pairwise_dataDirs (p : Plan) (base : Location) :
    p.dataDirs.Pairwise fun c d ↦ Beside (target base c) (target base d) := by
  rw [← List.pairwise_map (f := target base), target_dataDirs, List.pairwise_map]
  have hplaces : dataPlaces.Pairwise Beside := by
    unfold Beside
    decide
  refine hplaces.imp fun hbeside ↦ ?_
  unfold Beside at *
  rwa [List.prefix_append_right_inj, List.prefix_append_right_inj]

/-- Cleaning a plan either empties its data directories, and can then be repeated without effect,
or it stops at the first that cannot be emptied. -/
theorem data_dirs_end_empty (p : Plan) (m : Machine) (hup : ".." ∉ names p.testDir)
    (hd : Distinct m.files)
    (hstart : m.files.entryAt (start m.directory p.testDir) = .ok .directory) :
    ∃ result after, emptyDataDirs Machine.host p m = (result, { m with files := after }) ∧
      (result = .ok () ↔ ∀ d ∈ p.dataDirs, Fit m.files m.directory d) ∧
      (result = .ok () →
        Emptied m.files (p.dataDirs.map (target m.directory)) after ∧
        ∃ again, emptyDataDirs Machine.host p { m with files := after } =
            (.ok (), { m with files := again }) ∧
          ∀ l, again.entryAt l = after.entryAt l) ∧
      ∀ e, result = .error e → ∃ done d rest cause,
        p.dataDirs = done ++ d :: rest ∧ e = .cleanup d cause ∧
        (∀ c ∈ done, Fit m.files m.directory c) ∧ ¬ Fit m.files m.directory d ∧
        Stopped m.files (done.map (target m.directory)) after := by
  have hdirs (d : Path) (hd : d ∈ p.dataDirs) := leadsBelow_dataDirs hup m.directory hd
  have hapart := pairwise_dataDirs p m.directory
  obtain ⟨result, after, hrun, hcleaned⟩ := emptyDirs_cleaned hdirs hapart hd hstart
  refine ⟨result, after, hrun, hcleaned.eq_ok_iff, ?_, ?_⟩
  · rintro rfl
    have hempty := hcleaned.emptied
    have hfit := hempty.fit (hcleaned.eq_ok_iff.mp rfl)
    -- The test directory, or the directory that it counts from, is above a data directory.
    have horigin : after.entryAt (start m.directory p.testDir) = .ok .directory := by
      have hmem : p.nodeData.join ⟨"servers"⟩ ∈ p.dataDirs := List.mem_cons_self
      exact hempty.above _ (List.mem_map_of_mem hmem) _ (hdirs _ hmem).origin_begins
    obtain ⟨_, again, hagain, hcleaned'⟩ :=
      emptyDirs_cleaned (m := { m with files := after }) hdirs hapart hempty.distinct horigin
    obtain rfl := hcleaned'.eq_ok_iff.mpr hfit
    exact ⟨hempty, again, hagain, hempty.again hcleaned'.emptied⟩
  · rintro e rfl
    generalize p.dataDirs = dirs at hcleaned hapart
    cases hcleaned with
    | @upTo done rest d mid after cause fit unfit emptied grown =>
      refine ⟨done, d, rest, cause, rfl, rfl, fit, unfit, emptied.stopped grown ?_ ?_⟩
      · rw [List.forall_mem_map]
        exact fun c hc ↦ (List.pairwise_append.mp hapart).2.2 c hc d List.mem_cons_self
      · rw [List.forall_mem_map]
        exact fun c hc ↦ (fit c hc).clear

/-- Names that are too long are refused, whatever the machine holds. -/
theorem emptyDataDirs_of_long_name (hup : ".." ∉ names p.testDir) (hd : Distinct m.files)
    (hstart : m.files.entryAt (start m.directory p.testDir) = .ok .directory) {name : String}
    (hname : name ∈ names p.testDir) (hlong : maxName < name.utf8ByteSize) :
    (emptyDataDirs Machine.host p m).1 ≠ .ok () := by
  intro hok
  obtain ⟨result, after, hrun, hcleaned⟩ := emptyDirs_cleaned
    (fun d hd ↦ leadsBelow_dataDirs hup m.directory hd) (pairwise_dataDirs p m.directory) hd hstart
  rw [emptyDataDirs, hrun] at hok
  have hmem : p.nodeData.join ⟨"servers"⟩ ∈ p.dataDirs := List.mem_cons_self
  have hfit := hcleaned.eq_ok_iff.mp hok _ hmem
  obtain ⟨place, -, hnames⟩ := exists_dataPlace hmem
  have hshort := hfit.usable.names_short name (hnames ▸ List.mem_append_left _ hname)
  omega

/-! ## A directory with data, and a name that is too long -/

/-- A test directory that holds data of an earlier run, and something else. -/
def usedTree : FileTree :=
  .directory [("t", .directory [
    ("db", .directory [("registry", .directory [("stale.db", .file [] false)])]),
    ("keep", .file [] false)])]

/-- What an earlier run has left goes, and what is beside the data stays. -/
theorem used_directory_is_emptied :
    ∃ after, emptyDataDirs Machine.host (Plan.planIn "t") { files := usedTree } =
        (.ok (), { files := after }) ∧
      after.entryAt ["t", "db", "registry", "stale.db"] = .error .notFound ∧
      after.entryAt ["t", "keep"] = .ok (.file [] false) := by
  have hd : Distinct usedTree := by
    simp [usedTree, distinct_directory_iff, Distinct.file]
  obtain ⟨result, after, hrun, hiff, hempty, -⟩ := data_dirs_end_empty (Plan.planIn "t")
    { files := usedTree } (by decide +kernel) hd (by decide +kernel)
  obtain rfl := hiff.mpr (by decide +kernel)
  obtain ⟨hemptied, -⟩ := hempty rfl
  rw [target_dataDirs] at hemptied
  refine ⟨after, hrun, ?_, ?_⟩
  · exact hemptied.below ["t", "db", "registry"] (by decide +kernel) _ (by decide) (by decide)
  · rw [hemptied.beside _ (by unfold Beside; decide +kernel)]
    rfl

/-- One byte more than a name may have. -/
@[irreducible]
def longName : String := String.ofList ('a' :: List.replicate maxName 'a')

private theorem toList_longName : longName.toList = 'a' :: List.replicate maxName 'a' := by
  unfold longName
  exact String.toList_ofList

private theorem names_longName : names ⟨longName⟩ = [longName] := by
  apply names_of_notMem
  · rw [toList_longName, List.mem_cons, List.mem_replicate]
    decide
  · rw [toList_longName]
    rfl

private theorem maxName_lt_longName : maxName < longName.utf8ByteSize := by
  decide +kernel

/-- Nothing is in the way of a directory with too long a name, and it cannot be created. -/
theorem long_name_is_refused :
    (∀ d ∈ (Plan.planIn longName).dataDirs, ¬ (FileTree.directory []).Obstructed (target [] d)) ∧
      (emptyDataDirs Machine.host (Plan.planIn longName) { files := .directory [] }).1 ≠
        .ok () := by
  have hnames : names (Plan.planIn longName).testDir = [longName] := names_longName
  have hup : ".." ∉ names (Plan.planIn longName).testDir := by
    rw [hnames, List.mem_singleton, ← String.toList_inj, toList_longName]
    exact fun heq ↦ absurd (List.head_eq_of_cons_eq heq) (by decide)
  have hstart : start [] (Plan.planIn longName).testDir = [] := ite_self []
  refine ⟨fun d _ ↦ not_obstructed_empty _, emptyDataDirs_of_long_name hup distinct_empty ?_
    (hnames ▸ List.mem_cons_self) maxName_lt_longName⟩
  rw [hstart]
  rfl

end Fixture
end ClusterHarness
