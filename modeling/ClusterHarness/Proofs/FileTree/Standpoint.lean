import ClusterHarness.FileTree
import ClusterHarness.Proofs.Path.Parent
import Mathlib.Data.List.DropRight

/-!
# Paths seen from two directories

A relative path is walked from the directory it counts from: some directories up, then names down.
So it leads from two directories to the same place exactly if both walks turn at the same directory,
and an absolute path always does.
-/

namespace ClusterHarness.FileTree

-- What a lookup gives can be compared, so that lookups in a given tree can be decided.
deriving instance DecidableEq for Except

variable {root t : FileTree} {base here there place mid : Location} {p : Path}

/-! ## The shape of a walk -/

/-- Where a name leads to from a directory. -/
def step (base : Location) (name : String) : Location :=
  if name = ".." then base.dropLast else base ++ [name]

/-- A walk that leads somewhere takes one step after the other, each from a directory. -/
theorem walk_cons_eq_ok_iff {name : String} {rest : List String} :
    root.walk base (name :: rest) = .ok place ↔
      (∃ t, root.find base = .ok t ∧ t.isDirectory) ∧
        (name = ".." ∨ name.utf8ByteSize ≤ maxName) ∧
          root.walk (step base name) rest = .ok place := by
  rw [walk]
  unfold step
  cases hf : root.find base with
  | error e => simp
  | ok t =>
    cases hdir : t.isDirectory with
    | false => simp [hdir]
    | true =>
      by_cases hup : name = ".."
      · simp [hdir, hup]
      · by_cases hsize : maxName < name.utf8ByteSize
        · simp [hdir, hup, hsize, Nat.not_le.mpr hsize]
        · simp [hdir, hup, hsize, Nat.not_lt.mp hsize]

private theorem walk_append_eq_ok_iff {front rest : List String} :
    root.walk base (front ++ rest) = .ok place ↔
      ∃ mid, root.walk base front = .ok mid ∧ root.walk mid rest = .ok place := by
  induction front generalizing base with
  | nil => simp [walk]
  | cons name front ih => simp only [List.cons_append, walk_cons_eq_ok_iff, ih]; grind

/-- How many directories above its start a walk along names goes. -/
def climb : List String → Nat
  | [] => 0
  | name :: rest => if name = ".." then climb rest + 1 else climb rest - 1

/-- The names that a walk goes down in the end. -/
def descent : List String → List String
  | [] => []
  | name :: rest => if name ≠ ".." ∧ climb rest = 0 then name :: descent rest else descent rest

private theorem rdrop_dropLast (place : Location) (n : Nat) :
    place.dropLast.rdrop n = place.rdrop (n + 1) := by
  rcases List.eq_nil_or_concat place with rfl | ⟨front, name, rfl⟩
  · simp
  · rw [List.concat_eq_append, List.dropLast_concat, List.rdrop_concat_succ]

/-- A walk goes up to a directory and from there down. -/
theorem walk_eq {names : List String} (h : root.walk base names = .ok place) :
    place = base.rdrop (climb names) ++ descent names := by
  induction names generalizing base with
  | nil =>
    cases h
    simp [climb, descent]
  | cons name rest ih =>
    rw [ih (walk_cons_eq_ok_iff.mp h).2.2]
    by_cases hup : name = ".."
    · simp [step, climb, descent, hup, rdrop_dropLast]
    · cases hc : climb rest with
      | zero => simp [step, climb, descent, hup, hc]
      | succ n => simp [step, climb, descent, hup, hc, List.rdrop_concat_succ]

/-! ## The same path from two directories -/

/-- The directory at which the walk along a path turns from going up to going down. -/
def turning (base : Location) (p : Path) : Location := base.rdrop (climb (names p))

/-- What a path that can be located begins its walk with. -/
theorem locate_eq_ok_iff :
    root.locate base p = .ok place ↔
      '\x00' ∉ p.text.toList ∧ p.text ≠ "" ∧ p.text.utf8ByteSize < pathLimit ∧
        root.walk (if p.isAbsolute then [] else base) (names p) = .ok place := by
  unfold locate
  split
  · next h => simp_all
  split
  · next h => simp_all
  split
  · next h => simp [Nat.not_lt.mpr h]
  · simp_all

private theorem locate_of_isAbsolute (h : p.isAbsolute) (root : FileTree) (here there : Location) :
    root.locate there p = root.locate here p := by
  unfold locate
  rw [h]
  rfl

/-- A path leads to the same place from another directory exactly if it is absolute, or can be
walked there and turns at the same directory. -/
theorem locate_eq_iff (h : root.locate here p = .ok place) :
    root.locate there p = .ok place ↔
      p.isAbsolute ∨
        (∃ other, root.locate there p = .ok other) ∧ turning there p = turning here p := by
  by_cases ha : p.isAbsolute
  · simp [ha, locate_of_isAbsolute ha root here there, h]
  · have hplace := walk_eq (locate_eq_ok_iff.mp h).2.2.2
    rw [if_neg ha] at hplace
    constructor
    · intro hthere
      have hother := walk_eq (locate_eq_ok_iff.mp hthere).2.2.2
      rw [if_neg ha, hplace] at hother
      exact .inr ⟨⟨place, hthere⟩, (List.append_cancel_right hother).symm⟩
    · rintro (habs | ⟨⟨other, hthere⟩, hturn⟩)
      · exact absurd habs ha
      · have hother := walk_eq (locate_eq_ok_iff.mp hthere).2.2.2
        rw [if_neg ha] at hother
        rw [hthere, hplace, hother]
        exact congrArg (fun front ↦ Except.ok (front ++ descent (names p))) hturn

/-- A path is resolved to the tree at its location, which is a directory if the path asks for one.
-/
theorem resolve_eq_ok_iff :
    root.resolve base p = .ok (place, t) ↔
      root.locate base p = .ok place ∧ root.find place = .ok t ∧
        (meansDirectory p → t.isDirectory) := by
  unfold resolve
  cases hl : root.locate base p with
  | error e => simp
  | ok other =>
    dsimp only
    cases hf : root.find other with
    | error e =>
      simp only [Except.ok.injEq, reduceCtorEq, false_iff, not_and]
      rintro rfl ht
      rw [hf] at ht
      cases ht
    | ok found =>
      dsimp only
      constructor
      · intro h
        split at h
        · cases h
        · next hdir =>
          cases h
          exact ⟨rfl, hf, by simpa using hdir⟩
      · rintro ⟨hplace, ht, hdir⟩
        cases hplace
        rw [hf] at ht
        cases ht
        rw [if_neg (by simpa using hdir)]

/-- An absolute path stands for the same from any two directories. -/
theorem resolve_of_isAbsolute (h : p.isAbsolute) (root : FileTree) (here there : Location) :
    root.resolve there p = root.resolve here p := by
  unfold resolve
  rw [locate_of_isAbsolute h root here there]

/-- A path stands for the same from another directory exactly if it leads to the same place. -/
theorem resolve_eq_iff (h : root.resolve here p = .ok (place, t)) :
    root.resolve there p = .ok (place, t) ↔
      p.isAbsolute ∨
        (∃ other, root.locate there p = .ok other) ∧ turning there p = turning here p := by
  obtain ⟨hplace, hfind, hdir⟩ := resolve_eq_ok_iff.mp h
  rw [resolve_eq_ok_iff, ← locate_eq_iff hplace]
  exact and_iff_left ⟨hfind, hdir⟩

/-! ## The directory of a file -/

/-- A path that may stand for a file ends with a segment that names it. -/
theorem exists_lastSegment (h : meansDirectory p = false) :
    ∃ segment, '/' ∉ segment ∧ Path.isSilent segment = false ∧ segment ≠ ['.', '.'] ∧
      (p.text.toList = segment ∨ ∃ before, p.text.toList = before ++ '/' :: segment) := by
  obtain ⟨segment, hlast, hslash, htext⟩ := Path.exists_getLast?_segments p.text.toList
  unfold meansDirectory at h
  rw [hlast] at h
  simp only [Bool.or_eq_false_iff, beq_eq_false_iff_ne] at h
  exact ⟨segment, hslash, h.1, h.2, htext⟩

/-- A path that may stand for a file has a parent, which counts from the root if the path does. -/
theorem exists_parent (h : meansDirectory p = false) :
    ∃ d, p.parent = some d ∧ d.isAbsolute = p.isAbsolute := by
  obtain ⟨segment, hslash, hloud, -, htext | ⟨before, htext⟩⟩ := exists_lastSegment h
  · rw [← htext] at hslash hloud
    refine ⟨⟨""⟩, Path.parent_of_notMem hslash hloud, ?_⟩
    unfold Path.isAbsolute
    cases hc : p.text.toList with
    | nil => rfl
    | cons c cs =>
      rw [hc] at hslash
      simpa using fun hc' : c = '/' ↦ hslash (hc' ▸ List.mem_cons_self)
  · obtain ⟨d, hd, -, -, habs, -⟩ := Path.parent_spec htext hslash hloud
    exact ⟨d, hd, habs⟩

/-- The beginning of a text is not longer in bytes. -/
theorem utf8ByteSize_le_of_isPrefix {a b : String} (h : a.toList <+: b.toList) :
    a.utf8ByteSize ≤ b.utf8ByteSize := by
  obtain ⟨tail, htail⟩ := h
  have hb : b = a ++ String.ofList tail := by
    rw [← String.toList_inj, String.toList_append, String.toList_ofList, htail]
  rw [hb, String.utf8ByteSize_append]
  exact Nat.le_add_right _ _

/-- The names along a path are those before its last segment, and that. -/
theorem names_eq_append {d : Path} {before segment : List Char}
    (hp : p.text.toList = before ++ '/' :: segment) (hslash : '/' ∉ segment)
    (hloud : Path.isSilent segment = false)
    (hd : Path.visible d.text.toList = Path.visible before) :
    names p = names d ++ [String.ofList segment] := by
  have hvisible (q : Path) : names q = (Path.visible q.text.toList).map String.ofList := rfl
  rw [hvisible, hvisible, hp, hd, Path.visible_append_slash, Path.visible_of_notMem hslash,
    List.map_append]
  simp [hloud]

/-- The parent of a path that leads to a file leads to the directory of the file. -/
theorem resolve_parent (h : root.resolve base p = .ok (place, t)) (hfile : t.isDirectory = false)
    (hslash : '/' ∈ p.text.toList) :
    ∃ d dir, p.parent = some d ∧ root.resolve base d = .ok (place.dropLast, dir) ∧
      dir.isDirectory := by
  obtain ⟨hplace, hfind, hdir⟩ := resolve_eq_ok_iff.mp h
  have hmeans : meansDirectory p = false := by
    simpa [hfile] using hdir
  obtain ⟨segment, hnot, hloud, hup, htext | ⟨before, htext⟩⟩ := exists_lastSegment hmeans
  · exact absurd (htext ▸ hslash) hnot
  obtain ⟨d, hd, hne, hpre, habs, hvisible⟩ := Path.parent_spec htext hnot hloud
  obtain ⟨hnul, -, hsize, hwalk⟩ := locate_eq_ok_iff.mp hplace
  rw [names_eq_append htext hnot hloud hvisible] at hwalk
  obtain ⟨mid, hmid, hone⟩ := walk_append_eq_ok_iff.mp hwalk
  obtain ⟨⟨dir, hdirectory, hisdir⟩, -, hend⟩ := walk_cons_eq_ok_iff.mp hone
  have hname : String.ofList segment ≠ ".." := fun hs ↦
    hup (by simpa using congrArg String.toList hs)
  have hmidplace : place.dropLast = mid := by
    rw [step, if_neg hname] at hend
    cases hend
    exact List.dropLast_concat
  refine ⟨d, dir, hd, resolve_eq_ok_iff.mpr ⟨locate_eq_ok_iff.mpr ⟨?_, hne, ?_, ?_⟩, ?_, ?_⟩,
    hisdir⟩
  · exact fun hm ↦ hnul (hpre.subset hm)
  · exact Nat.lt_of_le_of_lt (utf8ByteSize_le_of_isPrefix hpre) hsize
  · rw [habs, hmidplace]
    exact hmid
  · rw [hmidplace]
    exact hdirectory
  · exact fun _ ↦ hisdir

/-- A path that can be read does not stand for a directory. -/
theorem meansDirectory_of_readText_eq_ok {text : String} (h : root.readText base p = .ok text) :
    meansDirectory p = false := by
  unfold readText read at h
  cases hr : root.resolve base p with
  | error e => simp [hr] at h
  | ok found =>
    obtain ⟨place, t⟩ := found
    have hdir := (resolve_eq_ok_iff.mp hr).2.2
    cases t with
    | directory entries => simp [hr] at h
    | _ => simpa [isDirectory] using hdir

end ClusterHarness.FileTree
