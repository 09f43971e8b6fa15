import ClusterHarness.Proofs.FileTree.Contents
import ClusterHarness.Proofs.FileTree.Standpoint

/-!
# Removing and creating directories

A path without `..` leads to one location, whatever the tree. What removing the directory there and
creating it again do to the tree is stated by what is seen in the tree afterwards.
-/

namespace ClusterHarness.FileTree

/-! ## Paths that lead down -/

/-- Where a path counts from. -/
def start (base : Location) (p : Path) : Location := if p.isAbsolute then [] else base

/-- Where a path without `..` leads to. -/
def target (base : Location) (p : Path) : Location := start base p ++ names p

/-- What the system takes as a path. -/
structure Usable (p : Path) : Prop where
  no_nul : '\x00' ∉ p.text.toList
  path_short : p.text.utf8ByteSize < pathLimit
  names_short : ∀ name ∈ names p, name.utf8ByteSize ≤ maxName

instance (p : Path) : Decidable (Usable p) :=
  decidable_of_iff ('\x00' ∉ p.text.toList ∧ p.text.utf8ByteSize < pathLimit ∧
      ∀ name ∈ names p, name.utf8ByteSize ≤ maxName)
    ⟨fun ⟨hnul, hpath, hnames⟩ ↦ ⟨hnul, hpath, hnames⟩,
      fun ⟨hnul, hpath, hnames⟩ ↦ ⟨hnul, hpath, hnames⟩⟩

/-- A path that can be walked, and never up. -/
structure LeadsDown (p : Path) : Prop extends Usable p where
  no_up : ".." ∉ names p

variable {root : FileTree} {base place : Location} {p : Path}

/-- A path that names something leads away from where it starts. -/
theorem not_target_prefix_start (h : names p ≠ []) (base : Location) :
    ¬ target base p <+: start base p := by
  intro hpre
  have hle := hpre.length_le
  rw [target, List.length_append] at hle
  have hpos := List.length_pos_iff.mpr h
  omega

private theorem walk_cons_eq {name : String} {rest : List String} (hup : name ≠ "..")
    (hsize : name.utf8ByteSize ≤ maxName) :
    root.walk base (name :: rest) =
      match root.entryAt base with
      | .ok .directory => root.walk (base ++ [name]) rest
      | .ok _ => .error .notADirectory
      | .error e => .error e := by
  rw [walk]
  unfold entryAt
  cases root.find base with
  | error e => rfl
  | ok t => cases t <;> simp [isDirectory, entry, Except.map, hup, Nat.not_lt.mpr hsize]

/-- A location is reached when the directory that it is in exists. -/
theorem reached_concat_iff {name : String} :
    root.Reached (place ++ [name]) ↔ root.entryAt place = .ok .directory := by
  constructor
  · intro h
    exact h place (List.prefix_append _ _) (by simp)
  · intro h k hk hne
    obtain heq | hk := List.prefix_concat_iff.mp hk
    · exact absurd heq hne
    · obtain rfl | hne := eq_or_ne k place
      · exact h
      · exact entryAt_of_prefix h hk hne

section Walk

variable {rest : List String} (hup : ".." ∉ rest)
  (hsize : ∀ name ∈ rest, name.utf8ByteSize ≤ maxName)
include hup hsize

private theorem walk_of_reached (h : root.Reached (base ++ rest)) :
    root.walk base rest = .ok (base ++ rest) := by
  induction rest generalizing base with
  | nil => rw [walk, List.append_nil]
  | cons name rest ih =>
    rw [List.mem_cons, not_or] at hup
    rw [List.forall_mem_cons] at hsize
    rw [walk_cons_eq (Ne.symm hup.1) hsize.1, h base (List.prefix_append _ _) (by simp)]
    rw [List.append_cons base name rest] at h ⊢
    exact ih hup.2 hsize.2 h

private theorem walk_of_missing (hbase : root.entryAt base = .ok .directory)
    (hnot : ¬ root.Obstructed (base ++ rest)) (h : ¬ root.Reached (base ++ rest)) :
    root.walk base rest = .error .notFound := by
  induction rest generalizing base with
  | nil =>
    rw [List.append_nil] at h
    exact absurd (reached_of_entryAt hbase) h
  | cons name rest ih =>
    rw [List.mem_cons, not_or] at hup
    rw [List.forall_mem_cons] at hsize
    rw [walk_cons_eq (Ne.symm hup.1) hsize.1, hbase]
    rw [List.append_cons base name rest] at hnot h
    obtain hdir | hmiss := entryAt_of_not_obstructed fun hob ↦
      hnot (hob.mono (List.prefix_append (base ++ [name]) rest))
    · exact ih hup.2 hsize.2 hdir hnot h
    · cases rest with
      | nil =>
        rw [List.append_nil, reached_concat_iff] at h
        exact absurd hbase h
      | cons other rest =>
        rw [List.mem_cons, not_or] at hup
        rw [List.forall_mem_cons] at hsize
        dsimp only
        rw [walk_cons_eq (Ne.symm hup.2.1) hsize.2.1, hmiss]

/-- A walk that finds something in its way goes no further, unless it has come to its end. -/
theorem walk_of_obstructed (h : root.Obstructed (base ++ rest)) :
    root.walk base rest = .error .notADirectory ∨ root.walk base rest = .ok (base ++ rest) := by
  induction rest generalizing base with
  | nil =>
    rw [walk, List.append_nil]
    exact .inr rfl
  | cons name rest ih =>
    rw [List.mem_cons, not_or] at hup
    rw [List.forall_mem_cons] at hsize
    rw [walk_cons_eq (Ne.symm hup.1) hsize.1]
    by_cases hbase : root.Obstructed base
    · obtain he | ⟨e, he, hne⟩ := hbase.entryAt
      · exact .inl (by rw [he])
      · rw [he]
        cases e with
        | directory => exact absurd rfl hne
        | _ => exact .inl rfl
    · obtain hdir | hmiss := entryAt_of_not_obstructed hbase
      · rw [hdir]
        rw [List.append_cons base name rest] at h ⊢
        exact ih hup.2 hsize.2 h
      · -- What is in the way would be below something that is missing.
        obtain ⟨k, hk, e, he, hne⟩ := h
        obtain hk | hk := List.prefix_or_prefix_of_prefix hk (List.prefix_append base _)
        · exact absurd ⟨k, hk, e, he, hne⟩ hbase
        · rw [entryAt_of_missing hmiss hk] at he
          cases he

end Walk

/-- A walk that leads down goes through directories along names that are not too long. -/
theorem walk_down_eq_ok {rest : List String} (hup : ".." ∉ rest)
    (h : root.walk base rest = .ok place) :
    place = base ++ rest ∧ (∀ name ∈ rest, name.utf8ByteSize ≤ maxName) ∧
      (rest ≠ [] → root.Reached place) := by
  induction rest generalizing base with
  | nil =>
    cases h
    exact ⟨(List.append_nil _).symm, nofun, fun hne ↦ absurd rfl hne⟩
  | cons name rest ih =>
    rw [List.mem_cons, not_or] at hup
    obtain ⟨⟨t, ht, hisdir⟩, hsize, hrest⟩ := walk_cons_eq_ok_iff.mp h
    rw [step, if_neg (Ne.symm hup.1)] at hrest
    obtain ⟨rfl, hsizes, hreach⟩ := ih hup.2 hrest
    refine ⟨by simp, ?_, fun _ ↦ ?_⟩
    · rw [List.forall_mem_cons]
      exact ⟨hsize.resolve_left (Ne.symm hup.1), hsizes⟩
    · cases rest with
      | nil =>
        rw [List.append_nil, reached_concat_iff]
        exact entryAt_eq_ok_iff.mpr ⟨t, ht, isDirectory_iff.mp hisdir⟩
      | cons other rest => exact hreach (List.cons_ne_nil _ _)

/-! ## What a path stands for -/

private theorem names_of_text_eq (h : p.text = "") : names p = [] := by
  unfold names
  rw [h]
  rfl

/-- A path that names something is not empty. -/
theorem text_ne_of_names (hne : names p ≠ []) : p.text ≠ "" := fun h ↦ hne (names_of_text_eq h)

private theorem locate_eq_walk (hu : Usable p) (hne : p.text ≠ "") :
    root.locate base p = root.walk (start base p) (names p) := by
  unfold locate
  rw [if_neg (by simpa using hu.no_nul), if_neg (by simpa using hne),
    if_neg (Nat.not_le.mpr hu.path_short)]
  rfl

/-- A path that can be located is one that the system takes. -/
theorem locate_down_eq_ok (hup : ".." ∉ names p) (h : root.locate base p = .ok place) :
    place = target base p ∧ LeadsDown p ∧ (names p ≠ [] → root.Reached place) := by
  obtain ⟨hnul, -, hshort, hwalk⟩ := locate_eq_ok_iff.mp h
  obtain ⟨hplace, hsizes, hreach⟩ := walk_down_eq_ok hup hwalk
  exact ⟨hplace, ⟨⟨hnul, hshort, hsizes⟩, hup⟩, hreach⟩

section LeadsDown

variable (hp : LeadsDown p) (hne : p.text ≠ "")
include hp hne

private theorem locate_of_reached (h : root.Reached (target base p)) :
    root.locate base p = .ok (target base p) := by
  rw [locate_eq_walk hp.toUsable hne]
  exact walk_of_reached hp.no_up hp.names_short h

private theorem locate_of_missing (hstart : root.entryAt (start base p) = .ok .directory)
    (hnot : ¬ root.Obstructed (target base p)) (h : ¬ root.Reached (target base p)) :
    root.locate base p = .error .notFound := by
  rw [locate_eq_walk hp.toUsable hne]
  exact walk_of_missing hp.no_up hp.names_short hstart hnot h

private theorem locate_of_obstructed (h : root.Obstructed (target base p)) :
    root.locate base p = .error .notADirectory ∨ root.locate base p = .ok (target base p) := by
  rw [locate_eq_walk hp.toUsable hne]
  exact walk_of_obstructed hp.no_up hp.names_short h

private theorem resolve_of_directory (h : root.entryAt (target base p) = .ok .directory) :
    ∃ t, root.resolve base p = .ok (target base p, t) ∧ t.isDirectory := by
  obtain ⟨t, ht, hentry⟩ := entryAt_eq_ok_iff.mp h
  have hdir := isDirectory_iff.mpr hentry
  refine ⟨t, resolve_eq_ok_iff.mpr ⟨?_, ht, fun _ ↦ hdir⟩, hdir⟩
  exact locate_of_reached hp hne (reached_of_entryAt h)

/-! ## Removing -/

/-- Nothing is removed where a file is in the way. -/
theorem removeTree_of_obstructed (h : root.Obstructed (target base p)) :
    root.removeTree base p = (.error .notADirectory, root) := by
  unfold removeTree resolve
  obtain hlocate | hlocate := locate_of_obstructed hp hne h
  · rw [hlocate]
  · rw [hlocate]
    obtain he | ⟨e, he, hkind⟩ := h.entryAt
    · rw [entryAt_eq_error_iff] at he
      simp only [he]
    · obtain ⟨t, ht, rfl⟩ := entryAt_eq_ok_iff.mp he
      have hfile : t.isDirectory = false := by
        rwa [ne_eq, ← isDirectory_iff, Bool.not_eq_true] at hkind
      cases hmeans : meansDirectory p <;> simp [ht, hfile]

/-- Removing a directory that may be missing. -/
theorem removeTree_of_not_obstructed (hnames : names p ≠ []) (hd : Distinct root)
    (hstart : root.entryAt (start base p) = .ok .directory)
    (hnot : ¬ root.Obstructed (target base p)) :
    ∃ after, (root.removeTree base p = (.ok (), after) ∨
        root.removeTree base p = (.error .notFound, after)) ∧ Distinct after ∧
      ∀ l, after.entryAt l =
        if target base p <+: l then .error .notFound else root.entryAt l := by
  obtain hdir | hmiss := entryAt_of_not_obstructed hnot
  · have htarget : target base p ≠ [] := by simp [target, hnames]
    obtain ⟨t, hresolve, hisdir⟩ := resolve_of_directory hp hne hdir
    refine ⟨root.remove (target base p), .inl ?_, distinct_remove hd htarget, ?_⟩
    · simp [removeTree, hresolve, hisdir]
    · exact entryAt_remove hd (reached_of_entryAt hdir) htarget
  · refine ⟨root, .inr ?_, hd, fun l ↦ ?_⟩
    · unfold removeTree resolve
      by_cases hreach : root.Reached (target base p)
      · simp only [locate_of_reached hp hne hreach, entryAt_eq_error_iff.mp hmiss]
      · rw [locate_of_missing hp hne hstart hnot hreach]
    · split
      · next hbelow => exact entryAt_of_missing hmiss hbelow
      · rfl

/-! ## Creating one directory -/

private theorem createDir_of_directory (h : root.entryAt (target base p) = .ok .directory) :
    createDir base p root = .error .alreadyExists ∧ root.isDirectoryAt base p = true := by
  obtain ⟨t, hresolve, hisdir⟩ := resolve_of_directory hp hne h
  obtain ⟨hlocate, hfind, -⟩ := resolve_eq_ok_iff.mp hresolve
  exact ⟨by simp only [createDir, hlocate, hfind], by simpa only [isDirectoryAt, hresolve]⟩

private theorem createDir_of_reached (h : root.Reached (target base p))
    (hmiss : root.entryAt (target base p) = .error .notFound) :
    createDir base p root = .ok (root.put (target base p) (directory [])) := by
  simp only [createDir, locate_of_reached hp hne h, entryAt_eq_error_iff.mp hmiss]

private theorem createDir_of_missing (hstart : root.entryAt (start base p) = .ok .directory)
    (hnot : ¬ root.Obstructed (target base p)) (h : ¬ root.Reached (target base p)) :
    createDir base p root = .error .notFound := by
  simp only [createDir, locate_of_missing hp hne hstart hnot h]

end LeadsDown

/-! ## Trees that grow -/

/-- Some of the missing directories on the way to a location have been created. -/
structure Grown (root : FileTree) (place : Location) (after : FileTree) : Prop where
  distinct : Distinct after
  entryAt : ∀ l, after.entryAt l = root.entryAt l ∨
    l <+: place ∧ root.entryAt l = .error .notFound ∧ after.entryAt l = .ok .directory

section Grown

variable {mid after : FileTree} {further : Location}

/-- A tree grows into itself. -/
theorem Grown.refl (h : Distinct root) (place : Location) : Grown root place root :=
  ⟨h, fun _ ↦ .inl rfl⟩

/-- What a tree has before it grows, it has afterwards. -/
theorem Grown.keeps {l : Location} {e : Entry} (h : Grown root place after)
    (he : root.entryAt l = .ok e) : after.entryAt l = .ok e := by
  obtain hsame | ⟨-, hmiss, -⟩ := h.entryAt l
  · rw [hsame, he]
  · rw [he] at hmiss
    cases hmiss

/-- A tree grows nowhere but on the way to the place. -/
theorem Grown.entryAt_of_not_prefix {l : Location} (h : Grown root place after)
    (hl : ¬ l <+: place) : after.entryAt l = root.entryAt l :=
  (h.entryAt l).resolve_right fun hnew ↦ hl hnew.1

/-- What grows towards a place grows towards every place below it. -/
theorem Grown.mono (h : Grown root place after) (hplace : place <+: further) :
    Grown root further after :=
  ⟨h.distinct, fun l ↦ (h.entryAt l).imp_right fun hnew ↦ ⟨hnew.1.trans hplace, hnew.2⟩⟩

/-- A tree that grows twice towards a place has grown towards it. -/
theorem Grown.trans (h : Grown root place mid) (h' : Grown mid place after) :
    Grown root place after := by
  refine ⟨h'.distinct, fun l ↦ ?_⟩
  obtain hsame | ⟨hl, hmiss, hdir⟩ := h'.entryAt l
  · rw [hsame]
    exact h.entryAt l
  · obtain hsame | ⟨-, -, hmid⟩ := h.entryAt l
    · exact .inr ⟨hl, hsame ▸ hmiss, hdir⟩
    · rw [hmid] at hmiss
      cases hmiss

/-- A new directory is seen where it has been put. -/
theorem grown_put (hd : Distinct root) (h : root.Reached place)
    (hmiss : root.entryAt place = .error .notFound) :
    Grown root place (root.put place (directory [])) := by
  refine ⟨distinct_put hd _ distinct_empty, fun l ↦ ?_⟩
  rw [entryAt_put hd h]
  by_cases hbelow : place <+: l
  · rw [if_pos hbelow]
    obtain ⟨rest, rfl⟩ := hbelow
    rw [List.drop_left]
    cases rest with
    | nil =>
      rw [List.append_nil]
      exact .inr ⟨List.prefix_rfl, hmiss, rfl⟩
    | cons name rest =>
      rw [entryAt_of_missing hmiss (List.prefix_append _ _)]
      exact .inl rfl
  · rw [if_neg hbelow]
    exact .inl rfl

end Grown

/-! ## Creating a directory and those above it -/

/-- A directory is created exactly where its parent is and it is not. -/
theorem createDir_eq_ok_iff {after : FileTree} : createDir base p root = .ok after ↔
    ∃ place, root.locate base p = .ok place ∧ root.entryAt place = .error .notFound ∧
      after = root.put place (directory []) := by
  unfold createDir
  cases root.locate base p with
  | error e => simp
  | ok place =>
    simp only [entryAt_eq_error_iff, Except.ok.injEq, exists_eq_left']
    cases root.find place with
    | ok t => simp
    | error e => cases e <;> simp [eq_comm]

private theorem target_of_text_eq (h : p.text = "") (base : Location) :
    target base p = start base p := by
  rw [target, names_of_text_eq h, List.append_nil]

private theorem leadsDown_of_text_eq (h : p.text = "") : LeadsDown p where
  no_nul := by simp [h]
  path_short := by simp [h, pathLimit]
  names_short := by simp [names_of_text_eq h]
  no_up := by simp [names_of_text_eq h]

/-- A path that leads to the directory in which another path names something. -/
structure Above (d p : Path) (name : String) : Prop where
  names_eq : names p = names d ++ [name]
  isAbsolute_eq : d.isAbsolute = p.isAbsolute
  text_begins : d.text.toList <+: p.text.toList

/-- The parent of a path names all but the last of its names. -/
theorem parent_of_names (h : names p ≠ []) : ∃ d name, p.parent = some d ∧ Above d p name := by
  have hvisible (q : Path) : names q = (Path.visible q.text.toList).map String.ofList := rfl
  rw [hvisible, ne_eq, List.map_eq_nil_iff] at h
  obtain hnil | ⟨front, last, hsplit⟩ := List.eq_nil_or_concat (Path.visible p.text.toList)
  · exact absurd hnil h
  rw [List.concat_eq_append] at hsplit
  obtain ⟨d, hd, hfront, hstart, hpre⟩ := Path.parent_of_visible hsplit
  refine ⟨d, String.ofList last, hd, ?_, Path.isAbsolute_of_isPrefix hstart hpre, hpre⟩
  rw [hvisible, hvisible, hsplit, hfront, List.map_append, List.map_singleton]

namespace Above

variable {d : Path} {name : String} (h : Above d p name)
include h

/-- A path and those that it begins with start at the same place. -/
theorem start_eq (base : Location) : start base d = start base p := by
  rw [start, start, h.isAbsolute_eq]

private theorem target_eq (base : Location) : target base p = target base d ++ [name] := by
  rw [target, target, h.names_eq, h.start_eq, List.append_assoc]

private theorem target_begins (base : Location) : target base d <+: target base p :=
  h.target_eq base ▸ List.prefix_append _ _

private theorem mem_names {other : String} (hother : other ∈ names d) : other ∈ names p := by
  rw [h.names_eq]
  exact List.mem_append_left _ hother

private theorem leadsDown (hp : LeadsDown p) : LeadsDown d where
  no_nul hnul := hp.no_nul (h.text_begins.subset hnul)
  path_short := Nat.lt_of_le_of_lt (utf8ByteSize_le_of_isPrefix h.text_begins) hp.path_short
  names_short other hother := hp.names_short other (h.mem_names hother)
  no_up hup := hp.no_up (h.mem_names hup)

private theorem length_lt : d.text.length < p.text.length := by
  rw [← String.length_toList, ← String.length_toList]
  refine Nat.lt_of_le_of_ne h.text_begins.length_le fun hlength ↦ ?_
  have hsame : names d = names p := by
    rw [names, names, h.text_begins.eq_of_length hlength]
  have hsplit := h.names_eq
  rw [hsame] at hsplit
  simp at hsplit

end Above

section Creation

variable (hup : ".." ∉ names p) (hd : Distinct root)
  (hstart : root.entryAt (start base p) = .ok .directory)
include hup hd hstart

/-- The directory that was created is there, and its path leads down to it. -/
theorem createDir_grown {after : FileTree} (h : createDir base p root = .ok after) :
    Grown root (target base p) after ∧ after.entryAt (target base p) = .ok .directory ∧
      LeadsDown p := by
  obtain ⟨place, hlocate, hmiss, rfl⟩ := createDir_eq_ok_iff.mp h
  obtain ⟨rfl, hp, hreach⟩ := locate_down_eq_ok hup hlocate
  have hnames : names p ≠ [] := by
    intro hnil
    rw [target, hnil, List.append_nil, hstart] at hmiss
    cases hmiss
  refine ⟨grown_put hd (hreach hnames) hmiss, ?_, hp⟩
  rw [entryAt_put hd (hreach hnames), if_pos List.prefix_rfl, List.drop_length]
  rfl

omit hup hd in
/-- A path of which something is missing has names. -/
theorem names_of_createDir_eq_notFound (hne : p.text ≠ "")
    (h : createDir base p root = .error .notFound) : names p ≠ [] := by
  intro hnil
  obtain ⟨t, ht, -⟩ := entryAt_eq_ok_iff.mp hstart
  unfold createDir locate at h
  rw [hnil, walk] at h
  by_cases hnul : '\x00' ∈ p.text.toList
  · simp [hnul] at h
  by_cases hlong : pathLimit ≤ p.text.utf8ByteSize
  · simp [hnul, hne, hlong] at h
  have hfind : root.find (if p.isAbsolute then [] else base) = .ok t := ht
  simp [hnul, hne, hlong, hfind] at h

omit hd hstart in
private theorem isDirectoryAt_down (h : root.isDirectoryAt base p = true) :
    root.entryAt (target base p) = .ok .directory ∧ LeadsDown p := by
  unfold isDirectoryAt at h
  split at h
  · next place t hresolve =>
    obtain ⟨hlocate, hfind, -⟩ := resolve_eq_ok_iff.mp hresolve
    obtain ⟨rfl, hp, -⟩ := locate_down_eq_ok hup hlocate
    exact ⟨entryAt_eq_ok_iff.mpr ⟨t, hfind, isDirectory_iff.mp h⟩, hp⟩
  · cases h

end Creation

/-- Creating directories takes nothing away, whether it succeeds or not, and if it succeeds the
directory is there. -/
structure Creates (root : FileTree) (base : Location) (p : Path)
    (r : Except IoError Unit × FileTree) : Prop where
  grown : Grown root (target base p) r.2
  there : r.1 = .ok () → r.2.entryAt (target base p) = .ok .directory ∧ LeadsDown p

section Creates

variable {mid : FileTree}

/-- A creation that fails may have grown the tree. -/
theorem Creates.error (h : Grown root (target base p) mid) (e : IoError) :
    Creates root base p (.error e, mid) :=
  ⟨h, nofun⟩

/-- A directory that could not be created may be there already. -/
theorem Creates.existing (hup : ".." ∉ names p) (h : Grown root (target base p) mid)
    (e : IoError) :
    Creates root base p (if isDirectoryAt mid base p then (.ok (), mid) else (.error e, mid)) := by
  split
  · next hdir => exact ⟨h, fun _ ↦ isDirectoryAt_down hup hdir⟩
  · exact .error h e

/-- A creation succeeds where the last directory can be created. -/
theorem Creates.created {after : FileTree} (hup : ".." ∉ names p)
    (hstart : root.entryAt (start base p) = .ok .directory)
    (h : Grown root (target base p) mid) (hcreate : createDir base p mid = .ok after) :
    Creates root base p (.ok (), after) := by
  obtain ⟨hgrown, hthere⟩ := createDir_grown hup h.distinct (h.keeps hstart) hcreate
  exact ⟨h.trans hgrown, fun _ ↦ hthere⟩

end Creates

/-- Creating the missing directories of a path, up to some depth, only adds to the tree. -/
theorem createDirsTo_creates (depth : Nat) (hup : ".." ∉ names p) (hd : Distinct root)
    (hstart : root.entryAt (start base p) = .ok .directory) :
    Creates root base p (createDirsTo base depth p root) := by
  induction depth generalizing p with
  | zero => exact .error (.refl hd _) _
  | succ depth ih =>
    rw [createDirsTo]
    split
    · next hempty =>
      have htext : p.text = "" := by simpa using hempty
      refine ⟨.refl hd _, fun _ ↦ ⟨?_, leadsDown_of_text_eq htext⟩⟩
      rwa [target_of_text_eq htext]
    next hne =>
    split
    · next after h => exact .created hup hstart (.refl hd _) h
    · next h =>
      have hnames := names_of_createDir_eq_notFound hstart (by simpa using hne) h
      obtain ⟨d, name, hparent, habove⟩ := parent_of_names hnames
      have hmid := (ih (fun h ↦ hup (habove.mem_names h))
        (habove.start_eq base ▸ hstart)).grown.mono (habove.target_begins base)
      rw [hparent]
      dsimp only
      cases hrec : createDirsTo base depth d root with
      | mk result mid =>
        rw [hrec] at hmid
        cases result with
        | error e => exact .error hmid e
        | ok _ =>
          dsimp only
          split
          · next after h => exact .created hup hstart hmid h
          · next e h => exact .existing hup hmid e
    · next e _ _ => exact .existing hup (.refl hd _) e

/-- Directories can be created where nothing is in the way. -/
theorem createDirsTo_eq_ok {depth : Nat} (hp : LeadsDown p) (hd : Distinct root)
    (hstart : root.entryAt (start base p) = .ok .directory)
    (hnot : ¬ root.Obstructed (target base p)) (hdepth : p.text.length < depth) :
    (createDirsTo base depth p root).1 = .ok () := by
  induction depth generalizing p with
  | zero => exact absurd hdepth (Nat.not_lt_zero _)
  | succ depth ih =>
    rw [createDirsTo]
    by_cases hempty : p.text = ""
    · rw [if_pos (by simp [hempty])]
    rw [if_neg (by simpa using hempty)]
    obtain hdir | hmiss := entryAt_of_not_obstructed hnot
    · obtain ⟨hexists, hisdir⟩ := createDir_of_directory hp hempty hdir
      rw [hexists]
      dsimp only
      rw [if_pos hisdir]
    by_cases hreach : root.Reached (target base p)
    · rw [createDir_of_reached hp hempty hreach hmiss]
    have hmissing := createDir_of_missing hp hempty hstart hnot hreach
    obtain ⟨d, name, hparent, habove⟩ :=
      parent_of_names (names_of_createDir_eq_notFound hstart hempty hmissing)
    have hlength := habove.length_lt
    have hpd := habove.leadsDown hp
    have hcreates := createDirsTo_creates depth hpd.no_up hd (habove.start_eq base ▸ hstart)
    have hok := ih hpd (habove.start_eq base ▸ hstart)
      (fun hob ↦ hnot (hob.mono (habove.target_begins base))) (by omega)
    rw [hmissing, hparent]
    dsimp only
    cases hrec : createDirsTo base depth d root with
    | mk result mid =>
      rw [hrec] at hcreates hok
      obtain rfl : result = .ok () := hok
      have hthere : mid.Reached (target base p) := by
        rw [habove.target_eq, reached_concat_iff]
        exact (hcreates.there rfl).1
      have hstill : mid.entryAt (target base p) = .error .notFound := by
        rw [hcreates.grown.entryAt_of_not_prefix, hmiss]
        intro hpre
        have hle := hpre.length_le
        rw [habove.target_eq, List.length_append, List.length_singleton] at hle
        omega
      dsimp only
      rw [createDir_of_reached hp hempty hthere hstill]

end ClusterHarness.FileTree
