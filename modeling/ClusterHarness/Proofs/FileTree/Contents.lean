import ClusterHarness.FileTree
import Mathlib.Data.List.Basic
import Mathlib.Data.List.Infix
import Mathlib.Data.List.Nodup

/-!
# The contents of a file tree

A tree is seen here as what it holds at every location. What is put at a location, or removed from
there, is seen at that location and below it, and all else is seen as before, in a tree whose
directories have each of their names once.
-/

namespace ClusterHarness.FileTree

/-! ## What is at a location -/

/-- What a location holds, without what is below it. -/
inductive Entry where
  | directory
  | file (content : Bytes) (executable : Bool)
  | tool (name : String)
  | device (name : String)
deriving DecidableEq, Repr

def entry : FileTree → Entry
  | directory _ => .directory
  | file content executable => .file content executable
  | tool name => .tool name
  | device name => .device name

/-- What is seen at a location, or why nothing is. -/
def entryAt (root : FileTree) (place : Location) : Except IoError Entry :=
  (root.find place).map entry

variable {root t : FileTree} {place k l : Location} {name other : String}
  {entries : List (String × FileTree)}

/-- A tree is a directory exactly if its entry is one. -/
theorem isDirectory_iff : t.isDirectory = true ↔ t.entry = .directory := by
  cases t <;> simp [isDirectory, entry]

private theorem entry_eq_directory_iff :
    t.entry = .directory ↔ ∃ entries, t = directory entries := by
  cases t <;> simp [entry]

private theorem entryAt_nil (root : FileTree) : root.entryAt [] = .ok root.entry := by
  cases root <;> rfl

/-- There is an entry at a location exactly if there is a tree with it. -/
theorem entryAt_eq_ok_iff {e : Entry} :
    root.entryAt l = .ok e ↔ ∃ t, root.find l = .ok t ∧ t.entry = e := by
  unfold entryAt
  cases root.find l <;> simp [Except.map]

/-- There is no entry at a location exactly if there is no tree, for the same cause. -/
theorem entryAt_eq_error_iff {e : IoError} :
    root.entryAt l = .error e ↔ root.find l = .error e := by
  unfold entryAt
  cases root.find l <;> simp [Except.map]

/-- What is seen at a location below what a name may stand for. -/
def seen (t : Option FileTree) (l : Location) : Except IoError Entry :=
  match t with
  | some t => t.entryAt l
  | none => .error .notFound

private theorem entryAt_cons (entries : List (String × FileTree)) (name : String) (l : Location) :
    (directory entries).entryAt (name :: l) = seen (entries.lookup name) l := by
  unfold entryAt
  rw [find]
  cases entries.lookup name <;> rfl

private theorem find_append (root : FileTree) (k l : Location) :
    root.find (k ++ l) = root.find k >>= (·.find l) := by
  induction k generalizing root with
  | nil => cases root <;> rfl
  | cons name k ih =>
    cases root with
    | directory entries =>
      rw [List.cons_append, find, find]
      cases entries.lookup name with
      | none => rfl
      | some t => exact ih t
    | _ => rfl

/-- What is above something is a directory. -/
theorem entryAt_of_prefix {e : Entry} (h : root.entryAt l = .ok e) (hk : k <+: l) (hne : k ≠ l) :
    root.entryAt k = .ok .directory := by
  obtain ⟨rest, rfl⟩ := hk
  obtain ⟨t, ht, -⟩ := entryAt_eq_ok_iff.mp h
  rw [find_append] at ht
  cases hf : root.find k with
  | error e =>
    rw [hf] at ht
    cases ht
  | ok d =>
    refine entryAt_eq_ok_iff.mpr ⟨d, hf, ?_⟩
    rw [hf] at ht
    cases rest with
    | nil => exact absurd (List.append_nil k).symm hne
    | cons name rest =>
      cases d with
      | directory entries => rfl
      | _ => cases ht

/-- Below what is missing all is missing. -/
theorem entryAt_of_missing {e : IoError} (h : root.entryAt k = .error e) (hk : k <+: l) :
    root.entryAt l = .error e := by
  obtain ⟨rest, rfl⟩ := hk
  rw [entryAt_eq_error_iff] at h ⊢
  rw [find_append, h]
  rfl

/-! ## Directories in the way -/

/-- Something on the way to a location, or at it, is no directory. -/
def Obstructed (root : FileTree) (l : Location) : Prop :=
  ∃ k, k <+: l ∧ ∃ e, root.entryAt k = .ok e ∧ e ≠ .directory

instance (root : FileTree) (l : Location) : Decidable (root.Obstructed l) :=
  decidable_of_iff (∃ k ∈ l.inits, ∃ e ∈ (root.entryAt k).toOption, e ≠ .directory) <| by
    have hentry (k : Location) (e : Entry) :
        e ∈ (root.entryAt k).toOption ↔ root.entryAt k = .ok e := by
      cases root.entryAt k <;> simp [Except.toOption]
    simp only [List.mem_inits, hentry, Obstructed]

/-- What obstructs a location obstructs every location below it. -/
theorem Obstructed.mono (h : root.Obstructed k) (hk : k <+: l) : root.Obstructed l := by
  obtain ⟨j, hj, hentry⟩ := h
  exact ⟨j, hj.trans hk, hentry⟩

/-- Where nothing is in the way there is a directory, or nothing. -/
theorem entryAt_of_not_obstructed (h : ¬ root.Obstructed l) :
    root.entryAt l = .ok .directory ∨ root.entryAt l = .error .notFound := by
  induction l generalizing root with
  | nil =>
    left
    rw [entryAt_nil]
    by_contra hne
    exact h ⟨[], List.nil_prefix, _, entryAt_nil root, fun he ↦ hne (by rw [he])⟩
  | cons name l ih =>
    have hroot : root.entry = .directory := by
      by_contra hne
      exact h ⟨[], List.nil_prefix, _, entryAt_nil root, hne⟩
    obtain ⟨entries, rfl⟩ := entry_eq_directory_iff.mp hroot
    rw [entryAt_cons]
    cases hlookup : entries.lookup name with
    | none => exact .inr rfl
    | some t =>
      refine ih ?_
      rintro ⟨k, hk, e, he, hne⟩
      refine h ⟨name :: k, List.cons_prefix_cons.mpr ⟨rfl, hk⟩, e, ?_, hne⟩
      rw [entryAt_cons, hlookup]
      exact he

/-- Nothing is obstructed in an empty directory. -/
theorem not_obstructed_empty (l : Location) : ¬ (directory []).Obstructed l := by
  rintro ⟨k, -, e, he, hne⟩
  cases k with
  | nil => exact hne (Except.ok.inj he).symm
  | cons name k => cases he

/-- What is in the way is there itself, or it is no directory that could be entered. -/
theorem Obstructed.entryAt (h : root.Obstructed l) :
    root.entryAt l = .error .notADirectory ∨ ∃ e, root.entryAt l = .ok e ∧ e ≠ .directory := by
  obtain ⟨k, ⟨rest, rfl⟩, e, he, hne⟩ := h
  cases rest with
  | nil =>
    rw [List.append_nil]
    exact .inr ⟨e, he, hne⟩
  | cons name rest =>
    left
    obtain ⟨t, ht, rfl⟩ := entryAt_eq_ok_iff.mp he
    rw [entryAt_eq_error_iff, find_append, ht]
    cases t with
    | directory entries => exact absurd rfl hne
    | _ => rfl

/-! ## Names that stand for one thing -/

/-- Every directory has each of its names once. -/
inductive Distinct : FileTree → Prop
  | directory {entries : List (String × FileTree)} (names : (entries.map Prod.fst).Nodup)
      (below : ∀ e ∈ entries, Distinct e.2) : Distinct (directory entries)
  | file (content : Bytes) (executable : Bool) : Distinct (file content executable)
  | tool (name : String) : Distinct (tool name)
  | device (name : String) : Distinct (device name)

/-- The names in a directory are distinct if those of its entries are, at every depth. -/
theorem distinct_directory_iff :
    Distinct (directory entries) ↔
      (entries.map Prod.fst).Nodup ∧ ∀ e ∈ entries, Distinct e.2 :=
  ⟨fun h ↦ match h with | .directory names below => ⟨names, below⟩, fun h ↦ .directory h.1 h.2⟩

/-- An empty directory has distinct names. -/
theorem distinct_empty : Distinct (directory []) :=
  distinct_directory_iff.mpr ⟨List.nodup_nil, by simp⟩

/-! ## Changing an entry -/

variable {f : Option FileTree → Option FileTree}

/-- An entry after a change was there before, or is what the changed name stands for. -/
theorem mem_alter {e : String × FileTree} (h : e ∈ alter name f entries) :
    e ∈ entries ∨ e.1 = name ∧ ∃ o, f o = some e.2 ∧ ∀ t ∈ o, (name, t) ∈ entries := by
  induction entries with
  | nil =>
    simp only [alter, Option.mem_toList, Option.map_eq_some_iff] at h
    obtain ⟨t, ht, rfl⟩ := h
    exact .inr ⟨rfl, none, ht, by simp⟩
  | cons d entries ih =>
    rw [alter] at h
    split at h
    · next hd =>
      rw [List.mem_append, Option.mem_toList, Option.map_eq_some_iff] at h
      obtain ⟨t, ht, rfl⟩ | h := h
      · refine .inr ⟨rfl, some d.2, ht, ?_⟩
        rintro _ ⟨⟩
        rw [← hd]
        exact List.mem_cons_self
      · exact .inl (List.mem_cons_of_mem d h)
    · next hd =>
      rw [List.mem_cons] at h
      obtain rfl | h := h
      · exact .inl List.mem_cons_self
      · obtain h | ⟨hname, o, ho, hmem⟩ := ih h
        · exact .inl (List.mem_cons_of_mem d h)
        · exact .inr ⟨hname, o, ho, fun t ht ↦ List.mem_cons_of_mem d (hmem t ht)⟩

private theorem nodup_alter (h : (entries.map Prod.fst).Nodup) (name : String)
    (f : Option FileTree → Option FileTree) : ((alter name f entries).map Prod.fst).Nodup := by
  induction entries with
  | nil =>
    rw [alter]
    cases f none <;> simp
  | cons d entries ih =>
    rw [List.map_cons, List.nodup_cons] at h
    rw [alter]
    split
    · next hd =>
      cases f (some d.2) with
      | none => simpa using h.2
      | some t => simpa [← hd] using h
    · next hd =>
      rw [List.map_cons, List.nodup_cons]
      refine ⟨fun hmem ↦ ?_, ih h.2⟩
      obtain ⟨e, he, hname⟩ := List.mem_map.mp hmem
      obtain he | ⟨hself, -⟩ := mem_alter he
      · exact h.1 (hname ▸ List.mem_map_of_mem he)
      · exact hd (hname.symm.trans hself)

private theorem lookup_cons_of_ne {d : String × FileTree} (h : d.1 ≠ name) :
    (d :: entries).lookup name = entries.lookup name := by
  have hne : (name == d.1) = false := by simpa using Ne.symm h
  rw [List.lookup_cons, hne]

private theorem lookup_cons_self (d : String × FileTree) (entries : List (String × FileTree)) :
    (d :: entries).lookup d.1 = some d.2 := by
  rw [List.lookup_cons, beq_self_eq_true]

private theorem lookup_eq_none_of_notMem (h : name ∉ entries.map Prod.fst) :
    entries.lookup name = none := by
  rw [List.lookup_eq_none_iff]
  intro e he
  simpa using fun hname : name = e.1 ↦ h (hname ▸ List.mem_map_of_mem he)

private theorem lookup_alter_of_ne (h : other ≠ name) (f : Option FileTree → Option FileTree)
    (entries : List (String × FileTree)) :
    (alter name f entries).lookup other = entries.lookup other := by
  induction entries with
  | nil =>
    rw [alter]
    cases f none with
    | none => rfl
    | some t => exact lookup_cons_of_ne h.symm
  | cons d entries ih =>
    rw [alter]
    split
    · next hd =>
      rw [lookup_cons_of_ne (hd ▸ h.symm)]
      cases f (some d.2) with
      | none => rfl
      | some t => exact lookup_cons_of_ne h.symm
    · rw [List.lookup_cons, List.lookup_cons, ih]

private theorem lookup_alter_self (h : (entries.map Prod.fst).Nodup) (name : String)
    (f : Option FileTree → Option FileTree) :
    (alter name f entries).lookup name = f (entries.lookup name) := by
  induction entries with
  | nil =>
    rw [alter, List.lookup_nil]
    cases f none with
    | none => rfl
    | some t => exact lookup_cons_self (name, t) []
  | cons d entries ih =>
    rw [List.map_cons, List.nodup_cons] at h
    rw [alter]
    split
    · next hd =>
      subst hd
      rw [lookup_cons_self]
      cases f (some d.2) with
      | none => exact lookup_eq_none_of_notMem h.1
      | some t => exact lookup_cons_self (d.1, t) entries
    · next hd =>
      rw [lookup_cons_of_ne hd, lookup_cons_of_ne hd]
      exact ih h.2

/-! ## Changing a tree -/

variable {o : Option FileTree}

/-- Below a name all names are as distinct as in the tree. -/
theorem distinct_of_lookup (h : Distinct (directory entries)) (name : String) :
    ∀ t ∈ entries.lookup name, Distinct t := by
  intro t ht
  obtain ⟨before, after, heq, -⟩ := List.lookup_eq_some_iff.mp ht
  exact (distinct_directory_iff.mp h).2 (name, t) (by simp [heq])

private theorem distinct_update (hf : ∀ o, (∀ t ∈ o, Distinct t) → ∀ t ∈ f o, Distinct t)
    (place : Location) (ho : ∀ t ∈ o, Distinct t) : ∀ t ∈ update f place o, Distinct t := by
  induction place generalizing o with
  | nil => exact hf o ho
  | cons name place ih =>
    cases o with
    | none => nofun
    | some d =>
      cases d with
      | directory entries =>
        rintro _ ⟨⟩
        obtain ⟨hnames, hbelow⟩ := distinct_directory_iff.mp (ho _ rfl)
        refine distinct_directory_iff.mpr ⟨nodup_alter hnames _ _, fun e he ↦ ?_⟩
        obtain he | ⟨-, below, hchanged, hmem⟩ := mem_alter he
        · exact hbelow e he
        · exact ih (fun t ht ↦ hbelow _ (hmem t ht)) _ hchanged
      | _ =>
        rintro _ ⟨⟩
        exact ho _ rfl

/-- What stands at a location whose directory exists is seen there, and all else as before. -/
theorem seen_update (c : Option FileTree) (place : Location) (ho : ∀ t ∈ o, Distinct t)
    (hparent : ∀ k, k <+: place → k ≠ place → seen o k = .ok .directory) (l : Location) :
    seen (update (fun _ ↦ c) place o) l =
      if place <+: l then seen c (l.drop place.length) else seen o l := by
  induction place generalizing o l with
  | nil => rw [update, if_pos List.nil_prefix, List.length_nil, List.drop_zero]
  | cons name place ih =>
    obtain ⟨entries, rfl⟩ : ∃ entries, o = some (directory entries) := by
      have htop := hparent [] List.nil_prefix nofun
      cases o with
      | none => cases htop
      | some d =>
        rw [seen, entryAt_nil] at htop
        obtain ⟨entries, rfl⟩ := entry_eq_directory_iff.mp (Except.ok.inj htop)
        exact ⟨entries, rfl⟩
    have hdistinct := ho _ rfl
    rw [update]
    cases l with
    | nil => rfl
    | cons other l =>
      rw [seen, entryAt_cons]
      by_cases hname : other = name
      · subst hname
        have hbelow : ∀ k, k <+: place → k ≠ place →
            seen (entries.lookup other) k = .ok .directory := by
          intro k hk hne
          rw [← entryAt_cons]
          exact hparent (other :: k) (List.cons_prefix_cons.mpr ⟨rfl, hk⟩) (by simpa using hne)
        rw [lookup_alter_self (distinct_directory_iff.mp hdistinct).1,
          ih (distinct_of_lookup hdistinct other) hbelow l, seen, entryAt_cons]
        simp [List.cons_prefix_cons]
      · rw [lookup_alter_of_ne hname, if_neg, seen, entryAt_cons]
        rw [List.cons_prefix_cons]
        exact fun h ↦ hname h.1.symm

/-! ### Putting and removing -/

/-- Everything above a location is a directory. -/
def Reached (root : FileTree) (place : Location) : Prop :=
  ∀ k, k <+: place → k ≠ place → root.entryAt k = .ok .directory

/-- A location with an entry can be reached. -/
theorem reached_of_entryAt {e : Entry} (h : root.entryAt place = .ok e) : root.Reached place :=
  fun _ hk hne ↦ entryAt_of_prefix h hk hne

private theorem update_eq_put (root : FileTree) (place : Location) (t : FileTree) :
    update (fun _ ↦ some t) place (some root) = some (root.put place t) := by
  cases place <;> cases root <;> rfl

private theorem update_eq_remove (hne : place ≠ []) (root : FileTree) :
    update (fun _ ↦ none) place (some root) = some (root.remove place) := by
  cases place with
  | nil => exact absurd rfl hne
  | cons name place => cases root <;> rfl

/-- Putting a tree with distinct names somewhere keeps names distinct. -/
theorem distinct_put (h : Distinct root) (place : Location) (ht : Distinct t) :
    Distinct (root.put place t) := by
  apply distinct_update (f := fun _ ↦ some t) (o := some root) _ place
  · rintro _ ⟨⟩
    exact h
  · exact update_eq_put root place t
  · rintro _ _ _ ⟨⟩
    exact ht

/-- Removing a tree keeps names distinct. -/
theorem distinct_remove (h : Distinct root) (hne : place ≠ []) :
    Distinct (root.remove place) := by
  apply distinct_update (f := fun _ ↦ none) (o := some root) _ place
  · rintro _ ⟨⟩
    exact h
  · exact update_eq_remove hne root
  · nofun

/-- A tree that is put somewhere is there, and nothing of what was there. -/
theorem entryAt_put (h : Distinct root) (hplace : root.Reached place) (t : FileTree)
    (l : Location) : (root.put place t).entryAt l =
      if place <+: l then t.entryAt (l.drop place.length) else root.entryAt l := by
  have hseen := seen_update (o := some root) (some t) place (by rintro _ ⟨⟩; exact h) hplace l
  rwa [update_eq_put] at hseen

/-- Removing a tree takes away what is at its location and below it, and nothing else. -/
theorem entryAt_remove (h : Distinct root) (hplace : root.Reached place) (hne : place ≠ [])
    (l : Location) : (root.remove place).entryAt l =
      if place <+: l then .error .notFound else root.entryAt l := by
  have hseen := seen_update (o := some root) none place (by rintro _ ⟨⟩; exact h) hplace l
  rwa [update_eq_remove hne] at hseen

end ClusterHarness.FileTree
