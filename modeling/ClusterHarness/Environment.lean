import ClusterHarness.Document.Fields

/-!
# Environment variables

The variables that a plan sets for its processes, sorted by name, each name once.
-/

namespace ClusterHarness

/-- Variables with their values, in the order of their names. -/
structure Environment where
  entries : List (String × String)
  sorted : entries.Pairwise (·.1 < ·.1)
deriving DecidableEq, Repr

namespace Environment

/-- No variables. -/
def empty : Environment := ⟨[], .nil⟩

instance : Inhabited Environment := ⟨empty⟩

/-- Put a variable at its place, or replace its value. -/
def insertEntry (name value : String) : List (String × String) → List (String × String)
  | [] => [(name, value)]
  | e :: es =>
    if name < e.1 then (name, value) :: e :: es
    else if name = e.1 then (name, value) :: es
    else e :: insertEntry name value es

/-- The names after an insertion are the old ones and the new one. -/
theorem mem_insertEntry {name value : String} {es : List (String × String)} {e : String × String}
    (h : e ∈ insertEntry name value es) : e = (name, value) ∨ e ∈ es := by
  induction es with
  | nil => simpa [insertEntry] using h
  | cons a es ih =>
    simp only [insertEntry] at h
    split at h
    · simpa using h
    · split at h
      · rcases List.mem_cons.mp h with h | h
        · exact .inl h
        · exact .inr (List.mem_cons_of_mem _ h)
      · rcases List.mem_cons.mp h with h | h
        · exact .inr (h ▸ List.mem_cons_self)
        · exact (ih h).imp id (List.mem_cons_of_mem _)

/-- Insertion keeps the entries sorted. -/
theorem pairwise_insertEntry (name value : String) {es : List (String × String)}
    (h : es.Pairwise (·.1 < ·.1)) : (insertEntry name value es).Pairwise (·.1 < ·.1) := by
  induction es with
  | nil => simp [insertEntry]
  | cons a es ih =>
    obtain ⟨ha, hs⟩ := List.pairwise_cons.mp h
    simp only [insertEntry]
    split
    · next hlt =>
      refine List.pairwise_cons.mpr ⟨fun e he => ?_, h⟩
      rcases List.mem_cons.mp he with rfl | he
      · exact hlt
      · exact String.lt_trans hlt (ha e he)
    · next hnl =>
      split
      · next heq =>
        exact List.pairwise_cons.mpr ⟨fun e he => heq ▸ ha e he, hs⟩
      · next hne =>
        refine List.pairwise_cons.mpr ⟨fun e he => ?_, ih hs⟩
        rcases mem_insertEntry he with rfl | he
        · rcases Decidable.em (a.1 < name) with hgt | hgt
          · exact hgt
          · exact absurd (String.le_antisymm (String.not_lt.mp hgt) (String.not_lt.mp hnl)) hne
        · exact ha e he

/-- Set a variable. -/
def insert (env : Environment) (name value : String) : Environment :=
  ⟨insertEntry name value env.entries, pairwise_insertEntry name value env.sorted⟩

/-- The variables of a list, where the last value of a name counts. -/
def ofList (entries : List (String × String)) : Environment :=
  entries.foldl (fun env e => env.insert e.1 e.2) empty

/-- Change every value. -/
def mapValues (env : Environment) (f : String → String) : Environment :=
  ⟨env.entries.map fun e => (e.1, f e.2), List.pairwise_map.mpr env.sorted⟩

def ofDocument? (d : Document) : Option Environment := d.asTextFields.map ofList

def toDocument (env : Environment) : Document :=
  .record (env.entries.map fun e => (e.1, .text e.2))

end Environment
end ClusterHarness
