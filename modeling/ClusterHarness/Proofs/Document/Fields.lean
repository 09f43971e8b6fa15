import ClusterHarness.Environment

/-!
# Readers and writers of documents

A writer and a reader that belong together: what was written is read back, and what is read could
have been written. Both are kept when values become items of a list or fields of a record, whether
a field must be there, has a default, or may be `null`. So a document need not be what is written
of its value, but writing the value and reading it again gives the value.
-/

namespace ClusterHarness

/-- A reader gives back what a writer has written of a value that fits, and only such values. -/
structure Inverts {δ α : Type} (read : δ → Option α) (write : α → δ) (Fits : α → Prop) :
    Prop where
  read_write : ∀ a, Fits a → read (write a) = some a
  fits_of_read : ∀ d a, read d = some a → Fits a

namespace Inverts

variable {δ α : Type} {read : δ → Option α} {write : α → δ} {Fits : α → Prop}

/-- Exactly the values that fit are read back. -/
theorem read_write_iff (h : Inverts read write Fits) {a : α} :
    read (write a) = some a ↔ Fits a :=
  ⟨h.fits_of_read _ a, h.read_write a⟩

/-- What was read is read again from what is written of it, however it was spelled at first. -/
theorem read_write_of_read (h : Inverts read write Fits) {d : δ} {a : α}
    (hd : read d = some a) : read (write a) = some a :=
  h.read_write a (h.fits_of_read d a hd)

/-- A writer whose every value is read back writes values of one kind only. -/
theorem of_forall (h : ∀ a, read (write a) = some a) : Inverts read write fun _ ↦ True :=
  ⟨fun a _ ↦ h a, fun _ _ _ ↦ trivial⟩

end Inverts

namespace Document

variable {α : Type} {read : Document → Option α} {write : α → Document} {Fits : α → Prop}

/-! ## Values -/

/-- Texts are read back as they were written. -/
theorem inverts_text : Inverts asText .text fun _ ↦ True := .of_forall fun _ ↦ rfl

/-- A number that fits `bits` bits without a sign. -/
def FitsBits (bits n : Nat) : Prop := n < Nat.pow 2 bits

instance (bits n : Nat) : Decidable (FitsBits bits n) := inferInstanceAs (Decidable (_ < _))

/-- Numbers are read back if they fit. -/
theorem inverts_nat (bits : Nat) : Inverts (asNat bits) ofNat (FitsBits bits) where
  read_write n h := if_pos h
  fits_of_read d n h := by
    unfold asNat at h
    split at h
    · split at h
      · next hn => exact Option.some.inj h ▸ hn
      · cases h
    · cases h

/-- Items that are each read back are read back together. -/
theorem mapM_map_of_forall {β : Type} {f : β → Option α} {g : α → β} {xs : List α}
    (h : ∀ x ∈ xs, f (g x) = some x) : (xs.map g).mapM f = some xs := by
  induction xs with
  | nil => rfl
  | cons x xs ih =>
    obtain ⟨hx, hrest⟩ := List.forall_mem_cons.mp h
    rw [List.map_cons, List.mapM_cons, hx, ih hrest]
    rfl

/-- Lists are read back if their values are. -/
theorem inverts_list (h : Inverts read write Fits) :
    Inverts (asList read) (ofList write) fun xs ↦ ∀ x ∈ xs, Fits x where
  read_write xs hxs := mapM_map_of_forall fun x hx ↦ h.read_write x (hxs x hx)
  fits_of_read d xs hd := by
    unfold asList at hd
    split at hd
    · next items =>
      induction items generalizing xs with
      | nil =>
        cases hd
        exact List.forall_mem_nil _
      | cons item items ih =>
        rw [List.mapM_cons] at hd
        obtain ⟨x, hx, hd⟩ := Option.bind_eq_some_iff.mp hd
        obtain ⟨rest, hrest, hd⟩ := Option.bind_eq_some_iff.mp hd
        cases hd
        exact List.forall_mem_cons.mpr ⟨h.fits_of_read item x hx, ih rest hrest⟩
    · cases hd

/-- Lists of texts are read back as they were written. -/
theorem asTexts_texts (xs : List String) : asTexts (texts xs) = some xs :=
  (inverts_list inverts_text).read_write xs fun _ _ ↦ trivial

/-! ## Fields -/

/-- A field that must be there is read back if its value is. -/
theorem inverts_required (h : Inverts read write Fits) :
    Inverts (required read) (fun a ↦ some (write a)) Fits where
  read_write := h.read_write
  fits_of_read slot a hs := by
    obtain ⟨d, -, hd⟩ := Option.bind_eq_some_iff.mp hs
    exact h.fits_of_read d a hd

/-- So is a field that may be left out for a default, which has to fit. -/
theorem inverts_withDefault (h : Inverts read write Fits) {default : α} (hdefault : Fits default) :
    Inverts (withDefault default read) (fun a ↦ some (write a)) Fits where
  read_write := h.read_write
  fits_of_read slot a hs := by
    cases slot with
    | none => exact Option.some.inj hs ▸ hdefault
    | some d => exact h.fits_of_read d a hs

/-- So is a field that may be left out or be null, unless a value is written as null. -/
theorem inverts_optional (h : Inverts read write Fits) (hnull : ∀ a, write a ≠ .null) :
    Inverts (optional read) (fun a ↦ some (ofOption write a)) fun o ↦ ∀ a ∈ o, Fits a where
  read_write o ho := by
    cases o with
    | none => rfl
    | some a =>
      show optional read (some (write a)) = _
      unfold optional
      split
      · next he => cases he
      · next he => exact absurd (Option.some.inj he) (hnull a)
      · next he => rw [← Option.some.inj he, h.read_write a (ho a rfl), Option.map_some]
  fits_of_read slot o hs := by
    unfold optional at hs
    split at hs
    · cases hs
      nofun
    · cases hs
      nofun
    · obtain ⟨a, ha, rfl⟩ := Option.map_eq_some_iff.mp hs
      intro b hb
      exact Option.mem_some_iff.mp hb ▸ h.fits_of_read _ a ha

end Document

/-! ## Environments -/

namespace Environment

/-- A variable whose name comes after all others is put at the end. -/
theorem insertEntry_of_forall_lt {name value : String} {es : List (String × String)}
    (h : ∀ e ∈ es, e.1 < name) : insertEntry name value es = es ++ [(name, value)] := by
  induction es with
  | nil => rfl
  | cons e es ih =>
    obtain ⟨he, hes⟩ := List.forall_mem_cons.mp h
    have hne : name ≠ e.1 := fun heq ↦ String.lt_irrefl _ (heq ▸ he)
    rw [insertEntry, if_neg (String.lt_asymm he), if_neg hne, ih hes, List.cons_append]

/-- Variables that are set in the order of their names stand in that order. -/
theorem entries_foldl_insert {env : Environment} {es : List (String × String)}
    (h : (env.entries ++ es).Pairwise (·.1 < ·.1)) :
    (es.foldl (fun env e ↦ env.insert e.1 e.2) env).entries = env.entries ++ es := by
  induction es generalizing env with
  | nil => exact (List.append_nil _).symm
  | cons e es ih =>
    have hinsert : (env.insert e.1 e.2).entries = env.entries ++ [e] :=
      insertEntry_of_forall_lt fun a ha ↦
        (List.pairwise_append.mp h).2.2 a ha e List.mem_cons_self
    rw [List.append_cons, ← hinsert] at h ⊢
    exact ih h

private theorem eq_of_entries_eq {env env' : Environment} (h : env.entries = env'.entries) :
    env = env' := by
  cases env
  cases env'
  cases h
  rfl

/-- Setting the variables of an environment one by one gives the environment. -/
theorem ofList_entries (env : Environment) : ofList env.entries = env :=
  eq_of_entries_eq (entries_foldl_insert env.sorted)

/-- Environments are read back as they were written. -/
theorem inverts : Inverts ofDocument? toDocument fun _ ↦ True := by
  refine .of_forall fun env ↦ ?_
  have h : Document.asTextFields env.toDocument = some env.entries :=
    Document.mapM_map_of_forall fun _ _ ↦ rfl
  rw [ofDocument?, h, Option.map_some, ofList_entries]

end Environment
end ClusterHarness
