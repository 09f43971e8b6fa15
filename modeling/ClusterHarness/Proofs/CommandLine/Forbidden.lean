import ClusterHarness.Proofs.CommandLine.RoundTrip

/-!
# Forbidden characters

No process may be given a NUL, a line feed or a carriage return. The texts that are checked for
them have been quoted and joined before. Quoting and joining add none of them and drop none, so
the check refuses a command line exactly if one of the texts that went into it holds one. Such
checks are made one after the other: a value is accepted exactly if none of them refuses it.
-/

namespace ClusterHarness

/-! ## Checks that are made one after the other -/

section

variable {ε α : Type}

/-- A check before the rest of a computation must be passed. -/
theorem bind_eq_ok_iff {x : Except ε Unit} {y : Except ε α} {a : α} :
    (x >>= fun _ ↦ y) = .ok a ↔ x = .ok () ∧ y = .ok a := by
  cases x with
  | error e => exact iff_of_false nofun nofun
  | ok u => exact (and_iff_right rfl).symm

/-- A check is passed exactly if what it refuses is not so. -/
theorem refuse_eq_ok_iff {c : Prop} [Decidable c] {e : ε} {x : Except ε α} {a : α} :
    (if c then throw e >>= fun (_ : Unit) ↦ x else x) = .ok a ↔ ¬ c ∧ x = .ok a := by
  split
  · next hc => exact iff_of_false nofun (fun h ↦ h.1 hc)
  · next hc => exact (and_iff_right hc).symm

/-- A check of every value of a list is passed exactly if each of them passes it. -/
theorem forM_eq_ok_iff {f : α → Except ε Unit} {xs : List α} :
    xs.forM f = .ok () ↔ ∀ x ∈ xs, f x = .ok () := by
  induction xs with
  | nil => exact iff_of_true rfl (List.forall_mem_nil _)
  | cons x xs ih =>
    rw [List.forall_mem_cons, ← ih]
    exact bind_eq_ok_iff

end

namespace CommandLine

/-! ## Refused command lines -/

/-- A text that holds a character that no process may be given. -/
def HoldsForbidden (text : String) : Prop :=
  '\x00' ∈ text.toList ∨ '\n' ∈ text.toList ∨ '\r' ∈ text.toList

/-- A command line without a program, or with a part that no process may be given. -/
def Refused (c : CommandLine) : Prop :=
  c.program = "" ∨ ∃ text ∈ c.program :: c.args, HoldsForbidden text

private theorem holdsForbidden_iff_any {text : String} :
    HoldsForbidden text ↔ text.toList.any isForbidden = true := by
  simp only [HoldsForbidden, isForbidden, List.any_eq_true, Bool.or_eq_true, beq_iff_eq]
  constructor
  · rintro (h | h | h)
    · exact ⟨_, h, .inl (.inl rfl)⟩
    · exact ⟨_, h, .inl (.inr rfl)⟩
    · exact ⟨_, h, .inr rfl⟩
  · rintro ⟨c, h, (rfl | rfl) | rfl⟩
    · exact .inl h
    · exact .inr (.inl h)
    · exact .inr (.inr h)

/-! ## Quoting and joining -/

private theorem any_isForbidden_escape (c : Char) : (escape c).any isForbidden = isForbidden c := by
  unfold escape
  split
  · have hbackslash : isForbidden '\\' = false := rfl
    simp [hbackslash]
  · simp

private theorem any_isForbidden_quoteWord (w : List Char) :
    (quoteWord w).any isForbidden = w.any isForbidden := by
  unfold quoteWord
  split
  · rfl
  · have hquote : isForbidden '"' = false := rfl
    simp [List.any_flatMap, any_isForbidden_escape, hquote]

private theorem any_isForbidden_joinWords (ws : List (List Char)) :
    (joinWords ws).any isForbidden = ws.any (·.any isForbidden) := by
  have hspace : isForbidden ' ' = false := rfl
  induction ws with
  | nil => rfl
  | cons w ws ih =>
    cases ws with
    | nil => simp [joinWords, any_isForbidden_quoteWord]
    | cons v ws =>
      rw [joinWords, List.any_append, List.any_cons, ih, any_isForbidden_quoteWord, hspace,
        Bool.false_or]
      · rfl
      · exact List.cons_ne_nil v ws

/-- Joined words hold what the words hold. -/
theorem holdsForbidden_join {args : List String} :
    HoldsForbidden (join args) ↔ ∃ arg ∈ args, HoldsForbidden arg := by
  simp only [holdsForbidden_iff_any, join, String.toList_ofList, any_isForbidden_joinWords,
    List.any_map, List.any_eq_true, Function.comp_apply]

/-- Two texts one after the other hold what one of them holds. -/
theorem holdsForbidden_append {a b : String} :
    HoldsForbidden (a ++ b) ↔ HoldsForbidden a ∨ HoldsForbidden b := by
  simp only [holdsForbidden_iff_any, String.toList_append, List.any_append, Bool.or_eq_true]

/-! ## The check -/

/-- A text is accepted exactly if it holds no forbidden character. -/
theorem checkText_eq_ok_iff {text part : String} :
    checkText text part = .ok () ↔ ¬ HoldsForbidden text := by
  rw [holdsForbidden_iff_any, Bool.not_eq_true]
  unfold checkText
  split
  · next c hc =>
    have hany : text.toList.any isForbidden = true :=
      List.any_eq_true.mpr ⟨c, List.mem_of_find?_eq_some hc, List.find?_some hc⟩
    simp [hany]
  · next hc => simpa using List.find?_eq_none.mp hc

/-- A command line is accepted exactly if it is not to be refused. -/
theorem validate_eq_ok_iff {c : CommandLine} : c.validate = .ok () ↔ ¬ c.Refused := by
  unfold validate Refused
  rw [refuse_eq_ok_iff, bind_eq_ok_iff, checkText_eq_ok_iff, forM_eq_ok_iff, not_or]
  simp only [checkText_eq_ok_iff, String.isEmpty_iff, not_exists, not_and, List.forall_mem_cons]

/-- A command line is refused with a fault exactly if it is to be refused. -/
theorem exists_validate_eq_error_iff {c : CommandLine} :
    (∃ fault, c.validate = .error fault) ↔ c.Refused := by
  have hok : c.validate = .ok () ↔ ¬ c.Refused := validate_eq_ok_iff
  cases hv : c.validate with
  | error fault => exact iff_of_true ⟨fault, rfl⟩ (by simpa [hv] using hok)
  | ok => exact iff_of_false nofun (hok.mp hv)

end CommandLine
end ClusterHarness
