import ClusterHarness.Proofs.CommandLine.RoundTrip
import Mathlib.Tactic.MkIffOfInductiveProp
import Mathlib.Tactic.SplitIfs

/-!
# Quoting contexts

What the quotes and backslashes of a line enclose can be told without its words. A line is a
command line exactly if it leaves nothing open and is not blank. A text is inert if it has, in each
context, the effect of a plain word; only such a text may stand for one wherever that stands.
-/

namespace ClusterHarness.CommandLine

/-- What is open around a character of a line. -/
inductive Context where
  | outside
  | escaped
  | double
  | doubleEscaped
  | single
deriving DecidableEq, Repr

namespace Context

/-- The context after one more character. -/
def next : Context → Char → Context
  | outside, c =>
    if c = '"' then double else if c = '\'' then single else if c = '\\' then escaped else outside
  | escaped, _ => outside
  | double, c => if c = '"' then outside else if c = '\\' then doubleEscaped else double
  | doubleEscaped, _ => double
  | single, c => if c = '\'' then outside else single

/-- The context after a text. -/
def after (x : Context) (cs : List Char) : Context := cs.foldl next x

@[simp]
private theorem after_nil (x : Context) : x.after [] = x := rfl

/-- A text is read one character after the other. -/
@[simp]
theorem after_cons (x : Context) (c : Char) (cs : List Char) :
    x.after (c :: cs) = (x.next c).after cs := rfl

/-- What is read after a text goes on where the text has led. -/
@[simp]
theorem after_append (x : Context) (cs ds : List Char) :
    x.after (cs ++ ds) = (x.after cs).after ds := List.foldl_append

/-- The context after a plain word: an escape is over, and quotes stay open. -/
def settled : Context → Context
  | outside | escaped => outside
  | double | doubleEscaped => double
  | single => single

private theorem settled_settled (x : Context) : x.settled.settled = x.settled := by
  cases x <;> rfl

end Context

/-! ## Lines that can be read -/

def Position.context : Position → Context
  | gap | word _ => .outside
  | escaped _ => .escaped
  | double _ => .double
  | doubleEscaped _ => .doubleEscaped
  | single _ => .single

/-- Blank characters open nothing. -/
theorem next_outside_of_isBlank {c : Char} (h : Text.isBlank c = true) :
    Context.outside.next c = .outside := by
  have hd : c ≠ '"' := by rintro rfl; revert h; decide
  have hs : c ≠ '\'' := by rintro rfl; revert h; decide
  have hk : c ≠ '\\' := by rintro rfl; revert h; decide
  simp [Context.next, hd, hs, hk]

private theorem context_outside (sofar : List Char) (c : Char) :
    (Position.outside sofar c).context = Context.outside.next c := by
  simp only [Position.outside, Context.next]
  split_ifs <;> rfl

/-- The scanner follows the contexts of a line. -/
theorem context_next (p : Position) (c : Char) : (p.next c).context = p.context.next c := by
  have hbetween {sofar : List Char} :
      (if Text.isBlank c then Position.gap else Position.outside sofar c).context =
        Context.outside.next c := by
    split
    · next h => exact (next_outside_of_isBlank h).symm
    · exact context_outside sofar c
  cases p with
  | gap => exact hbetween
  | word w => exact hbetween
  | escaped w => rfl
  | double w =>
    simp only [Position.next, Context.next, Position.context]
    split_ifs <;> rfl
  | doubleEscaped w =>
    simp only [Position.next, Context.next, Position.context]
    split_ifs <;> rfl
  | single w =>
    simp only [Position.next, Context.next, Position.context]
    split_ifs <;> rfl

/-- A line has words if it leaves nothing open. -/
theorem scan_eq_ok_iff {p : Position} {cs : List Char} :
    (∃ ws, scan p cs = .ok ws) ↔ p.context.after cs = .outside := by
  induction cs generalizing p with
  | nil => cases p <;> simp [scan, Position.finish, Position.context]
  | cons c cs ih =>
    rw [Context.after_cons, ← context_next, ← ih, scan]
    cases p.ended? c with
    | none => rfl
    | some w => cases scan (p.next c) cs <;> simp only [Except.map, reduceCtorEq, exists_false,
        Except.ok.injEq, exists_eq']

/-- A word is begun by any character that is not blank, and ended by a blank one only. -/
theorem next_eq_gap_iff {p : Position} {c : Char} (h : p.ended? c = none) :
    p.next c = .gap ↔ p = .gap ∧ Text.isBlank c = true := by
  have hbegun (sofar : List Char) : Position.outside sofar c ≠ .gap := by
    unfold Position.outside
    split_ifs <;> simp
  cases p with
  | gap =>
    by_cases hb : Text.isBlank c = true <;> simp [Position.next, hb, hbegun]
  | word w =>
    have hb : Text.isBlank c = false := by simpa [Position.ended?] using h
    simp [Position.next, hb, hbegun]
  | escaped w => simp [Position.next]
  | double w =>
    simp only [Position.next]
    split_ifs <;> simp
  | doubleEscaped w =>
    simp only [Position.next]
    split_ifs <;> simp
  | single w =>
    simp only [Position.next]
    split_ifs <;> simp

/-- A line without words is blank. -/
theorem scan_eq_ok_nil_iff {p : Position} {cs : List Char} :
    scan p cs = .ok [] ↔ p = .gap ∧ ∀ c ∈ cs, Text.isBlank c = true := by
  induction cs generalizing p with
  | nil => cases p <;> simp [scan, Position.finish]
  | cons c cs ih =>
    rw [scan]
    cases he : p.ended? c with
    | none => rw [ih, next_eq_gap_iff he, List.forall_mem_cons, and_assoc]
    | some w =>
      have hp : p ≠ .gap := by rintro rfl; cases he
      cases scan (p.next c) cs <;> simp only [Except.map, hp, reduceCtorEq, Except.ok.injEq,
        false_and]

/-- Something in the text can be seen. -/
def Visible (cs : List Char) : Prop := ∃ c ∈ cs, Text.isBlank c = false

instance (cs : List Char) : Decidable (Visible cs) :=
  decidable_of_iff (cs.any fun c ↦ !Text.isBlank c) (by simp [Visible])

/-- A text shows something in its first character or after it. -/
theorem visible_cons_iff {c : Char} {cs : List Char} :
    Visible (c :: cs) ↔ Text.isBlank c = false ∨ Visible cs := by
  simp only [Visible, List.mem_cons, or_and_right, exists_or, exists_eq_left]

/-- Two texts one after the other show something if one of them does. -/
theorem visible_append_iff {cs ds : List Char} :
    Visible (cs ++ ds) ↔ Visible cs ∨ Visible ds := by
  simp only [Visible, List.mem_append, or_and_right, exists_or]

/-- What shows something is not empty. -/
theorem Visible.ne_nil {cs : List Char} (h : Visible cs) : cs ≠ [] := by
  rintro rfl
  obtain ⟨c, hc, -⟩ := h
  cases hc

/-- A text that is a command line. -/
@[mk_iff]
structure Readable (cs : List Char) : Prop where
  closed : Context.outside.after cs = .outside
  visible : Visible cs

/-- A line is a command line exactly if nothing in it stays open and it is not blank. -/
theorem parse_eq_ok_iff {line : String} : (∃ c, parse line = .ok c) ↔ Readable line.toList := by
  have hvisible : Visible line.toList ↔ scan .gap line.toList ≠ .ok [] := by
    rw [Ne, scan_eq_ok_nil_iff]
    simp [Visible]
  have hclosed := @scan_eq_ok_iff .gap line.toList
  unfold parse split splitWords
  cases hs : scan .gap line.toList with
  | error e =>
    rw [hs] at hclosed
    refine ⟨fun h ↦ by simp at h, fun h ↦ ?_⟩
    obtain ⟨_, hok⟩ := hclosed.mpr h.closed
    cases hok
  | ok ws =>
    rw [hs] at hclosed hvisible
    cases ws with
    | nil => exact ⟨fun h ↦ by simp at h, fun h ↦ absurd rfl (hvisible.mp h.visible)⟩
    | cons w ws => exact ⟨fun _ ↦ ⟨hclosed.mp ⟨_, rfl⟩, hvisible.mpr (by simp)⟩, fun _ ↦ ⟨_, rfl⟩⟩

/-! ## Texts with the effect of a plain word -/

/-- A text with the effect of a plain word in every context. -/
structure Inert (cs : List Char) : Prop where
  settles : ∀ x : Context, x.after cs = x.settled
  visible : Visible cs

/-- A character that no context takes for a quote or a backslash. -/
def isNeutral (c : Char) : Bool := c != '"' && c != '\'' && c != '\\'

private theorem next_of_isNeutral {c : Char} (h : isNeutral c = true) (x : Context) :
    x.next c = x.settled := by
  obtain ⟨⟨hd, hs⟩, hk⟩ : (c ≠ '"' ∧ c ≠ '\'') ∧ c ≠ '\\' := by simpa [isNeutral] using h
  cases x <;> simp [Context.next, Context.settled, hd, hs, hk]

/-- A text without quotes and backslashes has the effect of a plain word if it is not blank. -/
theorem inert_of_isNeutral {cs : List Char} (hneutral : ∀ c ∈ cs, isNeutral c = true)
    (hvisible : Visible cs) : Inert cs := by
  refine ⟨fun x ↦ ?_, hvisible⟩
  have hsettled : ∀ ds : List Char, (∀ c ∈ ds, isNeutral c = true) →
      x.settled.after ds = x.settled := by
    intro ds hds
    induction ds with
    | nil => rfl
    | cons c ds ih =>
      rw [List.forall_mem_cons] at hds
      rw [Context.after_cons, next_of_isNeutral hds.1, Context.settled_settled, ih hds.2]
  cases cs with
  | nil => exact absurd rfl hvisible.ne_nil
  | cons c cs =>
    rw [List.forall_mem_cons] at hneutral
    rw [Context.after_cons, next_of_isNeutral hneutral.1, hsettled cs hneutral.2]

/-- A character that needs no quoting is no quote and no backslash. -/
theorem isNeutral_of_isPlain {c : Char} (h : isPlain c = true) : isNeutral c = true := by
  have hne {d : Char} (hd : isPlain d = false) : c ≠ d := by
    rintro rfl
    rw [hd] at h
    cases h
  simp [isNeutral, hne (d := '"') rfl, hne (d := '\'') rfl, hne (d := '\\') rfl]

/-- A text that is written without quotes is inert. -/
theorem inert_of_isPlain {cs : List Char} (hne : cs ≠ []) (h : ∀ c ∈ cs, isPlain c = true) :
    Inert cs := by
  apply inert_of_isNeutral fun c hc ↦ isNeutral_of_isPlain (h c hc)
  obtain ⟨c, ds, rfl⟩ := List.exists_cons_of_ne_nil hne
  exact ⟨c, by simp, (outside_of_isPlain (h c (by simp)) []).1⟩

/-- The beginning and the end of a command line, with room for a plain word in each context. -/
def frames : List (List Char × List Char) :=
  [([], []), (['\\'], []), (['"'], ['"']), (['"'], ['a', '"']), (['"', '\\'], ['"']),
    (['"', '\\'], ['a', '"']), (['\''], ['a', '\''])]

/-- A text with the effect of a plain word makes a command line in every frame. -/
theorem readable_frame {v : List Char} (h : Inert v) {f : List Char × List Char} (hf : f ∈ frames) :
    Readable (f.1 ++ v ++ f.2) where
  closed := by
    rw [Context.after_append, Context.after_append, h.settles]
    revert f
    decide
  visible := by
    obtain ⟨c, hc, hb⟩ := h.visible
    exact ⟨c, by simp [hc], hb⟩

/-- Only an inert text may stand for a plain word in every command line. -/
theorem inert_iff_frames {v : List Char} :
    Inert v ↔ ∀ f ∈ frames, Readable (f.1 ++ v ++ f.2) := by
  refine ⟨fun h _ ↦ readable_frame h, fun h ↦ ⟨fun x ↦ ?_, ?_⟩⟩
  · have hclosed := fun f hf ↦ (h f hf).closed
    simp only [frames, List.forall_mem_cons, Context.after_append] at hclosed
    obtain ⟨houtside, hescaped, hdouble, hdouble', hafter, hafter', hsingle, -⟩ := hclosed
    cases x with
    | outside => exact houtside
    | escaped => exact hescaped
    | double =>
      change (Context.double.after v).after _ = _ at hdouble hdouble'
      revert hdouble hdouble'
      cases Context.double.after v <;> decide
    | doubleEscaped =>
      change (Context.doubleEscaped.after v).after _ = _ at hafter hafter'
      revert hafter hafter'
      cases Context.doubleEscaped.after v <;> decide
    | single =>
      change (Context.single.after v).after _ = _ at hsingle
      revert hsingle
      cases Context.single.after v <;> decide
  · have hvisible := (h ([], []) (by simp [frames])).visible
    simpa using hvisible

end ClusterHarness.CommandLine
