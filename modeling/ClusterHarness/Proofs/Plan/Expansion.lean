import ClusterHarness.Plan.Commands
import ClusterHarness.Proofs.CommandLine.Context
import ClusterHarness.Proofs.CommandLine.Forbidden
import Mathlib.Data.List.Basic

/-!
# Command lines after the placeholders are replaced

A plan is validated with the placeholders of its command lines still in place. A placeholder is a
plain word for the scanner, and its value is put there as it is, so that a template may quote it.
The command lines of a valid plan can therefore be read after the replacement if the values of the
placeholders are inert, and only such values are safe in every template.
-/

namespace ClusterHarness

open CommandLine

/-! ## Replacing one text by another -/

namespace Text

section Replacement

variable {pattern value : List Char}

/-- An occurrence at the beginning is replaced, and what follows it is searched. -/
theorem replace_append (hp : pattern ≠ []) (cs : List Char) :
    replace pattern value (pattern ++ cs) = value ++ replace pattern value cs := by
  obtain ⟨c, ps, rfl⟩ := List.exists_cons_of_ne_nil hp
  rw [List.cons_append, replace, if_pos (by simp), List.length_cons, Nat.add_sub_cancel,
    List.drop_left]

/-- A text is gone through one occurrence or one character at a time. -/
theorem replace_induction (hp : pattern ≠ []) {motive : List Char → List Char → Prop}
    (nil : motive [] [])
    (occurrence : ∀ cs, motive cs (replace pattern value cs) →
      motive (pattern ++ cs) (value ++ replace pattern value cs))
    (cons : ∀ c cs, ¬ pattern <+: c :: cs → motive cs (replace pattern value cs) →
      motive (c :: cs) (c :: replace pattern value cs)) (cs : List Char) :
    motive cs (replace pattern value cs) := by
  induction cs using replace.induct pattern with
  | case1 => rwa [replace]
  | case2 c cs hprefix ih =>
    obtain ⟨rest, hrest⟩ := List.isPrefixOf_iff_prefix.mp hprefix
    obtain ⟨d, ps, rfl⟩ := List.exists_cons_of_ne_nil hp
    obtain ⟨rfl, rfl⟩ : c = d ∧ cs = ps ++ rest := by simpa [eq_comm] using hrest
    rw [List.length_cons, Nat.add_sub_cancel, List.drop_left] at ih
    rw [← List.cons_append, replace_append hp]
    exact occurrence rest ih
  | case3 c cs hprefix ih =>
    rw [replace, if_neg hprefix]
    exact cons c cs (fun h ↦ hprefix (List.isPrefixOf_iff_prefix.mpr h)) ih

/-- The same characters stay open when a plain word is replaced by an inert text. -/
theorem after_replace (hp : Inert pattern) (hv : Inert value) (cs : List Char) :
    ∀ x : Context, x.after (replace pattern value cs) = x.after cs := by
  apply replace_induction (motive := fun cs ds ↦ ∀ x : Context, x.after ds = x.after cs)
    hp.visible.ne_nil
  · intro x
    rfl
  · intro cs ih x
    rw [Context.after_append, Context.after_append, hv.settles, hp.settles, ih]
  · intro c cs _ ih x
    rw [Context.after_cons, Context.after_cons, ih]

private theorem visible_replace_iff (hp : Visible pattern) (hv : Visible value) (cs : List Char) :
    Visible (replace pattern value cs) ↔ Visible cs := by
  apply replace_induction (motive := fun cs ds ↦ Visible ds ↔ Visible cs) hp.ne_nil
  · rfl
  · intro cs ih
    simp only [visible_append_iff, hp, hv, true_or]
  · intro c cs _ ih
    simp only [visible_cons_iff, ih]

private theorem readable_replace_iff (hp : Inert pattern) (hv : Inert value) (cs : List Char) :
    Readable (replace pattern value cs) ↔ Readable cs := by
  simp only [readable_iff, after_replace hp hv, visible_replace_iff hp.visible hv.visible]

private theorem replace_of_notMem {c : Char} {ps cs : List Char} (h : c ∉ cs) :
    replace (c :: ps) value cs = cs := by
  induction cs with
  | nil => rw [replace]
  | cons d cs ih =>
    rw [List.mem_cons, not_or] at h
    rw [replace, if_neg (by simp [h.1]), ih h.2]

private theorem replace_append_of_notMem {c : Char} {ps cs : List Char} (h : c ∉ cs)
    (ds : List Char) : replace (c :: ps) value (cs ++ ds) = cs ++ replace (c :: ps) value ds := by
  induction cs with
  | nil => rfl
  | cons d cs ih =>
    rw [List.mem_cons, not_or] at h
    rw [List.cons_append, replace, if_neg (by simp [h.1]), ih h.2, List.cons_append]

end Replacement

end Text

/-! ## Placeholders between other texts -/

namespace Placeholder

/-- A placeholder has the effect of a plain word. -/
theorem inert_pattern (h : Placeholder) : Inert h.pattern := by
  apply inert_of_isNeutral
  · rw [← List.all_eq_true]
    cases h <;> rfl
  · cases h <;> decide

/-- What follows the brace at the beginning of a placeholder. -/
theorem exists_pattern (h : Placeholder) : ∃ ps, h.pattern = '\x7b' :: ps ∧ '\x7b' ∉ ps := by
  cases h <;> exact ⟨_, rfl, by decide⟩

private theorem not_isPrefixOf_pattern {h k : Placeholder} (hne : h ≠ k) (cs : List Char) :
    h.pattern.isPrefixOf (k.pattern ++ cs) = false := by
  cases h <;> cases k <;> first | exact absurd rfl hne | rfl

/-- One placeholder is replaced, and the others stay. -/
theorem replace_frame (h k : Placeholder) (value : List Char) {f : List Char × List Char}
    (hf : f ∈ frames) :
    Text.replace h.pattern value (f.1 ++ k.pattern ++ f.2) =
      f.1 ++ (if h = k then value else k.pattern) ++ f.2 := by
  obtain ⟨hpre, hpost⟩ : '\x7b' ∉ f.1 ∧ '\x7b' ∉ f.2 := by
    revert f
    decide
  obtain ⟨ps, hps, -⟩ := h.exists_pattern
  obtain ⟨qs, hqs, hbrace⟩ := k.exists_pattern
  rw [List.append_assoc, hps, Text.replace_append_of_notMem hpre, ← hps, List.append_assoc]
  by_cases hkind : h = k
  · subst hkind
    rw [if_pos rfl, Text.replace_append h.inert_pattern.visible.ne_nil, hps,
      Text.replace_of_notMem hpost]
  · have hnot : ¬ h.pattern.isPrefixOf ('\x7b' :: (qs ++ f.2)) = true := by
      rw [← List.cons_append, ← hqs, not_isPrefixOf_pattern hkind, Bool.not_eq_true]
    have hrest : '\x7b' ∉ qs ++ f.2 := by simp [hbrace, hpost]
    rw [if_neg hkind, hqs, List.cons_append, Text.replace, if_neg hnot, hps,
      Text.replace_of_notMem hrest]

end Placeholder

namespace Plan

variable {p : Plan}

/-! ### The values of the placeholders -/

/-- A port is written with digits. -/
theorem isDigit_port {c : Char} (hc : c ∈ p.placeholderValue .port) : c.isDigit = true := by
  apply Nat.isDigit_of_mem_toDigits (b := 10) (n := p.port) (by decide) (by decide)
  simpa [placeholderValue] using hc

private theorem isPlain_port {c : Char} (hc : c ∈ p.placeholderValue .port) : isPlain c = true := by
  simp [isPlain, Char.isAlphanum, isDigit_port hc]

/-- A port has the effect of a plain word. -/
theorem inert_port (p : Plan) : Inert (p.placeholderValue .port) := by
  apply inert_of_isPlain
  · simp [placeholderValue]
  · exact fun _ ↦ isPlain_port

/-- The locator ends with the port. -/
theorem placeholderValue_locator (p : Plan) : p.placeholderValue .locator =
    p.harness.locatorIdentity.toList ++ ":default -p ".toList ++ p.placeholderValue .port := by
  rw [placeholderValue, placeholderValue, ← String.toList_append, ← String.toList_append]
  rfl

/-- The placeholders of a plan may stand wherever a plain word may. -/
def IsInert (p : Plan) : Prop := ∀ h : Placeholder, Inert (p.placeholderValue h)

private theorem isInert_iff : p.IsInert ↔ Inert p.locator.toList ∧ Inert p.testDir.text.toList := by
  refine ⟨fun h ↦ ⟨h .locator, h .testDir⟩, fun h k ↦ ?_⟩
  cases k with
  | port => exact p.inert_port
  | locator => exact h.1
  | testDir => exact h.2

/-- A plan without quotes and backslashes in its names is inert. -/
theorem isInert_of_isNeutral (hlocator : ∀ c ∈ p.harness.locatorIdentity.toList, isNeutral c = true)
    (htestDir : ∀ c ∈ p.testDir.text.toList, isNeutral c = true)
    (hvisible : Visible p.testDir.text.toList) : p.IsInert := by
  refine isInert_iff.mpr ⟨?_, inert_of_isNeutral htestDir hvisible⟩
  rw [← show p.placeholderValue .locator = p.locator.toList from rfl, placeholderValue_locator]
  apply inert_of_isNeutral
  · intro c hc
    rw [List.mem_append, List.mem_append] at hc
    obtain (hc | hc) | hc := hc
    · exact hlocator c hc
    · exact List.all_eq_true.mp rfl c hc
    · exact isNeutral_of_isPlain (isPlain_port hc)
  · exact visible_append_iff.mpr (.inl (visible_append_iff.mpr (.inr (by decide))))

/-! ### Templates -/

/-- The port is replaced first, and the test directory last. -/
theorem toList_expand (template : String) :
    (p.expand template).toList =
      Text.replace Placeholder.testDir.pattern (p.placeholderValue .testDir)
        (Text.replace Placeholder.locator.pattern (p.placeholderValue .locator)
          (Text.replace Placeholder.port.pattern (p.placeholderValue .port) template.toList)) := by
  simp [expand, Placeholder.all]

/-- Inert values leave a template as readable as it is. -/
theorem readable_expand_iff (h : p.IsInert) (template : String) :
    Readable (p.expand template).toList ↔ Readable template.toList := by
  simp only [toList_expand, Text.readable_replace_iff (Placeholder.inert_pattern _) (h _)]

/-- Every template that is a command line is one after its placeholders are replaced. -/
def KeepsCommandLines (p : Plan) : Prop :=
  ∀ template, (∃ c, CommandLine.parse template = .ok c) →
    ∃ c, CommandLine.parse (p.expand template) = .ok c

private theorem isInert_of_keepsCommandLines (h : p.KeepsCommandLines) : p.IsInert := by
  have hkept (k : Placeholder) {f : List Char × List Char} (hf : f ∈ frames) :
      Readable (p.expand (String.ofList (f.1 ++ k.pattern ++ f.2))).toList := by
    rw [← parse_eq_ok_iff]
    apply h
    rw [parse_eq_ok_iff, String.toList_ofList]
    exact readable_frame k.inert_pattern hf
  -- The test directory is replaced last, also where the locator has named it.
  have htestDir : Inert (p.placeholderValue .testDir) := by
    rw [inert_iff_frames]
    intro f hf
    simpa only [toList_expand, String.toList_ofList, Placeholder.replace_frame _ _ _ hf,
      reduceCtorEq, if_false, if_true] using hkept .testDir hf
  have hlocator : Inert (p.placeholderValue .locator) := by
    rw [inert_iff_frames]
    intro f hf
    have hread := hkept .locator hf
    rw [toList_expand, Text.readable_replace_iff (Placeholder.inert_pattern _) htestDir] at hread
    simpa only [String.toList_ofList, Placeholder.replace_frame _ _ _ hf, reduceCtorEq, if_false,
      if_true] using hread
  exact isInert_iff.mpr ⟨hlocator, htestDir⟩

private theorem keepsCommandLines_of_isInert (h : p.IsInert) : p.KeepsCommandLines := by
  intro template hparse
  rw [parse_eq_ok_iff] at hparse ⊢
  exact (readable_expand_iff h template).mpr hparse

/-! ## The command lines of a valid plan -/

private theorem validateStep_eq_ok_iff {role label command : String} :
    validateStep role label command = .ok () ↔
      label ≠ "" ∧ ∃ c, CommandLine.parse command = .ok c := by
  simp only [validateStep, refuse_eq_ok_iff, String.isEmpty_iff]
  cases CommandLine.parse command with
  | error e => exact iff_of_false nofun nofun
  | ok c => simp [pure, Except.pure]

/-- A plan is valid if its fields are filled in and its steps have labels and command lines. -/
theorem validate_eq_ok_iff : p.validate = .ok () ↔
    (p.name ≠ "" ∧ p.port ≠ 0 ∧ p.admin.binary ≠ "" ∧ p.registry.binary ≠ "" ∧
      p.node.forM validateNode = .ok ()) ∧
    (∀ s ∈ p.servers, s.label ≠ "" ∧ ∃ c, CommandLine.parse s.command = .ok c) ∧
    ∀ c ∈ p.clients, c.label ≠ "" ∧ ∃ l, CommandLine.parse c.command = .ok l := by
  simp only [validate, refuse_eq_ok_iff, bind_eq_ok_iff, forM_eq_ok_iff, validateStep_eq_ok_iff,
    String.isEmpty_iff, ne_eq, and_assoc]

/-- The command line of a step is found if the replaced template can be read. -/
theorem scenarioLine_eq_ok_iff {isFile : Path → Bool} {template : String} :
    (∃ c, p.scenarioLine isFile template = .ok c) ↔
      ∃ c, CommandLine.parse (p.expand template) = .ok c := by
  unfold scenarioLine
  cases CommandLine.parse (p.expand template) with
  | error e => exact iff_of_false nofun nofun
  | ok c =>
    refine iff_of_true ?_ ⟨c, rfl⟩
    dsimp only
    split <;> exact ⟨_, rfl⟩

/-- The steps of a valid plan have command lines, before and after its paths are resolved, if its
locator and its test directory are inert. With any others some template that is a command line would
become none. -/
theorem valid_plan_reads_commands (h : p.validate = .ok ()) (q : Plan)
    (hq : q = p ∨ ∃ base, q = p.resolve base) :
    (Inert q.locator.toList ∧ Inert q.testDir.text.toList → ∀ isFile,
      (∀ s ∈ q.servers, ∃ c, q.scenarioLine isFile s.command = .ok c) ∧
      ∀ c ∈ q.clients, ∃ l, q.scenarioLine isFile c.command = .ok l) ∧
    (q.KeepsCommandLines ↔ Inert q.locator.toList ∧ Inert q.testDir.text.toList) := by
  have hsteps : q.servers = p.servers ∧ q.clients = p.clients := by
    obtain rfl | ⟨base, rfl⟩ := hq <;> exact ⟨rfl, rfl⟩
  obtain ⟨-, hservers, hclients⟩ := validate_eq_ok_iff.mp h
  rw [← isInert_iff, hsteps.1, hsteps.2]
  refine ⟨fun hinert isFile ↦ ?_, isInert_of_keepsCommandLines, keepsCommandLines_of_isInert⟩
  have hkeeps := keepsCommandLines_of_isInert hinert
  exact ⟨fun s hs ↦ scenarioLine_eq_ok_iff.mpr (hkeeps _ (hservers s hs).2),
    fun c hc ↦ scenarioLine_eq_ok_iff.mpr (hkeeps _ (hclients c hc).2)⟩

/-! ## A directory with and without a quote in its name -/

/-- A plan whose client is given the test directory as an argument. -/
def planIn (testDir : String) : Plan where
  name := "x"
  testDir := ⟨testDir⟩
  port := 1
  admin := { binary := "admin" }
  registry := { binary := "reg" }
  clients := [{ label := "client", command := "true \x7btest_dir\x7d" }]

/-- What the client of the plan is started with. -/
def clientLines (p : Plan) : List (Except Failure CommandLine) :=
  p.clients.map fun c ↦ p.scenarioLine (fun _ ↦ false) c.command

/-- A test directory without quotes leaves all command lines readable. -/
theorem plain_directory_is_readable :
    (planIn "its").validate = .ok () ∧ ∀ l ∈ (planIn "its").clientLines, ∃ c, l = .ok c := by
  have hvalid : (planIn "its").validate = .ok () := by decide +kernel
  have hinert : (planIn "its").IsInert :=
    isInert_of_isNeutral (List.all_eq_true.mp rfl) (List.all_eq_true.mp rfl) (by decide +kernel)
  have hread := (valid_plan_reads_commands hvalid _ (.inl rfl)).1 (isInert_iff.mp hinert)
    (fun _ ↦ false)
  exact ⟨hvalid, by simpa [clientLines] using hread.2⟩

/-- A valid plan with a quote in its test directory has a command that is no command line. -/
theorem quoted_directory_is_unreadable :
    (planIn "it's").validate = .ok () ∧
      (planIn "it's").clientLines =
        [.error (.badCommandLine (.unfinished .singleQuote "true it's"))] := by
  decide +kernel

end Plan
end ClusterHarness
