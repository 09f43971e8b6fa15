import ClusterHarness.Proofs.Plan.Expansion
import Mathlib.Data.List.Infix

/-!
# Replacing all placeholders at once

The placeholders of a template are replaced one kind after the other, so that what was put in for
one is searched for the next. Here they are replaced in one pass, which does not look at what it
puts in, and the two are compared: they agree for all templates unless the locator holds the
placeholder of the test directory, or completes one that a template has begun.
-/

namespace ClusterHarness

/-! ## A replacement that changes nothing -/

namespace Text

variable {pattern value : List Char}

private theorem replace_self (hp : pattern ≠ []) : replace pattern value pattern = value := by
  have hall := @replace_append pattern value hp []
  rwa [List.append_nil, replace, List.append_nil] at hall

/-- What ends with a character that the pattern may only end with is replaced by itself. -/
theorem replace_append_of_getLast? (hp : pattern ≠ []) {cs : List Char}
    (hlast : ∀ c ∈ cs.getLast?, c ∉ pattern.dropLast) (ds : List Char) :
    replace pattern value (cs ++ ds) = replace pattern value cs ++ replace pattern value ds := by
  revert hlast
  apply replace_induction (motive := fun cs es ↦ (∀ c ∈ cs.getLast?, c ∉ pattern.dropLast) →
    replace pattern value (cs ++ ds) = es ++ replace pattern value ds) hp
  · intro _
    rfl
  · intro cs ih hlast
    rw [List.append_assoc, replace_append hp, List.append_assoc, ih]
    intro c hc
    exact hlast c (List.mem_getLast?_append_of_mem_getLast? hc)
  · intro c cs hnot ih hlast
    have hkeep : ¬ pattern <+: c :: (cs ++ ds) := by
      intro hpre
      obtain hall | hbegun := List.prefix_or_prefix_of_prefix hpre (List.prefix_append (c :: cs) ds)
      · exact hnot hall
      rw [← List.dropLast_append_getLast hp, List.prefix_concat_iff] at hbegun
      obtain heq | hbegun := hbegun
      · exact hnot (by rw [heq, List.dropLast_append_getLast])
      · have hmem := List.getLast_mem (List.cons_ne_nil c cs)
        exact hlast _ (List.getLast?_eq_some_getLast _) (hbegun.subset hmem)
    rw [List.cons_append, replace, if_neg (by rwa [List.isPrefixOf_iff_prefix]), ih,
      List.cons_append]
    intro d hd
    exact hlast d (@List.mem_getLast?_append_of_mem_getLast? _ [c] cs d hd)

/-- The length counts the occurrences. -/
theorem length_replace (hp : pattern ≠ []) (cs : List Char) :
    ∃ n, (replace pattern value cs).length + n * pattern.length =
      cs.length + n * value.length := by
  apply replace_induction (motive := fun cs ds ↦
    ∃ n, ds.length + n * pattern.length = cs.length + n * value.length) hp
  · exact ⟨0, by simp⟩
  · rintro cs ⟨n, hn⟩
    refine ⟨n + 1, ?_⟩
    rw [List.length_append, List.length_append, Nat.succ_mul, Nat.succ_mul]
    omega
  · rintro c cs _ ⟨n, hn⟩
    refine ⟨n, ?_⟩
    rw [List.length_cons, List.length_cons]
    omega

/-- A text that holds the pattern is changed, unless the pattern is replaced by itself. -/
theorem replace_eq_self_iff (hp : pattern ≠ []) {cs : List Char} :
    replace pattern value cs = cs ↔ value = pattern ∨ ¬ pattern <:+: cs := by
  apply replace_induction (motive := fun cs ds ↦
    ds = cs ↔ value = pattern ∨ ¬ pattern <:+: cs) hp
  · simp [hp]
  · intro cs ih
    refine ⟨fun heq ↦ .inl ?_, ?_⟩
    · obtain ⟨n, hn⟩ := @length_replace pattern value hp cs
      have hlength := congrArg List.length heq
      rw [List.length_append, List.length_append] at hlength
      have hmul : (n + 1) * value.length = (n + 1) * pattern.length := by
        rw [Nat.succ_mul, Nat.succ_mul]
        omega
      exact (List.append_inj heq (Nat.eq_of_mul_eq_mul_left n.succ_pos hmul)).1
    · rintro (rfl | hnot)
      · rw [ih.mpr (.inl rfl)]
      · exact absurd (List.prefix_append _ _).isInfix hnot
  · intro c cs hnot ih
    rw [List.cons_inj_right, ih, List.infix_cons_iff, or_iff_right hnot]

end Text

/-! ## One pass over a template -/

namespace Placeholder

/-- The placeholder that a text begins with. -/
def leading? (cs : List Char) : Option Placeholder := all.find? (·.pattern.isPrefixOf cs)

/-- Go through a template once, from left to right, and put its value for every placeholder. -/
def substitute (value : Placeholder → List Char) : List Char → List Char
  | [] => []
  | c :: cs =>
    match leading? (c :: cs) with
    | some h => value h ++ substitute value (cs.drop (h.pattern.length - 1))
    | none => c :: substitute value cs
termination_by cs => cs.length
decreasing_by
  · simp only [List.length_drop, List.length_cons]; omega
  · simp

variable {value : Placeholder → List Char} {c : Char} {cs : List Char}

private theorem leading?_pattern_append (h : Placeholder) (cs : List Char) :
    leading? (h.pattern ++ cs) = some h := by
  cases h <;> rfl

private theorem pattern_prefix_of_leading? {h : Placeholder} (hlead : leading? cs = some h) :
    h.pattern <+: cs := by
  have hfound : h.pattern.isPrefixOf cs = true :=
    List.find?_some (p := fun h : Placeholder ↦ h.pattern.isPrefixOf cs) hlead
  exact List.isPrefixOf_iff_prefix.mp hfound

private theorem leading?_eq_none_iff :
    leading? cs = none ↔ ∀ h : Placeholder, ¬ h.pattern <+: cs := by
  simp only [leading?, List.find?_eq_none, List.isPrefixOf_iff_prefix]
  exact ⟨fun hall h ↦ hall h (by cases h <;> decide), fun hall h _ ↦ hall h⟩

/-- No placeholder begins with anything but a brace. -/
theorem leading?_eq_none_of_ne (hc : c ≠ '\x7b') (cs : List Char) : leading? (c :: cs) = none := by
  rw [leading?_eq_none_iff]
  intro h hpre
  obtain ⟨ps, hps, -⟩ := h.exists_pattern
  rw [hps, List.cons_prefix_cons] at hpre
  exact hc hpre.1.symm

private theorem substitute_nil (value : Placeholder → List Char) : substitute value [] = [] := by
  rw [substitute]

private theorem substitute_pattern_append (value : Placeholder → List Char) (h : Placeholder)
    (cs : List Char) : substitute value (h.pattern ++ cs) = value h ++ substitute value cs := by
  have hlead := leading?_pattern_append h cs
  obtain ⟨ps, hps, -⟩ := h.exists_pattern
  rw [hps, List.cons_append] at hlead ⊢
  rw [substitute, hlead]
  dsimp only
  rw [hps, List.length_cons, Nat.add_sub_cancel, List.drop_left]

private theorem substitute_self (value : Placeholder → List Char) (h : Placeholder) :
    substitute value h.pattern = value h := by
  have hall := substitute_pattern_append value h []
  rwa [List.append_nil, substitute_nil, List.append_nil] at hall

private theorem substitute_cons (hlead : leading? (c :: cs) = none)
    (value : Placeholder → List Char) : substitute value (c :: cs) = c :: substitute value cs := by
  rw [substitute, hlead]

/-- A template is gone through one placeholder or one character at a time. -/
theorem template_induction {motive : List Char → Prop} (nil : motive [])
    (placeholder : ∀ h cs, motive cs → motive (pattern h ++ cs))
    (cons : ∀ c cs, leading? (c :: cs) = none → motive cs → motive (c :: cs)) (cs : List Char) :
    motive cs := by
  induction hn : cs.length using Nat.strongRecOn generalizing cs with
  | ind n ih =>
    subst hn
    cases cs with
    | nil => exact nil
    | cons c cs =>
      cases hlead : leading? (c :: cs) with
      | none => exact cons c cs hlead (ih _ (Nat.lt_succ_self _) cs rfl)
      | some h =>
        obtain ⟨rest, hrest⟩ := pattern_prefix_of_leading? hlead
        rw [← hrest]
        refine placeholder h rest (ih _ ?_ rest rfl)
        have hlength := congrArg List.length hrest
        have hpos := List.length_pos_iff.mpr h.inert_pattern.visible.ne_nil
        rw [List.length_append] at hlength
        omega

/-- A template in which every placeholder stands for itself. -/
theorem substitute_pattern (cs : List Char) : substitute pattern cs = cs := by
  induction cs using template_induction with
  | nil => exact substitute_nil _
  | placeholder h cs ih => rw [substitute_pattern_append, ih]
  | cons c cs hlead ih => rw [substitute_cons hlead, ih]

/-- What contains no brace is kept. -/
theorem substitute_append_of_notMem (hcs : '\x7b' ∉ cs) (value : Placeholder → List Char)
    (ds : List Char) : substitute value (cs ++ ds) = cs ++ substitute value ds := by
  induction cs with
  | nil => rfl
  | cons c cs ih =>
    rw [List.mem_cons, not_or] at hcs
    rw [List.cons_append, substitute_cons (leading?_eq_none_of_ne (Ne.symm hcs.1) _), ih hcs.2,
      List.cons_append]

/-- What the result begins with, the template begins with, or a value takes part in it. -/
theorem prefix_substitute {w cs : List Char} (hw : w <+: substitute value cs) :
    w <+: cs ∨ ∃ h s, s ≠ [] ∧ s <:+ w ∧ (s <+: value h ∨ value h <+: s) := by
  induction cs using template_induction generalizing w with
  | nil => exact .inl (substitute_nil value ▸ hw)
  | placeholder h cs _ =>
    rw [substitute_pattern_append] at hw
    obtain rfl | hne := eq_or_ne w []
    · exact .inl List.nil_prefix
    · exact .inr ⟨h, w, hne, List.suffix_rfl,
        List.prefix_or_prefix_of_prefix hw (List.prefix_append _ _)⟩
  | cons c cs hlead ih =>
    rw [substitute_cons hlead] at hw
    cases w with
    | nil => exact .inl List.nil_prefix
    | cons d w =>
      rw [List.cons_prefix_cons] at hw
      obtain ⟨rfl, hw⟩ := hw
      obtain hcs | ⟨h, s, hne, hs, hvalue⟩ := ih hw
      · exact .inl (List.cons_prefix_cons.mpr ⟨rfl, hcs⟩)
      · exact .inr ⟨h, s, hne, hs.trans (List.suffix_cons d w), hvalue⟩

/-! ## Values that form no placeholder with their neighbours -/

/-- The text holds the placeholder, or it goes on with one that has begun before it. -/
def Completes (k : Placeholder) (cs : List Char) : Prop :=
  k.pattern <:+: cs ∨ ∃ begun rest, begun ++ rest = k.pattern ∧ rest ≠ [] ∧ rest <+: cs

private theorem Completes.exists_begun {k : Placeholder} (h : Completes k cs) :
    ∃ begun rest, begun ++ rest = k.pattern ∧ rest ≠ [] ∧ k.pattern <:+: begun ++ cs := by
  obtain hin | ⟨begun, rest, hbegun, hrest, hpre⟩ := h
  · exact ⟨[], k.pattern, rfl, k.inert_pattern.visible.ne_nil, hin⟩
  · refine ⟨begun, rest, hbegun, hrest, List.IsPrefix.isInfix ?_⟩
    rw [← hbegun]
    exact (List.prefix_append_right_inj begun).mpr hpre

private theorem getLast?_pattern (k : Placeholder) : k.pattern.getLast? = some '\x7d' := by
  cases k <;> rfl

private theorem closing_mem_of_completes {k : Placeholder} (h : Completes k cs) : '\x7d' ∈ cs := by
  have hclosing : '\x7d' ∈ k.pattern.getLast? := k.getLast?_pattern
  obtain hin | ⟨begun, rest, heq, hne, hpre⟩ := h
  · exact hin.subset (List.mem_of_mem_getLast? hclosing)
  · rw [← heq, List.getLast?_append_of_ne_nil begun hne] at hclosing
    exact hpre.subset (List.mem_of_mem_getLast? hclosing)

/-- The text is no piece of the placeholder, and neither begins it nor goes on with it. -/
structure Spares (k : Placeholder) (cs : List Char) : Prop where
  not_begun : ∀ c ∈ cs.getLast?, c ∉ k.pattern.dropLast
  not_ended : ∀ s, s ≠ [] → s <:+ k.pattern.tail → ¬ s <+: cs
  not_within : ∀ s, s <:+ k.pattern.tail → ¬ cs <+: s

private theorem spares_pattern (k h : Placeholder) : Spares k h.pattern where
  not_begun c hc := by
    obtain rfl : '\x7d' = c := Option.some.inj (h.getLast?_pattern.symm.trans hc)
    cases k <;> decide
  not_ended s hne hs hpre := by
    obtain ⟨ps, hps, hbrace⟩ := k.exists_pattern
    obtain ⟨qs, hqs, -⟩ := h.exists_pattern
    obtain ⟨c, s, rfl⟩ := List.exists_cons_of_ne_nil hne
    rw [hqs, List.cons_prefix_cons] at hpre
    rw [hps] at hs
    exact hbrace (hpre.1 ▸ hs.subset List.mem_cons_self)
  not_within s hs hpre := by
    obtain ⟨ps, hps, hbrace⟩ := k.exists_pattern
    obtain ⟨qs, hqs, -⟩ := h.exists_pattern
    rw [hps] at hs
    exact hbrace (hs.subset (hpre.subset (hqs ▸ List.mem_cons_self)))

private theorem not_infix_pattern {k h : Placeholder} (hne : h ≠ k) :
    ¬ k.pattern <:+: h.pattern := by
  revert hne
  cases k <;> cases h <;> decide

/-- No placeholder contains a digit. -/
theorem isDigit_of_mem_pattern {k : Placeholder} (hc : c ∈ k.pattern) : c.isDigit = false := by
  have hall : (k.pattern.all fun c ↦ !c.isDigit) = true := by cases k <;> rfl
  simpa using List.all_eq_true.mp hall c hc

private theorem spares_of_not_completes {k : Placeholder}
    (hdigit : ∃ c ∈ cs.getLast?, c.isDigit = true) (h : ¬ Completes k cs) : Spares k cs := by
  obtain ⟨d, hd, hdigit⟩ := hdigit
  have hd_notMem : d ∉ k.pattern := fun hmem ↦ by simp [isDigit_of_mem_pattern hmem] at hdigit
  obtain ⟨ps, hps, -⟩ := k.exists_pattern
  constructor
  · rintro c hc hmem
    obtain rfl : c = d := Option.mem_unique hc hd
    exact hd_notMem (List.mem_of_mem_dropLast hmem)
  · rintro s hne ⟨begun, hs⟩ hpre
    refine h (.inr ⟨'\x7b' :: begun, s, ?_, hne, hpre⟩)
    rw [List.cons_append, hs, hps, List.tail_cons]
  · intro s hs hpre
    refine hd_notMem (List.mem_of_mem_tail (hs.subset (hpre.subset ?_)))
    exact List.mem_of_mem_getLast? hd

/-- Where one placeholder still stands for itself and the other values spare it, it is replaced
inside a template as it would be in the pass. -/
theorem replace_substitute {k : Placeholder} (hself : value k = k.pattern)
    (hspares : ∀ h, Spares k (value h)) (hother : ∀ h ≠ k, ¬ k.pattern <:+: value h)
    (by_ cs : List Char) : Text.replace k.pattern by_ (substitute value cs) =
      substitute (Function.update value k by_) cs := by
  have hne := k.inert_pattern.visible.ne_nil
  have hvalue (h : Placeholder) :
      Text.replace k.pattern by_ (value h) = Function.update value k by_ h := by
    obtain rfl | hkind := eq_or_ne h k
    · rw [hself, Function.update_self, Text.replace_self hne]
    · rw [Function.update_of_ne hkind, Text.replace_eq_self_iff hne]
      exact .inr (hother h hkind)
  induction cs using template_induction with
  | nil => rw [substitute_nil, substitute_nil, Text.replace]
  | placeholder h cs ih =>
    rw [substitute_pattern_append, substitute_pattern_append,
      Text.replace_append_of_getLast? hne (hspares h).not_begun, ih, hvalue]
  | cons c cs hlead ih =>
    -- What a value takes part in is no occurrence, and without one there is none in the template.
    have hnot : ¬ k.pattern <+: c :: substitute value cs := by
      intro hpre
      obtain ⟨ps, hps, -⟩ := k.exists_pattern
      have htail : k.pattern.tail = ps := by rw [hps, List.tail_cons]
      rw [hps, List.cons_prefix_cons] at hpre
      obtain hcs | ⟨h, s, hs, hsuffix, hbegins | hwithin⟩ := prefix_substitute hpre.2
      · refine leading?_eq_none_iff.mp hlead k ?_
        rw [hps]
        exact List.cons_prefix_cons.mpr ⟨hpre.1, hcs⟩
      · exact (hspares h).not_ended s hs (htail ▸ hsuffix) hbegins
      · exact (hspares h).not_within s (htail ▸ hsuffix) hwithin
    rw [substitute_cons hlead, substitute_cons hlead, Text.replace,
      if_neg (by rwa [List.isPrefixOf_iff_prefix]), ih]

/-- What has begun a placeholder is none yet, whatever placeholder comes after it. -/
theorem substitute_begun {k : Placeholder} {begun rest : List Char}
    (hbegun : begun ++ rest = k.pattern) (hrest : rest ≠ []) (h : Placeholder) :
    substitute value (begun ++ h.pattern) = begun ++ value h := by
  have hlead : ∀ cs ∈ k.pattern.inits, cs ≠ [] → cs ≠ k.pattern →
      leading? (cs ++ h.pattern) = none := by
    cases k <;> cases h <;> decide
  cases begun with
  | nil => exact substitute_self value h
  | cons c begun =>
    obtain ⟨ps, hps, hbrace⟩ := k.exists_pattern
    have hnone : leading? (c :: (begun ++ h.pattern)) = none := by
      refine hlead (c :: begun) (List.mem_inits _ _ |>.mpr ⟨rest, hbegun⟩) (List.cons_ne_nil _ _) ?_
      rintro heq
      rw [← heq] at hbegun
      exact hrest (List.append_right_eq_self.mp hbegun)
    have hnotMem : '\x7b' ∉ begun := by
      intro hmem
      rw [hps, List.cons_append, List.cons.injEq] at hbegun
      exact hbrace (hbegun.2 ▸ List.mem_append_left _ hmem)
    rw [List.cons_append, substitute_cons hnone, substitute_append_of_notMem hnotMem,
      substitute_self, List.cons_append]

end Placeholder

/-! ## A plan's templates -/

namespace Plan

open Placeholder

variable {p : Plan}

/-- Replace the placeholders in a template in one pass. -/
def expandAtOnce (p : Plan) (template : String) : String :=
  String.ofList (substitute p.placeholderValue template.toList)

private theorem getLast?_port (p : Plan) :
    ∃ c ∈ (p.placeholderValue .port).getLast?, c.isDigit = true := by
  have hne := p.inert_port.visible.ne_nil
  exact ⟨_, List.getLast?_eq_some_getLast hne, isDigit_port (List.getLast_mem hne)⟩

private theorem getLast?_locator (p : Plan) :
    ∃ c ∈ (p.placeholderValue .locator).getLast?, c.isDigit = true := by
  obtain ⟨c, hc, hdigit⟩ := p.getLast?_port
  rw [placeholderValue_locator]
  exact ⟨c, List.mem_getLast?_append_of_mem_getLast? hc, hdigit⟩

private theorem not_completes_port (k : Placeholder) :
    ¬ Completes k (p.placeholderValue .port) := by
  intro h
  have hdigit := isDigit_port (closing_mem_of_completes h)
  exact absurd hdigit (by decide)

private theorem spares_port (k : Placeholder) : Spares k (p.placeholderValue .port) :=
  spares_of_not_completes p.getLast?_port (not_completes_port k)

/-- The port and the locator are put in as in the pass, whatever they are. -/
theorem replace_locator (p : Plan) (cs : List Char) :
    Text.replace Placeholder.locator.pattern (p.placeholderValue .locator)
        (Text.replace Placeholder.port.pattern (p.placeholderValue .port) cs) =
      substitute (Function.update p.placeholderValue .testDir Placeholder.testDir.pattern) cs := by
  have hport := @Placeholder.replace_substitute pattern .port rfl
    (fun h ↦ spares_pattern _ h) (fun h ↦ not_infix_pattern) (p.placeholderValue .port) cs
  rw [substitute_pattern] at hport
  rw [hport, Placeholder.replace_substitute]
  · congr 1
    funext h
    cases h <;> rfl
  · rfl
  · intro h
    cases h with
    | port => exact spares_port _
    | locator => exact spares_pattern _ .locator
    | testDir => exact spares_pattern _ .testDir
  · intro h hne
    cases h with
    | port => exact fun hin ↦ not_completes_port _ (.inl hin)
    | locator => exact absurd rfl hne
    | testDir => exact not_infix_pattern hne

/-- A template whose other values are put in is searched once more for the test directory. -/
theorem toList_expand_eq (p : Plan) (template : String) : (p.expand template).toList =
    Text.replace Placeholder.testDir.pattern (p.placeholderValue .testDir)
      (substitute (Function.update p.placeholderValue .testDir Placeholder.testDir.pattern)
        template.toList) := by
  rw [toList_expand, replace_locator]

private theorem expand_eq_of_not_completes (h : ¬ Completes .testDir p.locator.toList)
    (template : String) : p.expand template = p.expandAtOnce template := by
  apply String.toList_injective
  rw [toList_expand_eq, Placeholder.replace_substitute, expandAtOnce, String.toList_ofList]
  · congr 1
    funext k
    cases k <;> rfl
  · rfl
  · intro k
    cases k with
    | port => exact spares_port _
    | locator => exact spares_of_not_completes p.getLast?_locator h
    | testDir => exact spares_pattern _ .testDir
  · intro k hne
    cases k with
    | port => exact fun hin ↦ not_completes_port _ (.inl hin)
    | locator => exact fun hin ↦ h (.inl hin)
    | testDir => exact absurd rfl hne

/-- A test directory that is named as its placeholder is may be put in twice. -/
theorem expand_eq_of_testDir_eq (h : p.placeholderValue .testDir = Placeholder.testDir.pattern)
    (template : String) : p.expand template = p.expandAtOnce template := by
  apply String.toList_injective
  rw [toList_expand_eq, (Text.replace_eq_self_iff (inert_pattern _).visible.ne_nil).mpr (.inl h),
    ← h, Function.update_eq_self, expandAtOnce, String.toList_ofList]

/-- The locator after what has begun the placeholder of the test directory. -/
theorem expand_begun {begun rest : List Char}
    (hbegun : begun ++ rest = Placeholder.testDir.pattern) (hrest : rest ≠ []) :
    (p.expand (String.ofList (begun ++ Placeholder.locator.pattern))).toList =
        Text.replace Placeholder.testDir.pattern (p.placeholderValue .testDir)
          (begun ++ p.locator.toList) ∧
      (p.expandAtOnce (String.ofList (begun ++ Placeholder.locator.pattern))).toList =
        begun ++ p.locator.toList := by
  constructor
  · rw [toList_expand_eq, String.toList_ofList, substitute_begun hbegun hrest]
    rfl
  · rw [expandAtOnce, String.toList_ofList, String.toList_ofList, substitute_begun hbegun hrest]
    rfl

/-- A locator that completes the placeholder is searched again, also by itself. -/
theorem expands_at_once_iff (p : Plan) :
    ((∀ template, p.expand template = p.expandAtOnce template) ↔
      p.testDir.text = "\x7btest_dir\x7d" ∨ ¬ Completes .testDir p.locator.toList) ∧
    (p.expand "\x7blocator\x7d" = p.locator ↔
      p.testDir.text = "\x7btest_dir\x7d" ∨
        ¬ Placeholder.testDir.pattern <:+: p.locator.toList) := by
  have hne := Placeholder.testDir.inert_pattern.visible.ne_nil
  have htext : p.testDir.text = "\x7btest_dir\x7d" ↔
      p.placeholderValue .testDir = Placeholder.testDir.pattern := String.toList_inj.symm
  rw [htext]
  refine ⟨⟨fun h ↦ ?_, ?_⟩, ?_⟩
  · by_contra! hnot
    obtain ⟨hvalue, hcompletes⟩ := hnot
    obtain ⟨begun, rest, hbegun, hrest, hin⟩ := hcompletes.exists_begun
    obtain ⟨hexpand, hatOnce⟩ := p.expand_begun hbegun hrest
    rw [h, hatOnce, eq_comm, Text.replace_eq_self_iff hne] at hexpand
    exact hexpand.elim hvalue (· hin)
  · rintro (h | h)
    · exact expand_eq_of_testDir_eq h
    · exact expand_eq_of_not_completes h
  · obtain ⟨hexpand, -⟩ := p.expand_begun (List.nil_append _) hne
    rw [← String.toList_inj, ← Text.replace_eq_self_iff hne]
    rw [List.nil_append, List.nil_append] at hexpand
    rw [← hexpand]
    rfl

/-! ## Identities with and without a placeholder in them -/

/-- A plan whose client is given the locator as an argument. -/
def planLocatedBy (identity : String) : Plan :=
  { planIn "its" with
    harness := { locatorIdentity := identity }
    clients := [{ label := "client", command := "true '\x7blocator\x7d'" }] }

/-- An identity without braces is put in as it is. -/
theorem plain_identity_is_kept :
    (planLocatedBy "IcePack/Locator").validate = .ok () ∧
      (planLocatedBy "IcePack/Locator").expand "\x7blocator\x7d" =
        "IcePack/Locator:default -p 1" := by
  refine ⟨by decide +kernel, ?_⟩
  have hbrace : '\x7b' ∉ (planLocatedBy "IcePack/Locator").locator.toList := by decide +kernel
  refine (expands_at_once_iff _).2.mpr (.inr fun hin ↦ hbrace (hin.subset ?_))
  decide

/-- An identity that names the test directory is put in with the directory in its place. -/
theorem placeholder_in_identity_is_replaced :
    (planLocatedBy "\x7btest_dir\x7d/Locator").validate = .ok () ∧
      (planLocatedBy "\x7btest_dir\x7d/Locator").locator =
        "\x7btest_dir\x7d/Locator:default -p 1" ∧
      (planLocatedBy "\x7btest_dir\x7d/Locator").expand "\x7blocator\x7d" =
        "its/Locator:default -p 1" := by
  decide +kernel

end Plan
end ClusterHarness
