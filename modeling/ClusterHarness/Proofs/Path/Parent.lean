import ClusterHarness.Path
import Mathlib.Data.List.Basic

/-!
# The segments of a path

Joining and taking the parent work on the text of a path. What they do to its segments, and to
whether it counts from the root, is stated here.
-/

namespace ClusterHarness.Path

/-! ## Visible segments -/

/-- The segments of a text that name something of their own. -/
def visible (cs : List Char) : List (List Char) := (segments cs).filter (!isSilent ·)

/-- What is visible of a path around a separator is what is visible on both sides. -/
theorem visible_append_slash (xs ys : List Char) :
    visible (xs ++ '/' :: ys) = visible xs ++ visible ys := by
  unfold visible segments
  rw [List.splitOn_append_cons_self, List.filter_append]

private theorem visible_slash_cons (cs : List Char) : visible ('/' :: cs) = visible cs :=
  visible_append_slash [] cs

/-- A path without a separator shows its only segment, unless that is silent. -/
theorem visible_of_notMem {segment : List Char} (h : '/' ∉ segment) :
    visible segment = [segment].filter (!isSilent ·) := by
  unfold visible segments
  rw [List.splitOn_eq_singleton h]

private theorem segments_cons_of_ne {c : Char} (hc : c ≠ '/') (cs : List Char) :
    ∃ first rest, segments cs = first :: rest ∧ segments (c :: cs) = (c :: first) :: rest := by
  unfold segments
  rw [List.splitOn_cons_eq_if_modifyHead, if_neg (by simpa using hc)]
  cases hs : cs.splitOn '/' with
  | nil => exact absurd hs (List.splitOn_ne_nil _ _)
  | cons first rest => exact ⟨first, rest, rfl, rfl⟩

/-- A text without visible segments begins with a separator or with a `.` segment. -/
theorem visible_cons_ne_nil {c : Char} {cs : List Char} (hc : c ≠ '/')
    (hdot : c = '.' → ∃ d ds, cs = d :: ds ∧ d ≠ '/') : visible (c :: cs) ≠ [] := by
  obtain ⟨first, rest, hfirst, hs⟩ := segments_cons_of_ne hc cs
  have hloud : isSilent (c :: first) = false := by
    by_cases hcdot : c = '.'
    · obtain ⟨d, ds, rfl, hd⟩ := hdot hcdot
      obtain ⟨more, rest', -, hs'⟩ := segments_cons_of_ne hd ds
      rw [hs'] at hfirst
      obtain ⟨rfl, -⟩ := List.cons.inj hfirst
      simp [isSilent]
    · simp [isSilent, hcdot]
  unfold visible
  rw [hs]
  simp [hloud]

/-! ## The last segment -/

private theorem lastSegment_append {segment : List Char} (h : '/' ∉ segment) (r : List Char) :
    lastSegment (segment ++ '/' :: r) = (segment, r) := by
  have hall : ∀ c ∈ segment, (c != '/') = true := fun c hc ↦ by
    simpa using fun he : c = '/' ↦ h (he ▸ hc)
  unfold lastSegment
  rw [List.takeWhile_append_of_pos hall, List.dropWhile_append_of_pos hall]
  simp

private theorem lastSegment_of_notMem {segment : List Char} (h : '/' ∉ segment) :
    lastSegment segment = (segment, []) := by
  have hall : ∀ c ∈ segment, (c != '/') = true := fun c hc ↦ by
    simpa using fun he : c = '/' ↦ h (he ▸ hc)
  unfold lastSegment
  rw [← List.append_nil segment, List.takeWhile_append_of_pos hall,
    List.dropWhile_append_of_pos hall]
  simp

/-- A text ends with its last segment. -/
theorem exists_getLast?_segments (cs : List Char) :
    ∃ segment, (segments cs).getLast? = some segment ∧ '/' ∉ segment ∧
      (cs = segment ∨ ∃ before, cs = before ++ '/' :: segment) := by
  unfold segments
  by_cases hmem : '/' ∈ cs
  · obtain ⟨reversed, before, heq, hslash⟩ := List.eq_append_cons_of_mem (List.mem_reverse.mpr hmem)
    have hcs : cs = before.reverse ++ '/' :: reversed.reverse := by
      rw [← List.reverse_reverse cs, heq]
      simp
    have hnot : '/' ∉ reversed.reverse := by simpa using hslash
    refine ⟨reversed.reverse, ?_, hnot, .inr ⟨before.reverse, hcs⟩⟩
    rw [hcs, List.splitOn_append_cons_self, List.splitOn_eq_singleton hnot, List.getLast?_concat]
  · refine ⟨cs, ?_, hmem, .inl rfl⟩
    rw [List.splitOn_eq_singleton hmem]
    rfl

private theorem isSilent_reverse (segment : List Char) :
    isSilent segment.reverse = isSilent segment := by
  unfold isSilent
  simp [List.reverse_eq_cons_iff, Bool.beq_eq_decide_eq]

/-- Silent segments at the end are not visible. -/
theorem visible_dropSilent (r : List Char) :
    visible (dropSilent r).reverse = visible r.reverse := by
  fun_induction dropSilent r with
  | case1 => rfl
  | case2 c r hs ih =>
    rw [ih]
    by_cases hslash : '/' ∈ c :: r
    · obtain ⟨segment, before, heq, hsegment⟩ := List.eq_append_cons_of_mem hslash
      rw [heq, lastSegment_append hsegment] at hs ⊢
      have hrev : '/' ∉ segment.reverse := by simpa using hsegment
      rw [List.reverse_append, List.reverse_cons, List.append_assoc, List.singleton_append,
        visible_append_slash, visible_of_notMem hrev]
      simp [isSilent_reverse, hs]
    · rw [lastSegment_of_notMem hslash] at hs ⊢
      have hrev : '/' ∉ (c :: r).reverse := fun hm ↦ hslash (List.mem_reverse.mp hm)
      rw [visible_of_notMem hrev, List.filter_singleton, isSilent_reverse, hs]
      rfl
  | case3 => rfl

/-- A text that ends with a visible segment is kept. -/
theorem dropSilent_of_visible {r : List Char} (h : isSilent (lastSegment r).1 = false) :
    dropSilent r = r := by
  cases r with
  | nil => rw [dropSilent]
  | cons c r =>
    rw [dropSilent, h]
    rfl

private theorem lastSegment_snd_suffix (r : List Char) : (lastSegment r).2 <:+ r :=
  (List.drop_suffix _ _).trans (List.dropWhile_suffix _)

private theorem dropSilent_suffix (r : List Char) : dropSilent r <:+ r := by
  fun_induction dropSilent r with
  | case1 => exact List.suffix_rfl
  | case2 c r hs ih => exact ih.trans (lastSegment_snd_suffix (c :: r))
  | case3 => exact List.suffix_rfl

/-- The last segment of a reversed text is the last that is visible, if it is visible. -/
theorem visible_reverse_eq {r : List Char} (h : isSilent (lastSegment r).1 = false) :
    ∃ segment, visible r.reverse = visible (lastSegment r).2.reverse ++ [segment] := by
  have hone {segment : List Char} (hslash : '/' ∉ segment) (hloud : isSilent segment = false) :
      visible segment.reverse = [segment.reverse] := by
    rw [visible_of_notMem fun hm ↦ hslash (List.mem_reverse.mp hm), List.filter_singleton,
      isSilent_reverse, hloud]
    rfl
  by_cases hslash : '/' ∈ r
  · obtain ⟨segment, rest, rfl, hsegment⟩ := List.eq_append_cons_of_mem hslash
    rw [lastSegment_append hsegment] at h ⊢
    rw [List.reverse_append, List.reverse_cons, List.append_assoc, List.singleton_append,
      visible_append_slash, hone hsegment h]
    exact ⟨_, rfl⟩
  · rw [lastSegment_of_notMem hslash] at h ⊢
    rw [hone hslash h]
    exact ⟨_, rfl⟩

/-! ## The parent -/

private theorem visible_reverse_dropSilent (cs : List Char) :
    visible (dropSilent cs.reverse).reverse = visible cs := by
  rw [visible_dropSilent, List.reverse_reverse]

/-- A `.` segment before a separator, or alone, is not visible. -/
theorem visible_dot_cons {cs : List Char} (h : cs = [] ∨ cs.head? = some '/') :
    visible ('.' :: cs) = visible cs := by
  rcases h with rfl | h
  · rfl
  · obtain ⟨rest, rfl⟩ : ∃ rest, cs = '/' :: rest := by
      cases cs with
      | nil => cases h
      | cons c rest => exact ⟨rest, by simpa using h⟩
    exact (visible_append_slash ['.'] rest).trans (visible_slash_cons rest).symm

/-- Nothing is fixed at the start of a text that begins neither with a separator nor with a `.`
segment. -/
theorem fixedLength_eq_zero {cs : List Char} (hslash : cs.head? ≠ some '/') (hdot : cs ≠ ['.'])
    (hdots : ∀ rest, cs ≠ '.' :: '/' :: rest) : fixedLength cs = 0 := by
  unfold fixedLength
  split
  · exact absurd rfl hslash
  · exact absurd rfl hdot
  · exact absurd rfl (hdots _)
  · rfl

/-- What is fixed at the start of a path names nothing. -/
theorem visible_take_append {cs r : List Char} (h : r <+: cs.drop (fixedLength cs)) :
    visible (cs.take (fixedLength cs) ++ r) = visible r := by
  unfold fixedLength at *
  split at h
  · exact visible_slash_cons r
  · rw [List.prefix_nil.mp h]
    rfl
  · refine visible_dot_cons ?_
    cases r with
    | nil => exact .inl rfl
    | cons c r => exact .inr (congrArg some (List.cons_prefix_cons.mp h).1)
  · rfl

/-- What is left without silent segments at the end ends with a visible one. -/
theorem isSilent_lastSegment_dropSilent {r : List Char} (h : dropSilent r ≠ []) :
    isSilent (lastSegment (dropSilent r)).1 = false := by
  fun_induction dropSilent r with
  | case1 => exact absurd rfl h
  | case2 c r hs ih => exact ih h
  | case3 c r hs => simpa using hs

/-- A beginning of a path that keeps its fixed start counts from the root if the path does. -/
theorem isAbsolute_of_isPrefix {p d : Path}
    (hstart : p.text.toList.take (fixedLength p.text.toList) <+: d.text.toList)
    (hpre : d.text.toList <+: p.text.toList) : d.isAbsolute = p.isAbsolute := by
  unfold isAbsolute
  cases hd : d.text.toList with
  | cons c cs =>
    obtain ⟨tail, htail⟩ := hpre
    rw [← htail, hd]
    rfl
  | nil =>
    cases hp : p.text.toList with
    | nil => rfl
    | cons c cs =>
      rw [hd, hp, List.prefix_nil] at hstart
      simpa using fun hslash : c = '/' ↦ by
        subst hslash
        cases hstart

/-- The parent of a path names all but the last of what the path names. -/
theorem parent_of_visible {p : Path} {front : List (List Char)} {last : List Char}
    (h : visible p.text.toList = front ++ [last]) :
    ∃ d, p.parent = some d ∧ visible d.text.toList = front ∧
      p.text.toList.take (fixedLength p.text.toList) <+: d.text.toList ∧
      d.text.toList <+: p.text.toList := by
  obtain ⟨start, hstart⟩ : ∃ start, p.text.toList.take (fixedLength p.text.toList) = start :=
    ⟨_, rfl⟩
  obtain ⟨after, hafter⟩ : ∃ after, p.text.toList.drop (fixedLength p.text.toList) = after :=
    ⟨_, rfl⟩
  have htext : p.text.toList = start ++ after := by rw [← hstart, ← hafter, List.take_append_drop]
  have hvisible {r : List Char} (hr : r <+: after) : visible (start ++ r) = visible r := by
    rw [← hstart]
    exact visible_take_append (hafter ▸ hr)
  obtain ⟨body, hbody⟩ : ∃ body, dropSilent after.reverse = body := ⟨_, rfl⟩
  have hall : visible body.reverse = front ++ [last] := by
    rw [← hbody, visible_reverse_dropSilent, ← hvisible List.prefix_rfl, ← htext, h]
  have hne : body ≠ [] := by
    rintro rfl
    exact absurd hall (by simp [visible, segments, isSilent])
  have hloud := isSilent_lastSegment_dropSilent (hbody ▸ hne)
  rw [hbody] at hloud
  obtain ⟨segment, hsegment⟩ := visible_reverse_eq hloud
  rw [hsegment] at hall
  have hkept : (dropSilent (lastSegment body).2).reverse <+: after := by
    rw [← List.reverse_suffix, List.reverse_reverse]
    exact (dropSilent_suffix _).trans
      ((lastSegment_snd_suffix body).trans (hbody ▸ dropSilent_suffix after.reverse))
  refine ⟨⟨String.ofList (start ++ (dropSilent (lastSegment body).2).reverse)⟩, ?_, ?_, ?_, ?_⟩
  · unfold parent
    simp only [hstart, hafter, hbody]
  · rw [String.toList_ofList, hvisible hkept, visible_dropSilent]
    exact (List.append_inj' hall rfl).1
  · rw [String.toList_ofList, hstart]
    exact List.prefix_append _ _
  · rw [String.toList_ofList, htext]
    exact (List.prefix_append_right_inj start).mpr hkept

/-- What the parent of a path keeps. A path whose last segment is visible has its other visible
segments from its parent, which counts from the root if the path does. -/
theorem parent_spec {p : Path} {before segment : List Char}
    (hp : p.text.toList = before ++ '/' :: segment) (hslash : '/' ∉ segment)
    (hloud : isSilent segment = false) :
    ∃ d, p.parent = some d ∧ d.text ≠ "" ∧ d.text.toList <+: p.text.toList ∧
      d.isAbsolute = p.isAbsolute ∧ visible d.text.toList = visible before := by
  have hlast : visible p.text.toList = visible before ++ [segment] := by
    rw [hp, visible_append_slash, visible_of_notMem hslash, List.filter_singleton, hloud]
    rfl
  obtain ⟨d, hd, hvisible, hstart, hpre⟩ := parent_of_visible hlast
  refine ⟨d, hd, fun hempty ↦ ?_, hpre, isAbsolute_of_isPrefix hstart hpre, hvisible⟩
  -- Nothing would be fixed at the start of the path, and nothing visible before its last segment.
  rw [hempty] at hstart hvisible
  rw [hp] at hstart
  have hnothing := List.prefix_nil.mp hstart
  cases before with
  | nil => cases hnothing
  | cons c before =>
    refine visible_cons_ne_nil (fun hc ↦ ?_) (fun hc ↦ ?_) hvisible.symm
    · subst hc
      cases hnothing
    · subst hc
      cases before with
      | nil => cases hnothing
      | cons e before =>
        refine ⟨e, before, rfl, fun he ↦ ?_⟩
        subst he
        cases hnothing

/-- The parent of a single visible segment is empty. -/
theorem parent_of_notMem {p : Path} (hslash : '/' ∉ p.text.toList)
    (hloud : isSilent p.text.toList = false) : p.parent = some ⟨""⟩ := by
  have hfixed : fixedLength p.text.toList = 0 := by
    refine fixedLength_eq_zero (fun h ↦ hslash (List.mem_of_mem_head? h)) (fun h ↦ ?_)
      fun rest h ↦ hslash (by simp [h])
    rw [h] at hloud
    cases hloud
  have hlast : lastSegment p.text.toList.reverse = (p.text.toList.reverse, []) :=
    lastSegment_of_notMem fun hm ↦ hslash (List.mem_reverse.mp hm)
  have hkeep : dropSilent p.text.toList.reverse = p.text.toList.reverse :=
    dropSilent_of_visible (by rw [hlast, isSilent_reverse, hloud])
  unfold parent
  simp only [hfixed, List.drop_zero, List.take_zero, hkeep]
  split
  · next hnil =>
    rw [List.reverse_eq_nil_iff.mp hnil] at hloud
    cases hloud
  · rw [hlast]
    simp [dropSilent]

/-! ## Joining -/

/-- A joined path counts from the root if one of its parts does. -/
theorem isAbsolute_join (base p : Path) :
    (base.join p).isAbsolute = (p.isAbsolute || base.isAbsolute) := by
  unfold join
  by_cases hp : p.isAbsolute
  · simp [hp]
  · rw [if_neg hp]
    have hhead : ¬ p.text.toList.head? = some '/' := by simpa [isAbsolute] using hp
    by_cases hb : base.text.toList = []
    · simp [isAbsolute, hb]
    · dsimp only
      split <;> simp [isAbsolute, List.head?_append_of_ne_nil _ hb, hhead]

/-- A joined path names what its base names, and then what is joined to it. -/
theorem visible_join (base : Path) {p : Path} (hp : p.isAbsolute = false) :
    visible (base.join p).text.toList = visible base.text.toList ++ visible p.text.toList := by
  unfold join
  rw [if_neg (by simp [hp])]
  dsimp only
  split
  · next hend =>
    rw [String.toList_append]
    obtain hnil | hslash : base.text.toList = [] ∨ base.text.toList.getLast? = some '/' := by
      simpa using hend
    · rw [hnil]
      rfl
    · obtain ⟨before, hbefore⟩ := List.getLast?_eq_some_iff.mp hslash
      rw [hbefore, List.append_assoc, List.singleton_append, visible_append_slash,
        visible_append_slash, List.append_assoc]
      rfl
  · rw [String.toList_append, String.toList_append, List.append_assoc]
    exact visible_append_slash _ _

end ClusterHarness.Path
