import ClusterHarness.CommandLine.Document

/-!
# Quoting and splitting are inverse

Splitting the written form of a list of words gives the words back, whatever characters they hold.
A command line is therefore read back from the line, and from the document, that it is written as.
-/

namespace ClusterHarness.CommandLine

/-- A plain character separates no words and opens nothing. -/
theorem outside_of_isPlain {c : Char} (h : isPlain c = true) (sofar : List Char) :
    Text.isBlank c = false ∧ Position.outside sofar c = .word (c :: sofar) := by
  unfold isPlain at h
  rcases Bool.or_eq_true_iff.mp h with ha | hp
  · have hn : (48 ≤ c.toNat ∧ c.toNat ≤ 57) ∨ (65 ≤ c.toNat ∧ c.toNat ≤ 90) ∨
        (97 ≤ c.toNat ∧ c.toNat ≤ 122) := by
      delta Char.isAlphanum Char.isAlpha Char.isUpper Char.isLower Char.isDigit at ha
      simp [UInt32.le_iff_toNat_le] at ha
      omega
    constructor
    · simp only [Text.isBlank, Bool.or_eq_false_iff, Bool.and_eq_false_iff, decide_eq_false_iff_not,
        beq_eq_false_iff_ne]
      omega
    · have hd : c ≠ '"' := by rintro rfl; revert hn; decide
      have hs : c ≠ '\'' := by rintro rfl; revert hn; decide
      have hk : c ≠ '\\' := by rintro rfl; revert hn; decide
      simp [Position.outside, hd, hs, hk]
  · rw [List.contains_iff_mem] at hp
    simp only [List.mem_cons, List.not_mem_nil, or_false] at hp
    rcases hp with rfl | rfl | rfl | rfl | rfl | rfl | rfl | rfl | rfl | rfl <;> exact ⟨rfl, rfl⟩

/-! ## Scanning one written word -/

/-- A character that ends no word only moves the scanner. -/
theorem scan_cons_of_ended?_eq_none {p : Position} {c : Char} (h : p.ended? c = none)
    (cs : List Char) : scan p (c :: cs) = scan (p.next c) cs := by
  rw [scan, h]

/-- A plain character is added to the word, or opens one. -/
theorem scan_word_cons_of_isPlain {c : Char} (h : isPlain c = true) (sofar cs : List Char) :
    scan (.word sofar) (c :: cs) = scan (.word (c :: sofar)) cs := by
  obtain ⟨hb, ho⟩ := outside_of_isPlain h sofar
  rw [scan_cons_of_ended?_eq_none (by simp [Position.ended?, hb])]
  simp only [Position.next, hb, Bool.false_eq_true, if_false, ho]

private theorem scan_gap_cons_of_isPlain {c : Char} (h : isPlain c = true) (cs : List Char) :
    scan .gap (c :: cs) = scan (.word [c]) cs := by
  obtain ⟨hb, ho⟩ := outside_of_isPlain h []
  rw [scan_cons_of_ended?_eq_none rfl]
  simp only [Position.next, hb, Bool.false_eq_true, if_false, ho]

/-- A bare run of plain characters is added to the word. -/
theorem scan_word_append_of_isPlain {w : List Char} (h : ∀ c ∈ w, isPlain c = true)
    (sofar rest : List Char) :
    scan (.word sofar) (w ++ rest) = scan (.word (w.reverse ++ sofar)) rest := by
  induction w generalizing sofar with
  | nil => rfl
  | cons c w ih =>
    rw [List.cons_append, scan_word_cons_of_isPlain (h c List.mem_cons_self),
      ih (fun d hm ↦ h d (List.mem_cons_of_mem c hm))]
    simp

/-- Between double quotes an escaped character is read as itself. -/
theorem scan_double_escape (c : Char) (sofar rest : List Char) :
    scan (.double sofar) (escape c ++ rest) = scan (.double (c :: sofar)) rest := by
  unfold escape
  split
  · next h => simp [scan, Position.ended?, Position.next, h]
  · next h =>
    obtain ⟨hk, hd⟩ := not_or.mp h
    simp [scan, Position.ended?, Position.next, hk, hd]

/-- Between double quotes a run of escaped characters is read as the run. -/
theorem scan_double_flatMap_escape (w sofar rest : List Char) :
    scan (.double sofar) (w.flatMap escape ++ rest) =
      scan (.double (w.reverse ++ sofar)) rest := by
  induction w generalizing sofar with
  | nil => rfl
  | cons c w ih =>
    rw [List.flatMap_cons, List.append_assoc, scan_double_escape, ih]
    simp

/-- The written form of a word, read from a gap, leaves the scanner at the end of the word. -/
theorem scan_gap_quoteWord (w rest : List Char) :
    scan .gap (quoteWord w ++ rest) = scan (.word w.reverse) rest := by
  unfold quoteWord
  split
  · next h =>
    obtain ⟨hne, hplain⟩ := Bool.and_eq_true_iff.mp h
    rw [List.all_eq_true] at hplain
    cases w with
    | nil => simp at hne
    | cons c w =>
      rw [List.cons_append, scan_gap_cons_of_isPlain (hplain c List.mem_cons_self),
        scan_word_append_of_isPlain (fun d hm ↦ hplain d (List.mem_cons_of_mem c hm)),
        List.reverse_cons]
  · have hopen : Position.gap.next '"' = .double [] := by decide
    rw [List.cons_append, List.cons_append, List.append_assoc,
      scan_cons_of_ended?_eq_none rfl, hopen, scan_double_flatMap_escape,
      List.append_nil, List.cons_append, List.nil_append, scan_cons_of_ended?_eq_none rfl]
    rfl

/-! ## Lists of words -/

/-- A space ends a word. -/
theorem scan_word_space (sofar rest : List Char) :
    scan (.word sofar) (' ' :: rest) = (scan .gap rest).map (sofar.reverse :: ·) := by
  rfl

/-- Splitting the written form of a list of words gives the words back. -/
theorem splitWords_joinWords (ws : List (List Char)) : splitWords (joinWords ws) = .ok ws := by
  unfold splitWords
  induction ws with
  | nil => rfl
  | cons w ws ih =>
    cases ws with
    | nil =>
      have h := scan_gap_quoteWord w []
      rw [List.append_nil] at h
      simp [joinWords, h, scan, Position.finish]
    | cons v ws =>
      rw [joinWords, scan_gap_quoteWord, scan_word_space, ih, List.reverse_reverse]
      · rfl
      · simp

/-- Splitting joined arguments gives the arguments back. -/
theorem split_join (args : List String) : split (join args) = .ok args := by
  unfold split join
  rw [String.toList_ofList, splitWords_joinWords]
  simp only [List.map_map]
  congr 1
  exact List.map_id'' (fun s ↦ String.ofList_toList) args

/-- Two lists with words are written with one space between. -/
theorem joinWords_append {ws vs : List (List Char)} (hw : ws ≠ []) (hv : vs ≠ []) :
    joinWords (ws ++ vs) = joinWords ws ++ ' ' :: joinWords vs := by
  induction ws with
  | nil => exact absurd rfl hw
  | cons w ws ih =>
    cases ws with
    | nil =>
      cases vs with
      | nil => exact absurd rfl hv
      | cons v vs => simp [joinWords]
    | cons u ws =>
      have ht := ih (List.cons_ne_nil u ws)
      simp only [List.cons_append] at ht ⊢
      simp [joinWords, ht]

/-- Joined lists of words are the words of both joined. -/
theorem join_append {as bs : List String} (ha : as ≠ []) (hb : bs ≠ []) :
    join (as ++ bs) = join as ++ " " ++ join bs := by
  unfold join
  rw [List.map_append, joinWords_append (by simpa using ha) (by simpa using hb)]
  apply String.toList_injective
  simp

/-! ## Command lines -/

/-- A command line is written as its program and arguments joined. -/
theorem render_eq_join (c : CommandLine) : c.render = join (c.program :: c.args) := by
  have hp : quote c.program = join [c.program] := rfl
  unfold render
  split
  · next h => rw [List.isEmpty_iff.mp h, hp]
  · next h =>
    have ha : c.args ≠ [] := by simpa [List.isEmpty_iff] using h
    rw [hp, ← join_append (List.cons_ne_nil c.program []) ha, List.singleton_append]

/-- The line that a command line is written as is read back as the command line. -/
theorem parse_render (c : CommandLine) : parse c.render = .ok c := by
  rw [render_eq_join, parse, split_join]

/-- Quoting loses nothing: a list of words is read back from its written form, and a command line
from the line and from the document that it is written as. -/
theorem quoting_round_trip :
    (∀ args : List String, split (join args) = .ok args) ∧
    (∀ c : CommandLine, parse c.render = .ok c) ∧
    ∀ c : CommandLine, ofDocument? c.toDocument = some c := by
  refine ⟨split_join, parse_render, ?_⟩
  intro c
  show (parse c.render).toOption = some c
  rw [parse_render]
  rfl

end ClusterHarness.CommandLine
