import ClusterHarness.CommandLine.Document
import Mathlib.Data.List.Basic

/-!
# The grammar of command lines

What a line is made of is said here without a scanner: pieces, words of at least one piece, and
blank characters around the words. Every line is either made of words or leaves a group or an
escape open, and splitting tells which: it gives the values of the words, or names what is open.
-/

namespace ClusterHarness.CommandLine

/-! ## Pieces, words and lines -/

/-- What stands between double quotes: a character, or a backslash and any character. -/
inductive Item where
  | plain (c : Char) (h : c ≠ '"' ∧ c ≠ '\\')
  | escaped (c : Char)

namespace Item

def text : Item → List Char
  | plain c _ => [c]
  | escaped c => ['\\', c]

/-- A backslash stands for itself, unless it escapes a backslash or a double quote. -/
def value : Item → List Char
  | plain c _ => [c]
  | escaped c => if c = '\\' ∨ c = '"' then [c] else ['\\', c]

end Item

/-- A piece of a word. -/
inductive Piece where
  | plain (c : Char) (h : Text.isBlank c = false ∧ c ≠ '"' ∧ c ≠ '\'' ∧ c ≠ '\\')
  | escaped (c : Char)
  | double (items : List Item)
  | single (cs : List Char) (h : '\'' ∉ cs)

namespace Piece

def text : Piece → List Char
  | plain c _ => [c]
  | escaped c => ['\\', c]
  | double items => '"' :: items.flatMap Item.text ++ ['"']
  | single cs _ => '\'' :: cs ++ ['\'']

def value : Piece → List Char
  | plain c _ => [c]
  | escaped c => [c]
  | double items => items.flatMap Item.value
  | single cs _ => cs

end Piece

/-- A word: one or more pieces, with nothing between them. -/
structure Word where
  pieces : List Piece
  ne_nil : pieces ≠ []

namespace Word

def text (w : Word) : List Char := w.pieces.flatMap Piece.text

/-- What the pieces of a word stand for, joined. -/
def value (w : Word) : List Char := w.pieces.flatMap Piece.value

def ofPiece (q : Piece) : Word := ⟨[q], List.cons_ne_nil q []⟩

def cons (q : Piece) (w : Word) : Word := ⟨q :: w.pieces, List.cons_ne_nil q w.pieces⟩

@[simp]
private theorem text_ofPiece (q : Piece) : (ofPiece q).text = q.text := List.flatMap_singleton _ q

@[simp]
private theorem text_cons (q : Piece) (w : Word) :
    (cons q w).text = q.text ++ w.text := List.flatMap_cons

end Word

/-- A line made of words, which are separated by blank characters and may be surrounded by them:
a word is followed by a blank character or by nothing. -/
inductive Spells : List Word → List Char → Prop
  | nil : Spells [] []
  | blank {c : Char} {ws : List Word} {line : List Char} (hc : Text.isBlank c = true)
      (h : Spells ws line) : Spells ws (c :: line)
  | word (w : Word) {ws : List Word} {line : List Char}
      (hend : ∀ c ∈ line.head?, Text.isBlank c = true) (h : Spells ws line) :
      Spells (w :: ws) (w.text ++ line)

/-- A construct that is begun and not finished. -/
inductive Opens : Unfinished → List Char → Prop
  | double (items : List Item) : Opens .doubleQuote ('"' :: items.flatMap Item.text)
  | doubleEscaped (items : List Item) :
      Opens .doubleQuote ('"' :: items.flatMap Item.text ++ ['\\'])
  | single {cs : List Char} (h : '\'' ∉ cs) : Opens .singleQuote ('\'' :: cs)
  | backslash : Opens .backslash ['\\']

/-- A line that ends within a construct, which may begin within a word. -/
def LeavesOpen (what : Unfinished) (line : List Char) : Prop :=
  ∃ ws front tail, Spells ws front ∧ Opens what tail ∧ line = front ++ tail

/-! ## Every line is one or the other -/

/-- Between double quotes there are items, up to the next quote or the end of the line. -/
theorem exists_items (cs : List Char) :
    ∃ (items : List Item) (tail : List Char), cs = items.flatMap Item.text ++ tail ∧
      (tail = [] ∨ tail = ['\\'] ∨ ∃ rest, tail = '"' :: rest) := by
  match cs with
  | [] => exact ⟨[], [], rfl, .inl rfl⟩
  | c :: cs =>
    by_cases hd : c = '"'
    · exact ⟨[], c :: cs, rfl, .inr (.inr ⟨cs, by rw [hd]⟩)⟩
    by_cases hk : c = '\\'
    · subst hk
      match cs with
      | [] => exact ⟨[], ['\\'], rfl, .inr (.inl rfl)⟩
      | c :: cs =>
        obtain ⟨items, tail, rfl, htail⟩ := exists_items cs
        exact ⟨.escaped c :: items, tail, rfl, htail⟩
    · obtain ⟨items, tail, rfl, htail⟩ := exists_items cs
      exact ⟨.plain c ⟨hd, hk⟩ :: items, tail, rfl, htail⟩

/-- A character that is not blank begins a piece, or something that stays open. -/
theorem exists_piece {c : Char} (hc : Text.isBlank c = false) (cs : List Char) :
    (∃ (q : Piece) (rest : List Char), c :: cs = q.text ++ rest) ∨
      ∃ what, Opens what (c :: cs) := by
  by_cases hd : c = '"'
  · subst hd
    obtain ⟨items, tail, rfl, rfl | rfl | ⟨rest, rfl⟩⟩ := exists_items cs
    · rw [List.append_nil]
      exact .inr ⟨_, .double items⟩
    · exact .inr ⟨_, .doubleEscaped items⟩
    · exact .inl ⟨.double items, rest, by simp [Piece.text]⟩
  by_cases hs : c = '\''
  · subst hs
    by_cases hmem : '\'' ∈ cs
    · obtain ⟨front, rest, rfl, hfront⟩ := List.eq_append_cons_of_mem hmem
      exact .inl ⟨.single front hfront, rest, by simp [Piece.text]⟩
    · exact .inr ⟨_, .single hmem⟩
  by_cases hk : c = '\\'
  · subst hk
    cases cs with
    | nil => exact .inr ⟨_, .backslash⟩
    | cons d cs => exact .inl ⟨.escaped d, cs, rfl⟩
  · exact .inl ⟨.plain c ⟨hc, hd, hs, hk⟩, cs, rfl⟩

/-- A piece begins with a character that is not blank. -/
theorem Piece.exists_text (q : Piece) : ∃ c cs, q.text = c :: cs ∧ Text.isBlank c = false := by
  cases q with
  | plain c h => exact ⟨c, [], rfl, h.1⟩
  | escaped c => exact ⟨'\\', [c], rfl, rfl⟩
  | double items => exact ⟨'"', _, rfl, rfl⟩
  | single cs h => exact ⟨'\'', _, rfl, rfl⟩

/-- A piece before a line made of words is a word of its own, or belongs to the first word. -/
theorem Spells.exists_piece_append {ws : List Word} {line : List Char} (h : Spells ws line)
    (q : Piece) : ∃ vs, Spells vs (q.text ++ line) := by
  cases h with
  | nil => exact ⟨_, Word.text_ofPiece q ▸ Spells.word (.ofPiece q) (by simp) .nil⟩
  | blank hc h =>
    exact ⟨_, Word.text_ofPiece q ▸ Spells.word (.ofPiece q) (by simpa using hc) (.blank hc h)⟩
  | word w hend h =>
    rw [← List.append_assoc, ← Word.text_cons]
    exact ⟨_, .word (w.cons q) hend h⟩

/-- Every line is made of words, or leaves something open. -/
theorem spells_or_leavesOpen (line : List Char) :
    (∃ ws, Spells ws line) ∨ ∃ what, LeavesOpen what line := by
  induction hn : line.length using Nat.strongRecOn generalizing line with
  | ind n ih =>
    subst hn
    cases line with
    | nil => exact .inl ⟨[], .nil⟩
    | cons c cs =>
      by_cases hc : Text.isBlank c = true
      · obtain ⟨ws, h⟩ | ⟨what, ws, front, tail, h, htail, rfl⟩ := ih _ (Nat.lt_succ_self _) cs rfl
        · exact .inl ⟨ws, .blank hc h⟩
        · exact .inr ⟨what, ws, c :: front, tail, .blank hc h, htail, rfl⟩
      obtain ⟨q, rest, hq⟩ | ⟨what, hopen⟩ := exists_piece (Bool.not_eq_true _ ▸ hc) cs
      · have hshorter : rest.length < (c :: cs).length := by
          obtain ⟨d, ds, htext, -⟩ := q.exists_text
          rw [hq, htext, List.length_append, List.length_cons]
          omega
        rw [hq]
        obtain ⟨ws, h⟩ | ⟨what, ws, front, tail, h, htail, rfl⟩ := ih _ hshorter rest rfl
        · exact .inl (h.exists_piece_append q)
        · obtain ⟨vs, hvs⟩ := h.exists_piece_append q
          exact .inr ⟨what, vs, q.text ++ front, tail, hvs, htail, (List.append_assoc ..).symm⟩
      · exact .inr ⟨what, [], [], c :: cs, .nil, hopen, rfl⟩

/-! ## The scanner follows the grammar -/

private theorem scan_double_text (i : Item) (sofar rest : List Char) :
    scan (.double sofar) (i.text ++ rest) = scan (.double (i.value.reverse ++ sofar)) rest := by
  cases i with
  | plain c h => simp [Item.text, Item.value, scan, Position.ended?, Position.next, h]
  | escaped c =>
    by_cases hc : c = '\\' ∨ c = '"' <;>
      simp [Item.text, Item.value, scan, Position.ended?, Position.next, hc]

private theorem scan_double_items (items : List Item) (sofar rest : List Char) :
    scan (.double sofar) (items.flatMap Item.text ++ rest) =
      scan (.double ((items.flatMap Item.value).reverse ++ sofar)) rest := by
  induction items generalizing sofar with
  | nil => rfl
  | cons i items ih =>
    rw [List.flatMap_cons, List.append_assoc, scan_double_text, ih]
    simp

private theorem scan_single_append {cs : List Char} (h : '\'' ∉ cs) (sofar rest : List Char) :
    scan (.single sofar) (cs ++ rest) = scan (.single (cs.reverse ++ sofar)) rest := by
  induction cs generalizing sofar with
  | nil => rfl
  | cons c cs ih =>
    rw [List.mem_cons, not_or] at h
    have hc : c ≠ '\'' := fun he ↦ h.1 he.symm
    simp [scan, Position.ended?, Position.next, hc, ih h.2]

/-- A character that is not blank is read alike in a word and where one may begin. -/
theorem scan_gap_cons {c : Char} (h : Text.isBlank c = false) (cs : List Char) :
    scan .gap (c :: cs) = scan (.word []) (c :: cs) := by
  simp [scan, Position.ended?, Position.next, h]

private theorem scan_word_cons {c : Char} (h : Text.isBlank c = false) (sofar cs : List Char) :
    scan (.word sofar) (c :: cs) = scan (.outside sofar c) cs := by
  simp [scan, Position.ended?, Position.next, h]

/-- A piece adds its value to the word. -/
theorem scan_word_piece (q : Piece) (sofar rest : List Char) :
    scan (.word sofar) (q.text ++ rest) = scan (.word (q.value.reverse ++ sofar)) rest := by
  cases q with
  | plain c h =>
    rw [Piece.text, List.singleton_append, scan_word_cons h.1]
    simp [Position.outside, h, Piece.value]
  | escaped c =>
    rw [Piece.text, List.cons_append, scan_word_cons rfl]
    rfl
  | double items =>
    rw [Piece.text, List.cons_append, List.cons_append, List.append_assoc, scan_word_cons rfl]
    exact scan_double_items items sofar _
  | single cs h =>
    rw [Piece.text, List.cons_append, List.cons_append, List.append_assoc, scan_word_cons rfl]
    exact scan_single_append h sofar _

private theorem scan_word_pieces (qs : List Piece) (sofar rest : List Char) :
    scan (.word sofar) (qs.flatMap Piece.text ++ rest) =
      scan (.word ((qs.flatMap Piece.value).reverse ++ sofar)) rest := by
  induction qs generalizing sofar with
  | nil => rfl
  | cons q qs ih =>
    rw [List.flatMap_cons, List.append_assoc, scan_word_piece, ih]
    simp

/-- A word is read as its value. -/
theorem scan_gap_word (w : Word) (rest : List Char) :
    scan .gap (w.text ++ rest) = scan (.word w.value.reverse) rest := by
  obtain ⟨q, qs, hqs⟩ := List.exists_cons_of_ne_nil w.ne_nil
  obtain ⟨c, cs, htext, hc⟩ := q.exists_text
  have hbegin : w.text ++ rest = c :: (cs ++ qs.flatMap Piece.text ++ rest) := by
    rw [Word.text, hqs, List.flatMap_cons, htext]
    rfl
  rw [hbegin, scan_gap_cons hc, ← hbegin, Word.text, scan_word_pieces, List.append_nil]
  rfl

/-- Where a word may end, it does. -/
theorem scan_word_of_blank {line : List Char} (h : ∀ c ∈ line.head?, Text.isBlank c = true)
    (sofar : List Char) : scan (.word sofar) line = (scan .gap line).map (sofar.reverse :: ·) := by
  cases line with
  | nil => rfl
  | cons c cs =>
    have hc : Text.isBlank c = true := h c rfl
    simp [scan, Position.ended?, Position.next, hc]

/-- A line made of words is split into their values. -/
theorem scan_of_spells {ws : List Word} {line : List Char} (h : Spells ws line) :
    scan .gap line = .ok (ws.map Word.value) := by
  induction h with
  | nil => rfl
  | blank hc h ih => simpa [scan, Position.ended?, Position.next, hc] using ih
  | word w hend h ih =>
    rw [scan_gap_word, scan_word_of_blank hend, ih, List.reverse_reverse]
    rfl

/-- What is open at the end of a line is named, whatever word it is in. -/
theorem scan_of_opens {what : Unfinished} {tail : List Char} (h : Opens what tail)
    (sofar : List Char) : scan (.word sofar) tail = .error what := by
  cases h with
  | double items =>
    rw [scan_word_cons rfl, ← List.append_nil (items.flatMap _)]
    exact scan_double_items items sofar []
  | doubleEscaped items =>
    rw [List.cons_append, scan_word_cons rfl]
    exact scan_double_items items sofar _
  | @single cs h =>
    rw [scan_word_cons rfl, ← List.append_nil cs]
    exact scan_single_append h sofar []
  | backslash => rfl

private theorem Opens.exists_text {what : Unfinished} {tail : List Char} (h : Opens what tail) :
    ∃ c cs, tail = c :: cs ∧ Text.isBlank c = false := by
  cases h <;> exact ⟨_, _, rfl, rfl⟩

private theorem scan_of_leavesOpen {what : Unfinished} {line : List Char}
    (h : LeavesOpen what line) : scan .gap line = .error what := by
  obtain ⟨ws, front, tail, hfront, hopen, rfl⟩ := h
  induction hfront with
  | nil =>
    obtain ⟨c, cs, rfl, hc⟩ := hopen.exists_text
    rw [List.nil_append, scan_gap_cons hc, scan_of_opens hopen]
  | blank hc h ih => simpa [scan, Position.ended?, Position.next, hc] using ih
  | @word w ws line hend h ih =>
    rw [List.append_assoc, scan_gap_word]
    cases line with
    | nil => exact scan_of_opens hopen _
    | cons c cs =>
      rw [scan_word_of_blank (by simpa using hend), ih]
      rfl

/-! ## Splitting and reading lines -/

variable {line : List Char}

/-- The words of a line are the values of the words that it spells. -/
theorem splitWords_eq_ok_iff {vs : List (List Char)} :
    splitWords line = .ok vs ↔ ∃ ws, Spells ws line ∧ ws.map Word.value = vs := by
  constructor
  · intro h
    obtain ⟨ws, hws⟩ | ⟨what, hopen⟩ := spells_or_leavesOpen line
    · exact ⟨ws, hws, Except.ok.inj ((scan_of_spells hws).symm.trans h)⟩
    · exact nomatch (scan_of_leavesOpen hopen).symm.trans h
  · rintro ⟨ws, hws, rfl⟩
    exact scan_of_spells hws

/-- A line has no words exactly if it leaves something open, and that is named. -/
theorem splitWords_eq_error_iff {what : Unfinished} :
    splitWords line = .error what ↔ LeavesOpen what line := by
  constructor
  · intro h
    obtain ⟨ws, hws⟩ | ⟨other, hopen⟩ := spells_or_leavesOpen line
    · exact nomatch (scan_of_spells hws).symm.trans h
    · cases (scan_of_leavesOpen hopen).symm.trans h
      exact hopen
  · exact scan_of_leavesOpen

/-- What a word is read as. -/
def Word.reading (w : Word) : String := String.ofList w.value

private theorem split_eq_ok_iff {line : String} {vs : List String} :
    split line = .ok vs ↔ ∃ ws, Spells ws line.toList ∧ vs = ws.map Word.reading := by
  have hwords := fun vs ↦ @splitWords_eq_ok_iff line.toList vs
  unfold split
  cases hs : splitWords line.toList with
  | error what =>
    refine iff_of_false nofun ?_
    rintro ⟨ws, hspells, -⟩
    exact nomatch hs.symm.trans ((hwords _).mpr ⟨ws, hspells, rfl⟩)
  | ok values =>
    constructor
    · intro h
      obtain ⟨ws, hspells, rfl⟩ := (hwords values).mp hs
      refine ⟨ws, hspells, (Except.ok.inj h).symm.trans ?_⟩
      rw [List.map_map]
      rfl
    · rintro ⟨ws, hspells, rfl⟩
      cases hs.symm.trans ((hwords _).mpr ⟨ws, hspells, rfl⟩)
      simp only [List.map_map]
      rfl

private theorem split_eq_error_iff {line : String} {e : Fault} :
    split line = .error e ↔ ∃ what, LeavesOpen what line.toList ∧ e = .unfinished what line := by
  simp only [← splitWords_eq_error_iff]
  unfold split
  cases splitWords line.toList <;> simp [eq_comm]

private theorem parse_eq_ok_iff_split {line : String} {c : CommandLine} :
    parse line = .ok c ↔ split line = .ok (c.program :: c.args) := by
  unfold parse
  cases split line with
  | error e => exact iff_of_false nofun nofun
  | ok vs =>
    cases vs with
    | nil => exact iff_of_false nofun nofun
    | cons v vs => cases c; simp

private theorem parse_eq_error_iff {line : String} {e : Fault} :
    parse line = .error e ↔ split line = .ok [] ∧ e = .emptyLine ∨ split line = .error e := by
  unfold parse
  cases split line with
  | error f => simp
  | ok vs => cases vs <;> simp [eq_comm]

/-- Splitting follows the grammar of command lines. A line made of words gives their values, and any
other line is refused with the name of what it leaves open. The first word of a line is read as the
program and the others as its arguments, and a line without words is refused as empty. -/
theorem lines_follow_grammar (line : String) :
    (∀ vs, split line = .ok vs ↔ ∃ ws, Spells ws line.toList ∧ vs = ws.map Word.reading) ∧
    (∀ e, split line = .error e ↔ ∃ what, LeavesOpen what line.toList ∧
      e = .unfinished what line ∧ e.message = s!"{what.name} in {Text.literal line}") ∧
    (∀ c, parse line = .ok c ↔ ∃ w ws, Spells (w :: ws) line.toList ∧
      c = { program := w.reading, args := ws.map Word.reading }) ∧
    ∀ e, parse line = .error e ↔
      Spells [] line.toList ∧ e = .emptyLine ∨ split line = .error e := by
  refine ⟨fun vs ↦ split_eq_ok_iff, fun e ↦ ?_, fun c ↦ ?_, fun e ↦ ?_⟩
  · rw [split_eq_error_iff]
    refine exists_congr fun what ↦ and_congr_right fun _ ↦ ?_
    exact ⟨fun he ↦ ⟨he, he ▸ rfl⟩, And.left⟩
  · rw [parse_eq_ok_iff_split, split_eq_ok_iff]
    constructor
    · rintro ⟨_ | ⟨w, ws⟩, hspells, heq⟩
      · cases heq
      · obtain ⟨hprogram, hargs⟩ := List.cons.inj heq
        exact ⟨w, ws, hspells, by rw [← hprogram, ← hargs]⟩
    · rintro ⟨w, ws, hspells, rfl⟩
      exact ⟨w :: ws, hspells, rfl⟩
  · rw [parse_eq_error_iff, split_eq_ok_iff]
    simp only [List.nil_eq, List.map_eq_nil_iff, exists_eq_right]

end ClusterHarness.CommandLine
