import ClusterHarness.Machine.Scheduling

/-!
# Lines of growing output, and the turns of a drain

Which lines a byte sequence has does not depend on the portions in which it is read. A drain takes
its lines one at a time: what it does with a portion of bytes is a number of turns, between which
it may be cancelled.
-/

namespace ClusterHarness

namespace Text

/-- More elements after the mark change nothing before it. -/
theorem cut_append {α : Type} [BEq α] {mark : α} {xs head rest : List α}
    (h : cut mark xs = (head, some rest)) (ys : List α) :
    cut mark (xs ++ ys) = (head, some (rest ++ ys)) := by
  induction xs generalizing head with
  | nil => simp [cut] at h
  | cons x xs ih =>
    simp only [cut, List.cons_append] at h ⊢
    split at h
    · next hx =>
      cases h
      rw [if_pos hx]
    · next hx =>
      have hrest : (cut mark xs).2 = some rest := (Prod.mk.inj h).2
      rw [if_neg hx, ih (Prod.ext rfl hrest)]
      exact congrArg (·, some (rest ++ ys)) (Prod.mk.inj h).1

/-- The lines of a byte sequence, with nothing in the place of each that is no text. -/
def textLines (bytes : Bytes) : List (Option String) := (byteLines bytes).map ofBytes?

/-- The lines before the first that is no text. -/
def textBeginning (bytes : Bytes) : List String :=
  ((textLines bytes).takeWhile (·.isSome)).filterMap id

/-- The beginning of bytes ends with their last line, or before the first that is no text. -/
theorem textBeginning_eq {bytes : Bytes} {done : List String} {rest : List (Option String)}
    (h : textLines bytes = done.map some ++ rest)
    (hrest : rest.takeWhile (·.isSome) = []) : textBeginning bytes = done := by
  have hdone : ∀ text ∈ done.map some, text.isSome = true := by simp
  rw [textBeginning, h, List.takeWhile_append_of_pos hdone, hrest]
  simp [List.filterMap_map]

/-- A line as it is shown where malformed parts are replaced. -/
def ofBytesLossy (line : Bytes) : String := String.ofList (decodeLossy line)

private theorem eq_map_some_of_mapM_id {α : Type} {xs : List (Option α)} {ys : List α}
    (h : xs.mapM id = some ys) : xs = ys.map some := by
  induction xs generalizing ys with
  | nil =>
    cases h
    rfl
  | cons x xs ih =>
    cases x with
    | none => simp at h
    | some a =>
      rw [List.mapM_cons] at h
      cases hxs : xs.mapM id with
      | none => simp [hxs] at h
      | some zs =>
        rw [hxs] at h
        cases h
        rw [ih hxs, List.map_cons]

/-- Nothing is replaced in a text. -/
theorem ofBytesLossy_of_ofBytes? {line : Bytes} {text : String}
    (h : ofBytes? line = some text) : ofBytesLossy line = text := by
  obtain ⟨cs, hcs, rfl⟩ := Option.map_eq_some_iff.mp h
  have hdecode : decode line = cs.map some := eq_map_some_of_mapM_id hcs
  simp [ofBytesLossy, decodeLossy, hdecode, Function.comp_def]

/-- If all lines are text, they are shown as they are. -/
theorem map_ofBytesLossy {bytes : Bytes} {texts : List String}
    (h : textLines bytes = texts.map some) : (byteLines bytes).map ofBytesLossy = texts := by
  unfold textLines at h
  generalize byteLines bytes = lines at h
  induction lines generalizing texts with
  | nil => simpa using h
  | cons line lines ih =>
    cases texts with
    | nil => simp at h
    | cons text texts =>
      rw [List.map_cons, List.map_cons] at h
      obtain ⟨hline, hlines⟩ := List.cons.inj h
      rw [List.map_cons, ofBytesLossy_of_ofBytes? hline, ih hlines]

end Text

open Text

/-! ## The next line -/

/-- The lines of a closed stream begin with the next one. -/
theorem byteLines_eq (unread : Bytes) :
    byteLines unread =
      match nextLine? true unread with
      | none => []
      | some (line, rest) => line :: byteLines rest := by
  have hnil : linesBy (0x0a : UInt8) 0x0d [] = [] := by simp [linesBy, cut]
  rw [byteLines, linesBy]
  unfold nextLine?
  cases hc : cut 0x0a unread with
  | mk line rest =>
  cases rest with
  | some rest => rfl
  | none => cases line <;> simp [byteLines, hnil]

/-- The lines of bytes are the first one, text or not, and those after it. -/
theorem textLines_eq (unread : Bytes) :
    textLines unread =
      match nextLine? true unread with
      | none => []
      | some (line, rest) => ofBytes? line :: textLines rest := by
  rw [textLines, byteLines_eq]
  cases nextLine? true unread <;> rfl

/-- Bytes without a line have no lines. -/
theorem textLines_of_nextLine?_eq_none {unread : Bytes} (h : nextLine? true unread = none) :
    textLines unread = [] := by
  rw [textLines_eq, h]

/-- A line that is complete stays the first one, whatever follows. -/
theorem textLines_of_nextLine?_eq_some {closed : Bool} {unread line rest more : Bytes}
    (h : nextLine? closed unread = some (line, rest)) (hmore : closed = true → more = []) :
    textLines (unread ++ more) = ofBytes? line :: textLines (rest ++ more) := by
  have hnext : nextLine? true (unread ++ more) = some (line, rest ++ more) := by
    cases closed with
    | true => rwa [hmore rfl, List.append_nil, List.append_nil]
    | false =>
      unfold nextLine? at h ⊢
      cases hc : cut 0x0a unread with
      | mk head tail =>
      cases tail with
      | none => simp [hc] at h
      | some tail =>
        rw [cut_append hc]
        rw [hc] at h
        cases h
        rfl
  rw [textLines_eq, hnext]

/-! ## Turns -/

namespace Drain

/-- One turn of a drain: it forwards the next line, or comes to its end, or has to read more. -/
def turn (closed : Bool) (d : Drain) : Option String × Drain :=
  match nextLine? closed d.unread with
  | none => (none, { d with ended := if closed then some .endOfStream else none })
  | some (line, rest) =>
    match ofBytes? line with
    | none => (none, { d with unread := rest, ended := some .endOfStream })
    | some text => (some text, { d with unread := rest })

/-- A drain takes turns until one of them forwards nothing. -/
theorem forward_eq (closed : Bool) (d : Drain) :
    d.forward closed =
      match d.turn closed with
      | (none, d) => ([], d)
      | (some text, d) => (text :: (d.forward closed).1, (d.forward closed).2) := by
  rw [forward]
  unfold turn
  cases hn : nextLine? closed d.unread with
  | none => rfl
  | some next =>
  obtain ⟨line, rest⟩ := next
  dsimp only
  cases ofBytes? line <;> rfl

/-- A turn leaves the label of a drain as it is. -/
@[simp]
theorem turn_label (closed : Bool) (d : Drain) : (d.turn closed).2.label = d.label := by
  unfold turn
  split
  · rfl
  · split <;> rfl

/-- A turn that forwards a line uses up what it forwards, and the drain goes on. -/
theorem of_turn_eq_some {closed : Bool} {d d' : Drain} {text : String}
    (h : d.turn closed = (some text, d')) :
    d'.unread.length < d.unread.length ∧ d'.ended = d.ended ∧ d'.label = d.label := by
  unfold turn at h
  cases hn : nextLine? closed d.unread with
  | none => simp [hn] at h
  | some next =>
  obtain ⟨line, rest⟩ := next
  rw [hn] at h
  dsimp only at h
  cases ht : ofBytes? line with
  | none => simp [ht] at h
  | some t =>
  rw [ht] at h
  cases h
  exact ⟨length_of_nextLine? hn, rfl, rfl⟩

/-- No turn ends a drain as cancelled. -/
theorem turn_ended_ne_cancelled {d : Drain} (h : d.ended ≠ some .cancelled) (closed : Bool) :
    (d.turn closed).2.ended ≠ some .cancelled := by
  unfold turn
  split
  · cases closed <;> simp
  · split
    · simp
    · exact h

/-- All turns that a closed stream gives lead to the end. -/
theorem ended_forward_true (d : Drain) : (d.forward true).2.ended = some .endOfStream := by
  fun_induction forward true d with
  | case1 => rfl
  | case2 => rfl
  | case3 d line rest hn text ht lines d' hd ih => rwa [hd] at ih

end Drain
end ClusterHarness
