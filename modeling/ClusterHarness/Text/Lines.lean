import ClusterHarness.Text.Utf8

/-!
# Lines and blank characters

A line ends at a line feed, and a carriage return right before the line feed belongs to the end.
What follows the last line feed is a line only if it is not empty; it keeps a carriage return.
Blank characters are the white space of Unicode: they separate the words of a command line, and
readiness lines are read without them at both ends.
-/

namespace ClusterHarness.Text

/-! ## Lines -/

/-- Cut at the first element equal to `mark`: what is before it, and what is after it if it
occurs. -/
def cut {α : Type} [BEq α] (mark : α) : List α → List α × Option (List α)
  | [] => ([], none)
  | x :: xs =>
    if x == mark then ([], some xs)
    else ((x :: (cut mark xs).1), (cut mark xs).2)

/-- What follows the mark is shorter than the whole. -/
theorem length_of_cut {α : Type} [BEq α] {mark : α} {xs head rest : List α}
    (h : cut mark xs = (head, some rest)) : rest.length < xs.length := by
  induction xs generalizing head with
  | nil => simp [cut] at h
  | cons x xs ih =>
    simp only [cut] at h
    split at h
    · simp only [Prod.mk.injEq, Option.some.injEq] at h
      simp [h.2]
    · simp only [Prod.mk.injEq] at h
      have := ih (Prod.ext_iff.mpr ⟨rfl, h.2⟩ : cut mark xs = ((cut mark xs).1, some rest))
      simp only [List.length_cons]
      omega

/-- A line without the carriage return before its line feed. -/
def dropReturn {α : Type} [BEq α] (mark : α) (line : List α) : List α :=
  if line.getLast? == some mark then line.dropLast else line

/-- The lines of a text, where `feed` ends a line and `ret` may stand before it. -/
def linesBy {α : Type} [BEq α] (feed ret : α) (xs : List α) : List (List α) :=
  match _h : cut feed xs with
  | (line, some rest) => dropReturn ret line :: linesBy feed ret rest
  | (line, none) => if line.isEmpty then [] else [line]
termination_by xs.length
decreasing_by exact length_of_cut _h

/-- The lines of a text. -/
def lines (cs : List Char) : List (List Char) := linesBy '\n' '\r' cs

/-- The lines of a byte sequence. -/
def byteLines (bs : Bytes) : List Bytes := linesBy 0x0a 0x0d bs

/-! ## Blank characters -/

/-- The characters with the Unicode property `White_Space`. -/
def isBlank (c : Char) : Bool :=
  let n := c.toNat
  (0x9 ≤ n && n ≤ 0xd) || n == 0x20 || n == 0x85 || n == 0xa0 || n == 0x1680 ||
    (0x2000 ≤ n && n ≤ 0x200a) || n == 0x2028 || n == 0x2029 || n == 0x202f || n == 0x205f ||
    n == 0x3000

/-- Drop the blank characters at both ends. -/
def trim (cs : List Char) : List Char :=
  ((cs.dropWhile isBlank).reverse.dropWhile isBlank).reverse

/-- A string without the blank characters at its ends. -/
def trimmed (s : String) : String := String.ofList (trim s.toList)

end ClusterHarness.Text
