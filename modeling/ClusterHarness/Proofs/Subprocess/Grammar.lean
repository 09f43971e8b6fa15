import ClusterHarness.Subprocess.Handshake
import Mathlib.Data.Nat.Digits.Defs

/-!
# The grammar of a handshake

The lines that a contract asks for form a small grammar, which is stated here without the readers.
The readers of the handshake recognize exactly its lines.
-/

namespace ClusterHarness.Readiness

/-- The number that decimal digits stand for. -/
def value (digits : List Char) : Nat :=
  Nat.ofDigits 10 (digits.reverse.map fun c ↦ c.toNat - '0'.toNat)

/-- A line that holds a process id: a number below 2 ^ 32 in decimal digits, perhaps after a plus
sign, between blanks. -/
def PidLine (pid : Nat) (line : String) : Prop :=
  ∃ sign digits : List Char, Text.trim line.toList = sign ++ digits ∧
    (sign = [] ∨ sign = ['+']) ∧ digits ≠ [] ∧ (∀ c ∈ digits, c.isDigit) ∧
    value digits = pid ∧ pid < 2 ^ 32

/-- A line by which an adapter says that it is ready. -/
def ReadyLine (line : String) : Prop :=
  Text.trim line.toList = "ready".toList ∨
    ∃ front, Text.trim line.toList = front ++ " ready".toList

/-- The line by which a component says that it is ready. -/
def MarkerLine (token line : String) : Prop :=
  Text.trim line.toList = (token ++ " ready").toList

/-- The lines after those of the adapters: none, or all up to the first of the component. -/
def EndsWith : Option String → List String → Prop
  | none, lines => lines = []
  | some token, lines => ∃ skipped last, lines = skipped ++ [last] ∧
    MarkerLine token last ∧ ∀ line ∈ skipped, ¬ MarkerLine token line

/-- No component is ready before a line says so. -/
theorem not_endsWith_nil {token : String} : ¬ EndsWith (some token) [] := by
  rintro ⟨skipped, last, hnil, -⟩
  exact List.append_ne_nil_of_right_ne_nil skipped (List.cons_ne_nil last []) hnil.symm

/-- The first line is that of the component and the last one, or it is skipped. -/
theorem endsWith_cons_iff {token line : String} {lines : List String} :
    EndsWith (some token) (line :: lines) ↔
      MarkerLine token line ∧ lines = [] ∨
        ¬ MarkerLine token line ∧ EndsWith (some token) lines := by
  constructor
  · rintro ⟨skipped, last, heq, hlast, hskip⟩
    cases skipped with
    | nil =>
      cases heq
      exact .inl ⟨hlast, rfl⟩
    | cons x skipped =>
      cases heq
      obtain ⟨hx, hrest⟩ := List.forall_mem_cons.mp hskip
      exact .inr ⟨hx, skipped, last, rfl, hlast, hrest⟩
  · rintro (⟨hline, rfl⟩ | ⟨hline, skipped, last, rfl, hlast, hskip⟩)
    · exact ⟨[], line, rfl, hline, List.forall_mem_nil _⟩
    · exact ⟨line :: skipped, last, rfl, hlast, List.forall_mem_cons.mpr ⟨hline, hskip⟩⟩

/-- All lines that a contract asks for. -/
def Accepts (contract : Readiness) (pid : Nat) (lines : List String) : Prop :=
  ∃ first ready component, lines = first :: ready ++ component ∧ PidLine pid first ∧
    ready.length = contract.adapters ∧ (∀ line ∈ ready, ReadyLine line) ∧
    EndsWith contract.namedReady component

/-- What the next line of a handshake has to be. -/
inductive Expected where
  | processId
  | adapter
  /-- The line of a component, or any line before it. -/
  | component (token : String)

namespace Expected

/-- How a failure names what was expected. -/
def text : Expected → String
  | processId => "process id"
  | adapter => "adapter ready marker"
  | component token => "'" ++ token ++ " ready' marker"

def Fits : Expected → String → Prop
  | processId, line => ∃ pid, PidLine pid line
  | adapter, line => ReadyLine line
  | component _, _ => True

end Expected

/-- The lines read so far are the beginning of what a contract asks for, and one more is expected.
The process id is known after the first line. -/
inductive Awaits (contract : Readiness) : Option Nat → Expected → List String → Prop
  | processId : Awaits contract none .processId []
  | adapter {pid : Nat} {first : String} {ready : List String} :
    PidLine pid first → ready.length < contract.adapters → (∀ line ∈ ready, ReadyLine line) →
      Awaits contract (some pid) .adapter (first :: ready)
  | component {pid : Nat} {first token : String} {ready skipped : List String} :
    PidLine pid first → ready.length = contract.adapters → (∀ line ∈ ready, ReadyLine line) →
      contract.namedReady = some token → (∀ line ∈ skipped, ¬ MarkerLine token line) →
      Awaits contract (some pid) (.component token) (first :: ready ++ skipped)

end ClusterHarness.Readiness

/-! ## The readers recognize the lines -/

namespace ClusterHarness.Subprocess

open Readiness

private theorem foldl_reverse_digits (digits : List Char) :
    digits.reverse.foldl (fun n c ↦ n * 10 + (c.toNat - '0'.toNat)) 0 =
      Nat.ofDigits 10 (digits.map fun c ↦ c.toNat - '0'.toNat) := by
  induction digits with
  | nil => rfl
  | cons c digits ih =>
    rw [List.reverse_cons, List.foldl_append, ih, List.map_cons, Nat.ofDigits_cons]
    dsimp only [List.foldl_cons, List.foldl_nil, Nat.cast_id]
    omega

private theorem foldl_digits (digits : List Char) :
    digits.foldl (fun n c ↦ n * 10 + (c.toNat - '0'.toNat)) 0 = value digits := by
  have h := foldl_reverse_digits digits.reverse
  rwa [List.reverse_reverse] at h

/-- The digits of a number are what is left without a plus sign. -/
theorem unsigned_eq_iff {cs digits : List Char} (hdigits : ∀ c ∈ digits, c.isDigit) :
    (if cs.head? == some '+' then cs.drop 1 else cs) = digits ↔
      ∃ sign, cs = sign ++ digits ∧ (sign = [] ∨ sign = ['+']) := by
  constructor
  · intro h
    split at h
    · next hplus =>
      obtain ⟨rest, rfl⟩ := List.head?_eq_some_iff.mp (beq_iff_eq.mp hplus)
      cases h
      exact ⟨['+'], rfl, .inr rfl⟩
    · exact ⟨[], h, .inl rfl⟩
  · rintro ⟨sign, rfl, rfl | rfl⟩
    · have hplus : digits.head? ≠ some '+' := by
        intro hhead
        have hmem := List.mem_of_mem_head? hhead
        exact absurd (hdigits '+' hmem) (by decide)
      rw [List.nil_append, if_neg (by simpa using hplus)]
    · rfl

/-- A process id is read from a line exactly if the line is that number. -/
theorem pid?_eq_some_iff {line : String} {pid : Nat} :
    pid? (Text.trim line.toList) = some pid ↔ PidLine pid line := by
  unfold pid? PidLine
  generalize Text.trim line.toList = cs
  dsimp only
  generalize hunsigned : (if cs.head? == some '+' then cs.drop 1 else cs) = unsigned
  simp only [foldl_digits, Option.ite_none_left_eq_some, Option.ite_none_right_eq_some,
    Option.some.injEq, Bool.or_eq_true, Bool.not_eq_true', not_or, Bool.not_eq_false,
    List.isEmpty_iff, List.all_eq_true]
  constructor
  · rintro ⟨⟨hne, hall⟩, hlt, rfl⟩
    obtain ⟨sign, hcs, hsign⟩ := (unsigned_eq_iff hall).mp hunsigned
    exact ⟨sign, unsigned, hcs, hsign, hne, hall, rfl, hlt⟩
  · rintro ⟨sign, digits, hcs, hsign, hne, hall, rfl, hlt⟩
    have hsame := hunsigned.symm.trans ((unsigned_eq_iff hall).mpr ⟨sign, hcs, hsign⟩)
    rw [hsame]
    exact ⟨⟨hne, hall⟩, hlt, rfl⟩

/-- A line is taken for readiness exactly if it says so. -/
theorem isReadyLine_iff {line : String} :
    isReadyLine (Text.trim line.toList) = true ↔ ReadyLine line := by
  unfold isReadyLine ReadyLine
  rw [Bool.or_eq_true, beq_iff_eq, List.isSuffixOf_iff_suffix]
  exact or_congr_right ⟨fun ⟨front, h⟩ ↦ ⟨front, h.symm⟩, fun ⟨front, h⟩ ↦ ⟨front, h.symm⟩⟩

/-- The text of a missing marker is that of the message. -/
theorem component_text (token : String) :
    (Expected.component token).text = markerExpected token := by
  have hmarker : markerExpected token = "'" ++ (token ++ " ready") ++ "' marker" := rfl
  rw [hmarker]
  unfold Expected.text
  simp only [String.append_assoc]
  rfl

end ClusterHarness.Subprocess
