import ClusterHarness.Machine.Shell.Pattern

/-!
# Fields

What words are expanded to, and how that is split into fields. An expanded word consists of regions,
of which some may be split at separators; others keep their arguments apart.
-/

namespace ClusterHarness.Machine.Shell

/-- A character of an expanded word, or what is there besides characters. -/
inductive Cell where
  | letter (l : Letter)
  /-- A quotation began or ended: the field is there even if it is empty. -/
  | mark
  /-- The end of an argument. -/
  | gap
deriving DecidableEq, Repr, Inhabited

/-- Where an expanded word may be split. -/
inductive Splitting where
  | nowhere
  | atSeparators
  | betweenArguments
deriving DecidableEq, Repr, Inhabited

structure Region where
  cells : List Cell
  splitting : Splitting
deriving Repr, Inhabited

namespace Cell

def ofChar (quoted : Bool) (c : Char) : Cell := .letter ⟨c, quoted⟩

def letter? : Cell → Option Letter
  | letter l => some l
  | _ => none

/-- The characters among some cells. -/
def letters (cs : List Cell) : List Letter := cs.filterMap letter?

def octets (cs : List Cell) : Octets := (letters cs).map (·.char)

end Cell

namespace Field

/-- Whether a character separates fields by being there, even at the ends of a text. -/
def isBlank (c : Char) : Bool := c == ' ' || c == '\t' || c == '\n'

/-- What a cell is where fields are split. -/
inductive Role where
  | ordinary
  | blank
  | separator
deriving DecidableEq, Repr

def role (separators : Octets) (splitting : Splitting) (c : Cell) : Role :=
  match splitting, c with
  | .atSeparators, .gap => .blank
  | .betweenArguments, .gap => .separator
  | .atSeparators, .letter l =>
    if !separators.contains l.char then .ordinary
    else if isBlank l.char then .blank
    else .separator
  | _, _ => .ordinary

/-- A word that is being split. -/
structure Splitter where
  /-- The fields before the present one, the latest first. -/
  fields : List (List Cell) := []
  /-- The cells of the present field, the latest first. -/
  field : List Cell := []
  /-- The last field was ended by a blank, after which one separator means nothing. -/
  afterBlank : Bool := false
  /-- How many fields may still end; without a number there is no limit. -/
  room : Option Nat := none
  /-- How much of the last field is before the separators that may end it. -/
  kept : Option Nat := none

namespace Splitter

/-- End the present field, or let the last field that there is room for go on. -/
def close (s : Splitter) (c : Cell) (afterBlank : Bool) : Splitter :=
  if s.room == some 1 then
    { s with
      room := some 0, kept := some s.field.length, field := c :: s.field, afterBlank }
  else
    { s with
      fields := s.field.reverse :: s.fields, field := [], afterBlank
      room := s.room.map (· - 1) }

/-- Take a cell of the last field that there is room for. -/
def takeLast (s : Splitter) (c : Cell) (r : Role) : Splitter :=
  let kept :=
    match r with
    | .blank => some (s.kept.getD s.field.length)
    | .separator => if s.afterBlank then s.kept else none
    | .ordinary => none
  { s with field := c :: s.field, kept, afterBlank := s.afterBlank && r == .blank }

/-- Take a cell. -/
def take (s : Splitter) (c : Cell) (r : Role) : Splitter :=
  if s.room == some 0 then s.takeLast c r
  else
    match r with
    | .ordinary => { s with field := c :: s.field, afterBlank := false }
    | .blank => if s.afterBlank || s.field.isEmpty then s else s.close c true
    | .separator => if s.afterBlank then { s with afterBlank := false } else s.close c false

/-- Take the cells of a region. Those of one that is not split leave open where the last field ends,
and right after arguments every separator ends a field. -/
def region (separators : Octets) (afterArguments : Bool) (r : Region) (s : Splitter) : Splitter :=
  let s := { s with afterBlank := false }
  if r.splitting = .nowhere then { s with field := r.cells.reverse ++ s.field }
  else
    r.cells.foldl (fun s c =>
      match role separators r.splitting c with
      | .blank => s.take c (if afterArguments then .separator else .blank)
      | role => s.take c role) s

/-- Take regions in order, of which the last one that may be split was between arguments or not. -/
def regions (separators : Octets) : Bool → List Region → Splitter → Bool × Splitter
  | after, [], s => (after, s)
  | after, r :: rs, s =>
    match r.splitting with
    | .nowhere => regions separators after rs (region separators false r s)
    | splitting =>
      regions separators (splitting == .betweenArguments) rs (region separators after r s)

end Splitter

/-- The fields of an expanded word, at most `room` of them. An argument may be empty. -/
def split (separators : Octets) (room : Option Nat) (rs : List Region) : List (List Cell) :=
  let (keepsLast, s) := Splitter.regions separators false rs { room }
  let last := (s.kept.map s.field.reverse.take).getD s.field.reverse
  if last.isEmpty && !keepsLast then s.fields.reverse else (last :: s.fields).reverse

end Field
end ClusterHarness.Machine.Shell
