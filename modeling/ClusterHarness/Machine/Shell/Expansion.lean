import ClusterHarness.Machine.Shell.Arithmetic
import ClusterHarness.Machine.Shell.Field

/-!
# Expanding words

How a word becomes the words that a command is given: parameters, commands and expressions in it
are replaced by their values, the values are split into fields, and fields that are patterns are
replaced by the paths that they cover. What a command prints is given by `output`.
-/

namespace ClusterHarness.Machine.Shell.Expansion

/-- What a word is expanded for. -/
structure Way where
  /-- The word is split, and patterns in it are replaced. -/
  split : Bool := false
  /-- It stands between quotes. -/
  quoted : Bool := false
  /-- It is the word of a parameter, in which plain characters may be split, too. -/
  inParameter : Bool := false
  /-- It sets a variable, so that the name after a tilde ends at a colon. -/
  assignment : Bool := false
deriving Inhabited

/-- What expands a word, region by region, of which it keeps the latest first. -/
abbrev Expanding := StateT (List Region) Action

def emit (cells : List Cell) (splitting : Splitting) : Expanding Unit :=
  modify (⟨cells, splitting⟩ :: ·)

/-- Expand a part of a word apart from the rest. -/
def apart (a : Expanding Unit) : Action (List Region) := do
  return (← a.run []).2.reverse

def cellsOf (rs : List Region) : List Cell := rs.flatMap (·.cells)

/-! ## Values of parameters -/

/-- What stands between the arguments where they are taken together. -/
def between (s : State) (way : Way) (each : Bool) : List Cell :=
  if way.split && way.quoted && each then [.gap]
  else
    match s.get? "IFS".toList with
    | none => [.ofChar way.quoted ' ']
    | some ifs =>
      if way.split && !way.quoted then [.gap]
      else (ifs.take 1).map (.ofChar way.quoted ·)

/-- The value of a parameter, if it is set. -/
def value? (s : State) (way : Way) (name : Octets) : Option (List Cell) :=
  let plain (o : Octets) : List Cell := o.map (.ofChar way.quoted ·)
  let together (each : Bool) : Option (List Cell) :=
    some ((between s way each).intercalate (s.args.map plain))
  match name with
  | ['#'] => some (plain (Octets.ofNat s.args.length))
  | ['?'] => some (plain (Octets.ofNat s.status))
  | ['$'] => some (plain (Octets.ofNat s.identity))
  | ['!'] => s.lastProcess.map fun n => plain (Octets.ofNat n)
  | ['-'] => some (plain s.optionLetters)
  | ['@'] => together true
  | ['*'] => together false
  | name =>
    match Octets.toNat? name with
    | some 0 => some (plain s.script)
    | some (n + 1) => (s.args[n]?).map plain
    | none => (s.get? name).map plain

/-- Complain of a parameter without a value. -/
def missing {α : Type} (name : Octets) (words : Octets) : Action α :=
  fail (name ++ ": ".toList ++ words)

/-- The directory that a tilde and the name after it stand for. -/
def home? (s : State) (name : Octets) : Option Octets :=
  if name.isEmpty then s.get? "HOME".toList
  else if name == "root".toList then some "/root".toList
  else none

/-- The name after a tilde, and the parts after the name. -/
def tildeName? (colon : Bool) : List Part → Option (Octets × List Part)
  | [] => some ([], [])
  | .char c false :: ps =>
    if c == '/' || (colon && c == ':') then some ([], .char c false :: ps)
    else (tildeName? colon ps).map fun (o, ps) => (c :: o, ps)
  | _ => none

/-- The characters of a value up to the end of its first argument. -/
def firstArgument (cells : List Cell) : Octets :=
  cells.takeWhile (·.letter?.isSome) |> Cell.octets

/-- What a trimming use leaves of a value. A start is looked for in the first argument only; nothing
is left of a value whose first argument is the longest start. An end is that of an argument, and
what comes after it is gone, too. -/
def trimmed (use : Use) (p : Pattern) (cells : List Cell) : List Cell :=
  let first := firstArgument cells
  let rest (n : Nat) : Octets := firstArgument (cells.drop n)
  let starts := List.range (first.length + 1)
  let cut (found : Option Nat) (f : Nat → List Cell) : List Cell := (found.map f).getD cells
  match use with
  | .trimStart false => cut (starts.find? fun n => p.covers (first.take n)) cells.drop
  | .trimStart true =>
    if p.covers first then []
    else cut (starts.reverse.find? fun n => p.covers (first.take n)) cells.drop
  | .trimEnd false =>
    cut ((List.range (cells.length + 1)).reverse.find? fun n => p.covers (rest n)) cells.take
  | .trimEnd true => cut (starts.find? fun n => p.covers (rest n)) cells.take
  | _ => cells

/-! ## Words -/

/-- Show the value of a parameter where it stands. -/
def display (s : State) (way : Way) (name : Octets) (cells : List Cell) : Expanding Unit :=
  emit cells
    (if !way.quoted then .atSeparators
    else if name == ['@'] && !s.args.isEmpty then .betweenArguments
    else .nowhere)

/-- Where a part of a word stands. -/
structure Position where
  /-- A quotation is open. -/
  inside : Bool := false
  /-- A tilde here stands for a home directory. -/
  tilde : Bool := false
  /-- The signs after which a tilde does so. -/
  marks : Octets := []
deriving Inhabited

/-- Expand a parameter, where `go` expands its word from the start on. A value that is set by a word
with the arguments at its start is split as if it stood right after arguments. -/
def parameter (go : Way → Expanding Unit) (way : Way) (name : Octets) (use : Use)
    (emptyCounts isEmptyWord : Bool) : Expanding Unit := do
  let s : State ← getThe State
  let value := (value? s way name).filter fun cells => !(emptyCounts && cells.isEmpty)
  let word : Action (List Region) := apart (go {})
  let required : Expanding (Option (List Cell)) := do
    if value.isNone && s.has 'u' then missing name "parameter not set".toList
    return value
  match use, value with
  | .nothing, _ => fail "Bad substitution".toList
  | .length, _ =>
    let n := ((← required).getD []).length
    display s way [] ((Octets.ofNat n).map (.ofChar way.quoted ·))
  | .default, none => go { way with inParameter := true }
  | .alternative, some _ => go { way with inParameter := true }
  | .alternative, none => return
  | .demand, none =>
    let text := Cell.octets (cellsOf (← word))
    if isEmptyWord then
      missing name (("parameter not set" ++ if emptyCounts then " or null" else "").toList)
    missing name text
  | .assign, none =>
    let regions ← word
    setVariable name (Cell.octets (cellsOf regions))
    let startsWithArguments := (regions.head?.map (·.splitting)) == some .betweenArguments
    if startsWithArguments && (← get).all (·.splitting == .nowhere) then emit [] .betweenArguments
    let s : State ← getThe State
    display s way name ((value? s way name).getD [])
  | .trimStart _, _ | .trimEnd _, _ =>
    if let some cells ← required then
      let p := Pattern.ofLetters (Cell.letters (cellsOf (← word)))
      display s way name (trimmed use p cells)
  | _, _ =>
    if let some cells ← required then display s way name cells

/-- The plain characters at the start of a word up to a mark. -/
def plainRun (isMark : Char → Bool) : List Part → Octets
  | .char c false :: ps => if isMark c then [] else c :: plainRun isMark ps
  | _ => []

/-- Expand parts of a word. A parameter of which only the value is asked for may have a word, too:
that comes after the value, and nothing after it. -/
def parts (output : Command → Action Octets) :
    Nat → Way → Position → List Part → Expanding Unit
  | 0, _, _, _ => throw .failure
  | _, _, _, [] => return
  | fuel + 1, way, at_, p :: ps => do
    let quoted := way.quoted || at_.inside
    let here := { way with quoted }
    let after : Position := { at_ with tilde := false }
    let next : Expanding Unit := parts output fuel way after ps
    let insert (o : Octets) : Expanding Unit :=
      emit (o.map (.ofChar quoted ·)) (if quoted then .nowhere else .atSeparators)
    let s : State ← getThe State
    match p, ps with
    | .char c q, _ =>
      let home : Option (Octets × List Part) :=
        if at_.tilde && c == '~' && !q then do
          let (name, rest) ← tildeName? way.assignment ps
          return (← home? s name, rest)
        else none
      match home with
      | some (o, rest) =>
        emit (o.map (.ofChar true)) .nowhere
        parts output fuel way after rest
      | none =>
        let marks (c : Char) : Bool := !at_.inside && at_.marks.contains c
        let run := if way.inParameter && !quoted then plainRun marks (p :: ps) else []
        if run.isEmpty then
          emit [.ofChar (q || quoted) c] .nowhere
          if !q && marks c then
            parts output fuel way { at_ with tilde := true, marks := [':'] } ps
          else next
        else
          emit (run.map (.ofChar false ·)) .atSeparators
          parts output fuel way after (ps.drop (run.length - 1))
    | .mark, .parameter ['@'] .value false [] :: .mark :: rest =>
      if at_.inside then
        emit [.mark] .nowhere
        parts output fuel way { after with inside := false } ps
      else
        let here := { way with quoted := true }
        if let some cells := value? s here ['@'] then display s here ['@'] cells
        parts output fuel way after rest
    | .mark, _ =>
      emit [.mark] .nowhere
      parts output fuel way { after with inside := !at_.inside } ps
    | .parameter name .value true word, _ =>
      parameter (fun _ => return) here name .value true word.isEmpty
      parts output fuel way after word
    | .parameter name use emptyCounts word, _ =>
      parameter (parts output fuel · { tilde := true, marks := at_.marks } word) here name use
        emptyCounts word.isEmpty
      next
    | .output command, _ =>
      if let some c := command then insert (← output c)
      next
    | .arithmetic expression, _ =>
      let source := cellsOf (← apart (parts output fuel {} {} expression))
      insert (Octets.ofInt (← Arithmetic.evaluate (Cell.octets source)))
      next

/-- The most parts of a word, with those inside each other. -/
def bound : Nat := 10000000

/-- Expand a whole word, or a text between quotes. -/
def regions (output : Command → Action Octets) (way : Way) (w : Word) : Action (List Region) :=
  let at_ : Position :=
    { tilde := !way.assignment && !way.quoted
      marks := if way.assignment then ['=', ':'] else [] }
  apart (parts output bound way at_ w)

/-- The text of a word that is not split. -/
def text (output : Command → Action Octets) (way : Way) (w : Word) : Action Octets := do
  return Cell.octets (cellsOf (← regions output way w))

/-- The pattern that a word is. -/
def pattern (output : Command → Action Octets) (w : Word) : Action Pattern := do
  return Pattern.ofLetters (Cell.letters (cellsOf (← regions output {} w)))

/-! ## Paths -/

/-- The segments of a pattern between separators, which may be escaped. -/
def segments : List Letter → List (List Letter)
  | [] => [[]]
  | ⟨'/', _⟩ :: rest => [] :: segments rest
  | ⟨'\\', false⟩ :: ⟨'/', _⟩ :: rest => [] :: segments rest
  | ⟨'\\', false⟩ :: l :: rest => into [⟨'\\', false⟩, l] (segments rest)
  | l :: rest => into [l] (segments rest)
where
  /-- Put letters at the start of the first segment. -/
  into (start : List Letter) : List (List Letter) → List (List Letter)
    | [] => [start]
    | s :: ss => (start ++ s) :: ss

def isActive (l : Letter) : Bool :=
  !l.quoted && (l.char == '*' || l.char == '?' || l.char == '[')

/-- The names in a directory that a pattern covers. Names that begin with a full stop need one in
the pattern. -/
def matchingNames (directory : Octets) (p : Pattern) : Action (List Octets) := do
  let path : Path := ⟨if directory.isEmpty then "." else directory.toText⟩
  match ← ask (.list path) with
  | .error _ => return []
  | .ok names =>
    let names :=
      if p.head? == some (.char '.') then "." :: ".." :: names
      else names.filter fun n => !n.startsWith "."
    return (names.map Octets.ofText).filter p.covers

/-- The paths after `before` that the segments of a pattern cover. -/
def matchingPaths : List (List Letter) → Octets → Action (List Octets)
  | [], before => pure [before]
  | segment :: rest, before => do
    let p := Pattern.ofLetters segment
    let next (name : Octets) : Action (List Octets) :=
      if rest.isEmpty then return [before ++ name]
      else matchingPaths rest (before ++ name ++ ['/'])
    if segment.any isActive then
      return (← (← matchingNames before p).mapM next).flatten
    let name := (Pattern.unescape segment).map (·.char)
    if rest.isEmpty then
      match ← ask (.inspect ⟨(before ++ name).toText⟩) with
      | .ok _ => return [before ++ name]
      | .error _ => return []
    next name

/-- A field, or the paths that it covers if it is a pattern. -/
def paths (cells : List Cell) : Action (List Octets) := do
  let ls := Cell.letters cells
  let itself := ls.map (·.char)
  if (← get).has 'f' || !ls.any isActive then return [itself]
  let found ← matchingPaths (segments ls) []
  return if found.isEmpty then [itself] else found.mergeSort fun a b => !decide (b < a)

/-- The words that a word becomes. -/
def fields (output : Command → Action Octets) (w : Word) : Action (List Octets) := do
  let rs ← regions output { split := true } w
  let found ← (Field.split (← get).separators none rs).mapM paths
  return found.flatten

/-- The words that words become. -/
def allFields (output : Command → Action Octets) (ws : List Word) : Action (List Octets) := do
  return (← ws.mapM (fields output)).flatten

end ClusterHarness.Machine.Shell.Expansion
