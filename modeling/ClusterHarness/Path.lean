/-!
# Paths

A path is kept as it was written. Joining, the parent and the number of components look at its
text only: repeated separators and `.` segments inside a path are no components, a `.` segment
at its very start is one.
-/

namespace ClusterHarness

/-- A path as written, with `/` between its segments. -/
structure Path where
  text : String
deriving DecidableEq, Repr, Inhabited

namespace Path

/-- The segments between separators, empty ones included. -/
def segments (cs : List Char) : List (List Char) :=
  cs.splitOn '/'

def isAbsolute (p : Path) : Bool := p.text.toList.head? == some '/'

/-- An absolute path replaces the base; any other is written after it. -/
def join (base p : Path) : Path :=
  if p.isAbsolute then p
  else
    let b := base.text.toList
    if b.isEmpty || b.getLast? == some '/' then ⟨base.text ++ p.text⟩
    else ⟨base.text ++ "/" ++ p.text⟩

/-- How many characters at the start of a path are fixed: the root, or a leading `.` segment. -/
def fixedLength : List Char → Nat
  | '/' :: _ => 1
  | ['.'] => 1
  | '.' :: '/' :: _ => 1
  | _ => 0

/-- A segment that names nothing of its own. -/
def isSilent (segment : List Char) : Bool := segment.isEmpty || segment == ['.']

/-- The last segment of a reversed text, reversed, and the reversed text before its separator. -/
def lastSegment (reversed : List Char) : List Char × List Char :=
  (reversed.takeWhile (· != '/'), (reversed.dropWhile (· != '/')).drop 1)

/-- The rest of a nonempty reversed text after its last segment is shorter. -/
theorem length_lastSegment_snd_lt (c : Char) (r : List Char) :
    (lastSegment (c :: r)).2.length < (c :: r).length := by
  simp only [lastSegment, List.length_drop]
  by_cases h : c = '/'
  · subst h; simp
  · have := (List.dropWhile_sublist (fun c : Char => c != '/') (l := r)).length_le
    simp [h]
    omega

/-- Drop the silent segments at the end of a reversed text. -/
def dropSilent : List Char → List Char
  | [] => []
  | c :: r =>
    if isSilent (lastSegment (c :: r)).1 then dropSilent (lastSegment (c :: r)).2 else c :: r
termination_by r => r.length
decreasing_by exact length_lastSegment_snd_lt c r

/-- The path without its last component. The root and the empty path have no parent. -/
def parent (p : Path) : Option Path :=
  let cs := p.text.toList
  let fixed := fixedLength cs
  let start := cs.take fixed
  match dropSilent (cs.drop fixed).reverse with
  | [] => if start == ['.'] then some ⟨""⟩ else none
  | body => some ⟨String.ofList (start ++ (dropSilent (lastSegment body).2).reverse)⟩

/-- The number of components. -/
def componentCount (p : Path) : Nat :=
  let cs := p.text.toList
  let fixed := fixedLength cs
  fixed + ((segments (cs.drop fixed)).filter (!isSilent ·)).length

end Path
end ClusterHarness
