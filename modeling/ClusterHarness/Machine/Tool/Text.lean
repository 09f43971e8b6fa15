import ClusterHarness.Machine.Print
import ClusterHarness.Machine.Tool.Copying

/-!
# Changing text

Tools that count what is in a text, exchange its characters or sort its lines.
-/

namespace ClusterHarness.Machine.Tool

/-! ## Counting -/

/-- What is counted in a text. -/
structure Counts where
  lines : Nat := 0
  words : Nat := 0
  bytes : Nat := 0

namespace Counts

def ofOctets (o : Octets) : Counts where
  lines := o.count '\n'
  words := ((o.splitBy fun a b => Octets.isBlank a == Octets.isBlank b).filter
    fun run => run.head?.any (!Octets.isBlank ·)).length
  bytes := o.length

def add (a b : Counts) : Counts := ⟨a.lines + b.lines, a.words + b.words, a.bytes + b.bytes⟩

/-- The counts that options ask for, by default all of them. -/
def chosen (a : Arguments) (c : Counts) : List Nat :=
  let all := a.options.isEmpty
  (if all || a.has 'l' then [c.lines] else []) ++ (if all || a.has 'w' then [c.words] else []) ++
    (if a.has 'm' then [c.bytes] else []) ++ (if all || a.has 'c' then [c.bytes] else [])

end Counts

/-- Count lines, words and bytes. -/
def wc (args : List Octets) : Simple Nat :=
  let names := [("lines", 'l'), ("words", 'w'), ("bytes", 'c'), ("chars", 'm')]
  reading ⟨"lwcm".toList, names⟩ args fun a => do
    let isSingle := a.operands.length ≤ 1 && ((Counts.chosen a {}).length == 1)
    let width ← if isSingle then pure 1 else widthFor a.operands
    let print (c : Counts) (name : Option Octets) : Simple Unit :=
      let columns := (Counts.chosen a c).map fun n =>
        let digits := Octets.ofNat n
        List.replicate (width - digits.length) ' ' ++ digits
      say ([' '].intercalate (columns ++ name.toList) ++ ['\n'])
    let counted (o : Octets) : Simple (Option Counts × Bool) := do
      match ← openOperand o with
      | .error e =>
        complainOf (shown o) e
        return (none, false)
      | .ok d =>
        let r ← readAll d turnLimit
        closeOperand d
        match r with
        | .ok bytes => return (some (.ofOctets (Octets.ofBytes bytes)), true)
        | .error e =>
          complainOf (if o = ['-'] then quoted standardInput else shown o) e
          return (some {}, false)
    let results ← (if a.operands.isEmpty then [['-']] else a.operands).mapM fun o => do
      let (counts, fine) ← counted o
      if let some c := counts then print c (if a.operands.isEmpty then none else some o)
      return (counts.getD {}, fine)
    if 1 < a.operands.length then
      print (results.foldl (fun sum r => sum.add r.1) {}) (some "total".toList)
    if (a.operands.isEmpty || a.operands.contains ['-']) && !(← inputIsOpen) then
      complainOf ['-'] .badDescriptor
      return 1
    return if results.all (·.2) then 0 else 1
where
  /-- The width of columns for files of these sizes. -/
  widthFor (operands : List Octets) : Simple Nat := do
    let statuses ← (if operands.isEmpty then [['-']] else operands).mapM fun (o : Octets) => do
      if o = ['-'] then describe 0
      else return (← Program.ask (.inspect ⟨o.toText⟩)).toOption
    let sizes := statuses.filterMap fun s =>
      match s with
      | some { kind := .file size _, .. } => some size
      | _ => none
    let hasOther := statuses.any fun s =>
      match s with
      | some { kind := .file .., .. } => false
      | some _ => true
      | none => false
    return max (Octets.ofNat (sizes.foldl (· + ·) 0)).length (if hasOther then 7 else 1)

/-! ## Exchanging characters -/

/-- The characters of a class. -/
def characterClass? (name : Octets) : Option Octets :=
  let all (f : Char → Bool) : Octets := ((List.range 128).map Char.ofNat).filter f
  match String.ofList name with
  | "lower" => some (all Char.isLower)
  | "upper" => some (all Char.isUpper)
  | "alpha" => some (all Char.isAlpha)
  | "digit" => some (all Char.isDigit)
  | "alnum" => some (all Char.isAlphanum)
  | "space" => some (all Octets.isBlank)
  | "blank" => some ['\t', ' ']
  | "punct" => some (all fun c => '!' ≤ c && c ≤ '~' && !c.isAlphanum)
  | _ => none

/-- A character at the start of a text, which may be escaped, and what follows it. -/
def leadingCharacter (c : Char) (rest : Octets) : Char × Octets :=
  match c, rest with
  | '\\', d :: rest =>
    if (Print.control? d).isSome || Print.isOctal d then Print.escape (d :: rest) else (d, rest)
  | c, rest => (c, rest)

/-- The characters that a text stands for: ranges, classes and escapes are written out. -/
def characters : Nat → Octets → Except Octets Octets
  | 0, _ => .ok []
  | _, [] => .ok []
  | fuel + 1, '[' :: ':' :: rest =>
    let name := rest.takeWhile (· != ':')
    match rest.drop name.length with
    | ':' :: ']' :: rest =>
      match characterClass? name with
      | some found => (characters fuel rest).map (found ++ ·)
      | none => .error ("invalid character class ".toList ++ quoted name)
    | _ => (characters fuel (':' :: rest)).map ('[' :: ·)
  | fuel + 1, c :: rest =>
    let (first, rest) := leadingCharacter c rest
    match rest with
    | '-' :: last :: rest =>
      let (last, rest) := leadingCharacter last rest
      if last < first then
        .error ("range-endpoints of '".toList ++ [first, '-', last] ++
          "' are in reverse collating sequence order".toList)
      else
        let range := (List.range (last.toNat + 1 - first.toNat)).map fun n =>
          Char.ofNat (first.toNat + n)
        (characters fuel rest).map (range ++ ·)
    | rest => (characters fuel rest).map (first :: ·)

/-- Of equal characters in a row that are among some, only the first. -/
def squeeze (among : Char → Bool) : Option Char → Octets → Octets
  | _, [] => []
  | before, c :: cs =>
    if before = some c && among c then squeeze among before cs else c :: squeeze among (some c) cs

/-- A text with the characters of a first set deleted or replaced by those of a second one, of which
the last stands for the rest, and then perhaps squeezed. -/
def exchange (a : Arguments) (first second : Octets) (o : Octets) : Octets :=
  let complement := a.has 'c' || a.has 'C'
  let isIn (c : Char) : Bool := first.contains c != complement
  let last := second.getLastD ' '
  let replaced (c : Char) : Char :=
    if !isIn c then c
    else if complement then last
    else second.getD (first.length - 1 - first.reverse.idxOf c) last
  let changed :=
    if a.has 'd' then o.filter (!isIn ·) else if second.isEmpty then o else o.map replaced
  if a.has 's' then squeeze (if second.isEmpty then isIn else second.contains) none changed
  else changed

/-- Exchange, delete or squeeze the characters of standard input. -/
def tr (args : List Octets) : Simple Nat :=
  let names := [("delete", 'd'), ("squeeze-repeats", 's'), ("complement", 'c'),
    ("truncate-set1", 't')]
  reading ⟨"cCdst".toList, names⟩ args fun a => do
    let deletes := a.has 'd'
    let squeezes := a.has 's'
    let number (words : String) (o : Octets) (hint : String) : Simple Nat := do
      complain (words.toList ++ ' ' :: quoted o)
      advise (hint ++ "\n")
    match a.operands with
    | [] => misused "missing operand".toList
    | [o] =>
      if deletes == squeezes then
        let purpose := if deletes then "both deleting and squeezing repeats" else "translating"
        number "missing operand after" o s!"Two strings must be given when {purpose}."
      else go a o []
    | [first, second] =>
      if deletes && !squeezes then
        number "extra operand" second
          "Only one string may be given when deleting without squeezing repeats."
      else go a first second
    | _ :: _ :: extra :: _ => misused ("extra operand ".toList ++ quoted extra)
where
  /-- Copy standard input with its characters exchanged. -/
  go (a : Arguments) (first second : Octets) : Simple Nat := do
    let failed (words : Octets) : Simple Nat := do
      complain words
      return 1
    match characters (first.length + 1) first, characters (second.length + 1) second with
    | .error words, _ => failed words
    | _, .error words => failed words
    | .ok before, .ok after =>
      if a.operands.length = 2 && after.isEmpty && !before.isEmpty && !a.has 'd' then
        failed "when not truncating set1, string2 must be non-empty".toList
      else
        match ← readAll 0 turnLimit with
        | .error e => failed ("read error: ".toList ++ e.words.toList)
        | .ok bytes =>
          let before := if a.has 't' then before.take after.length else before
          say (exchange a before after (Octets.ofBytes bytes))
          return 0

/-! ## Sorting -/

/-- The number at the start of a line, or zero, in units of its last decimal place that counts. -/
def leadingNumber (o : Octets) : Int :=
  let o := Octets.skipBlanks o
  let negative := o.head? == some '-'
  let o := if negative then o.tail else o
  let whole := o.takeWhile Char.isDigit
  let places := match o.drop whole.length with
    | '.' :: rest => rest.takeWhile Char.isDigit
    | _ => []
  let places := places.take 18 ++ List.replicate (18 - places.length) '0'
  let n : Int := Octets.ofDigits 10 (whole ++ places)
  if negative then -n else n

/-- Sort the lines of files. -/
def sort (args : List Octets) : Simple Nat :=
  let names := [("numeric-sort", 'n'), ("reverse", 'r'), ("unique", 'u'), ("stable", 's')]
  reading ⟨"bnrsu".toList, names⟩ args fun a => do
    let operands := if a.operands.isEmpty then [['-']] else a.operands
    let rec load : List Octets → Simple (Option (List Octets))
      | [] => return some []
      | o :: os => do
        match ← openOperand o with
        | .error e =>
          complainOf ("cannot read: ".toList ++ shown o) e
          return none
        | .ok d =>
          if (← describe d).isNone then
            complainOf ("stat failed: ".toList ++ shown o) .badDescriptor
            return none
          match ← readAll d turnLimit with
          | .error e =>
            complainOf ("read failed: ".toList ++ shown o) e
            return none
          | .ok bytes =>
            closeOperand d
            let lines := (linesOf bytes).map fun line =>
              let line := Octets.ofBytes line
              if line.getLast? == some '\n' then line.dropLast else line
            return (← load os).map (lines ++ ·)
    match ← load operands with
    | none => return 2
    | some lines =>
      let key (o : Octets) : Octets := if a.has 'b' then Octets.skipBlanks o else o
      let order (x y : Octets) : Ordering :=
        let byKey :=
          if a.has 'n' then compare (leadingNumber x) (leadingNumber y)
          else compareOfLessAndEq (key x) (key y)
        let whole := if a.has 'u' || a.has 's' then .eq else compareOfLessAndEq x y
        if a.has 'r' then (byKey.then whole).swap else byKey.then whole
      let sorted := lines.mergeSort fun x y => order x y != .gt
      let kept := if a.has 'u' then (sorted.splitBy fun x y => order x y == .eq).filterMap (·.head?)
        else sorted
      say (kept.flatMap (· ++ ['\n']))
      return 0

end ClusterHarness.Machine.Tool
