import ClusterHarness.Machine.Tool.Basic

/-!
# Copying files

Tools that copy files to standard output, wholly or in part.
-/

namespace ClusterHarness.Machine.Tool

/-- How the lines of files are shown. -/
structure Listing where
  numbered : Bool := false
  /-- Only lines that are not empty have numbers. -/
  onlyFilled : Bool := false
  ends : Bool := false
  tabs : Bool := false
  /-- Characters that are not printed are spelled out. -/
  spelled : Bool := false
  /-- Of empty lines in a row only the first is shown. -/
  squeezed : Bool := false
deriving DecidableEq, Repr

namespace Listing

/-- Where a listing stands. -/
structure Position where
  /-- The number of the last line that has one. -/
  line : Nat := 0
  atStart : Bool := true
  afterEmpty : Bool := false

/-- A character below U+0080 spelled out. -/
def spell (c : Char) : Octets :=
  if c.toNat < 32 then ['^', Char.ofNat (c.toNat + 64)]
  else if c.toNat = 127 then ['^', '?']
  else [c]

/-- A character as it is shown within a line. -/
def character (l : Listing) (c : Char) : Octets :=
  if c == '\t' then if l.tabs then ['^', 'I'] else [c]
  else if !l.spelled then [c]
  else if c.toNat < 128 then spell c
  else 'M' :: '-' :: spell (Char.ofNat (c.toNat - 128))

/-- Show a character. -/
def step (l : Listing) (p : Position) (c : Char) : Position × Octets :=
  let isEmpty := p.atStart && c == '\n'
  let counts := p.atStart && (l.numbered || l.onlyFilled) && !(l.onlyFilled && isEmpty)
  let line := if counts then p.line + 1 else p.line
  let digits := Octets.ofNat line
  let number := if counts then List.replicate (6 - digits.length) ' ' ++ digits ++ ['\t'] else []
  if c != '\n' then (⟨line, false, false⟩, number ++ l.character c)
  else if isEmpty && l.squeezed && p.afterEmpty then (p, [])
  else (⟨line, true, isEmpty⟩, number ++ (if l.ends then ['$', '\n'] else ['\n']))

/-- Show some characters. -/
def all (l : Listing) (p : Position) (o : Octets) : Position × Octets :=
  let (p, reversed) : Position × Octets := o.foldl (fun (p, reversed) c =>
    let (p, more) := l.step p c
    (p, more.reverse ++ reversed)) (p, [])
  (p, reversed.reverse)

def ofArguments (a : Arguments) : Listing where
  numbered := a.has 'n' || a.has 'b'
  onlyFilled := a.has 'b'
  ends := a.has 'E' || a.has 'A' || a.has 'e'
  tabs := a.has 'T' || a.has 'A' || a.has 't'
  spelled := a.has 'v' || a.has 'A' || a.has 'e' || a.has 't'
  squeezed := a.has 's'

end Listing

def catUsage : Arguments.Usage where
  letters := "AbeEnstTuv".toList
  names := [("number", 'n'), ("number-nonblank", 'b'), ("show-ends", 'E'), ("show-tabs", 'T'),
    ("squeeze-blank", 's'), ("show-nonprinting", 'v'), ("show-all", 'A')]

/-- Copy what a descriptor yields to standard output, or show it. -/
def copy (l : Listing) (descriptor : Nat) :
    Nat → Listing.Position → Simple (Except IoError Listing.Position)
  | 0, p => return .ok p
  | turns + 1, p => do
    match ← Program.ask (.read descriptor 131072) with
    | .error e => return .error e
    | .ok [] => return .ok p
    | .ok bytes =>
      let (p, shown) : Listing.Position × Bytes :=
        if l = {} then (p, bytes)
        else
          let (p, o) := l.all p (Octets.ofBytes bytes)
          (p, o.toBytes)
      if let .error e := ← Program.ask (.write 1 shown) then
        complainOf "write error".toList e
        Program.exit 1
      copy l descriptor turns p

/-- Copy files in order, and say whether each of them was copied. -/
def copyFiles (l : Listing) : Listing.Position → List Octets → Simple Bool
  | _, [] => return true
  | p, o :: os => do
    let failed (words : Octets) : Simple Bool := do
      complain (shown o ++ ": ".toList ++ words)
      let _ ← copyFiles l p os
      return false
    match ← openOperand o with
    | .error e => failed e.words.toList
    | .ok d =>
      let status ← describe d
      let isOutput := match status, ← describe 1 with
        | some ⟨place, .file size _, _⟩, some target => place = target.place && size != 0
        | _, _ => false
      if isOutput then failed "input file is output file".toList
      else if status.isNone then failed IoError.badDescriptor.words.toList
      else
        let r ← copy l d turnLimit p
        closeOperand d
        match r with
        | .error e => failed e.words.toList
        | .ok p => copyFiles l p os

def cat (args : List Octets) : Simple Nat :=
  reading catUsage args fun a => do
    if (← describe 1).isNone then
      complainOf "standard output".toList .badDescriptor
      return 1
    let operands := if a.operands.isEmpty then [['-']] else a.operands
    let copied ← copyFiles (.ofArguments a) {} operands
    if operands.contains ['-'] && !(← inputIsOpen) then
      complainOf "closing standard input".toList .badDescriptor
      return 1
    return if copied then 0 else 1

/-- Copy standard input to standard output and to files. -/
def tee (args : List Octets) : Simple Nat :=
  reading ⟨"aip".toList, [("append", 'a')]⟩ args fun a => do
    let opened ← a.operands.mapM fun o => do
      match ← Program.ask (.openFile ⟨o.toText⟩ (if a.has 'a' then .append else .replace)) with
      | .ok d => return some d
      | .error e =>
        complainOf (shown o) e
        return none
    let failed := opened.any Option.isNone
    let rec go : Nat → Simple Nat
      | 0 => return 0
      | turns + 1 => do
        match ← Program.ask (.read 0 65536) with
        | .error e =>
          complainOf "read error".toList e
          return 1
        | .ok [] => return if failed then 1 else 0
        | .ok bytes =>
          say (Octets.ofBytes bytes)
          (opened.filterMap id).forM fun d => do
            let _ ← Program.ask (.write d bytes)
          go turns
    go turnLimit

/-! ## Starts and ends -/

/-- A count with a unit after it. -/
def count? (o : Octets) : Option Nat := do
  let digits := o.takeWhile Char.isDigit
  let n ← Octets.toNat? digits
  let unit ← [("", 1), ("b", 512), ("kB", 1000), ("k", 1024), ("K", 1024), ("MB", 1000000),
    ("m", 1048576), ("M", 1048576)].lookup (String.ofList (o.drop digits.length))
  return n * unit

/-- What is wanted of a file: so many lines or bytes, or with `beyond` all but so many. -/
structure Portion where
  bytes : Bool := false
  count : Nat := 10
  beyond : Bool := false

/-- The portion that options ask for, of which a mark before the count asks for the rest. -/
def portion (mark : Char) (a : Arguments) : Except Octets Portion :=
  match a.options.reverse.find? fun o => o.1 == 'n' || o.1 == 'c' with
  | none => .ok {}
  | some (c, value) =>
    let beyond := value.head? == some mark
    let plain := if beyond || value.head? == some '-' then value.drop 1 else value
    match count? plain with
    | some count => .ok ⟨c == 'c', count, beyond⟩
    | none =>
      let unit := if c == 'c' then "bytes" else "lines"
      .error (("invalid number of " ++ unit ++ ": ").toList ++ quoted value)

/-- A first argument that is a count after a dash, as an option. -/
def withCount : List Octets → List Octets
  | ('-' :: d :: ds) :: rest =>
    if (d :: ds).all Char.isDigit then ['-', 'n'] :: (d :: ds) :: rest else ('-' :: d :: ds) :: rest
  | args => args

/-- The first lines of some bytes, and how many more are wanted. -/
def firstLines : Nat → Bytes → Bytes × Nat
  | 0, _ => ([], 0)
  | n + 1, [] => ([], n + 1)
  | n + 1, b :: bs =>
    let (taken, left) := if b = 10 then firstLines n bs else firstLines (n + 1) bs
    (b :: taken, left)

/-- The lines of some bytes, of which the last one may have no line feed. -/
def linesOf (bytes : Bytes) : List Bytes :=
  let (lines, last) := bytes.foldr (fun b (lines, line) =>
    if b = 10 then (line :: lines, [b]) else (lines, b :: line)) (([], []) : List Bytes × Bytes)
  ((last :: lines).filter (!·.isEmpty))

/-- Print the portion of what a descriptor yields that comes first. -/
def printFirst (p : Portion) (descriptor : Nat) : Nat → Nat → Simple (Except IoError Unit)
  | 0, _ => return .ok ()
  | _, 0 => return .ok ()
  | turns + 1, wanted => do
    match ← Program.ask (.read descriptor (if p.bytes then min wanted 8192 else 8192)) with
    | .error e => return .error e
    | .ok [] => return .ok ()
    | .ok bytes =>
      let (taken, wanted) :=
        if p.bytes then (bytes, wanted - bytes.length) else firstLines wanted bytes
      say (Octets.ofBytes taken)
      if taken.length < bytes.length then
        Program.ask (.goBack descriptor (bytes.length - taken.length))
      printFirst p descriptor turns wanted

/-- All but the last lines or bytes. -/
def allButLast (p : Portion) (bytes : Bytes) : Bytes :=
  let lines := linesOf bytes
  if p.bytes then bytes.take (bytes.length - p.count)
  else (lines.take (lines.length - p.count)).flatten

/-- The last lines or bytes, or those from a number on. -/
def lastOf (p : Portion) (bytes : Bytes) : Bytes :=
  let lines := linesOf bytes
  match p.bytes, p.beyond with
  | true, true => bytes.drop (p.count - 1)
  | true, false => bytes.drop (bytes.length - p.count)
  | false, true => (lines.drop (p.count - 1)).flatten
  | false, false => (lines.drop (lines.length - p.count)).flatten

/-- Print a portion of each operand, under its name if there are several of them. -/
def portions (args : List Octets) (letters : String) (mark : Char)
    (print : Arguments → Portion → Nat → Simple (Except IoError Unit)) : Simple Nat :=
  let names := [("lines", 'n'), ("bytes", 'c'), ("quiet", 'q'), ("silent", 'q'), ("verbose", 'v'),
    ("follow", 'f')]
  reading ⟨letters.toList, names⟩ (withCount args) fun a =>
    match portion mark a with
    | .error words => do
      complain words
      return 1
    | .ok p => do
      let operands := if a.operands.isEmpty then [['-']] else a.operands
      let headed := a.has 'v' || (1 < operands.length && !a.has 'q')
      let rec go (first : Bool) : List Octets → Simple Bool
        | [] => return true
        | o :: os => do
          let name := if o = ['-'] then standardInput else o
          match ← openOperand o with
          | .error e =>
            complainOf ("cannot open ".toList ++ quoted name ++ " for reading".toList) e
            let _ ← go first os
            return false
          | .ok d =>
            if headed then
              say ((if first then [] else ['\n']) ++ "==> ".toList ++ name ++ " <==\n".toList)
            let r ← print a p d
            closeOperand d
            if let .error e := r then complainOf ("error reading ".toList ++ quoted name) e
            return (← go false os) && r.toOption.isSome
      let fine ← go true operands
      if operands.contains ['-'] && !(← inputIsOpen) then
        complainOf ['-'] .badDescriptor
        return 1
      return if fine then 0 else 1

def head (args : List Octets) : Simple Nat :=
  portions args "c:n:qvz" '-' fun _ p descriptor =>
    if p.beyond then do
      match ← readAll descriptor turnLimit with
      | .error e => return .error e
      | .ok bytes =>
        say (Octets.ofBytes (allButLast p bytes))
        return .ok ()
    else printFirst p descriptor turnLimit p.count

/-- Print what is added to a file, looking once a second. -/
def follow (descriptor : Nat) : Nat → Simple Unit
  | 0 => return
  | turns + 1 => do
    Program.ask (.sleep (.ofSeconds 1))
    if let .ok bytes := ← readAll descriptor turnLimit then say (Octets.ofBytes bytes)
    follow descriptor turns

def tail (args : List Octets) : Simple Nat :=
  portions args "c:fFn:qvz" '+' fun a p descriptor => do
    match ← readAll descriptor turnLimit with
    | .error e => return .error e
    | .ok bytes =>
      say (Octets.ofBytes (lastOf p bytes))
      if a.has 'f' || a.has 'F' then follow descriptor turnLimit
      return .ok ()

end ClusterHarness.Machine.Tool
