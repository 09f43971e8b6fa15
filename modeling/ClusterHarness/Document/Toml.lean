import ClusterHarness.Document.Toml.Scalar
import ClusterHarness.Document.Toml.Tree

/-!
# Documents in TOML

Reading a document: its statements one after the other, and the tree of tables that they build.
Date-times are read as records with one reserved key.
-/

namespace ClusterHarness.Toml

/-- How many arrays and inline tables may stand inside each other, and how many keys a dotted key
may have. -/
def nestingLimit : Nat := 80

def isBareKeyChar (c : Char) : Bool := c.isAlphanum || c == '_' || c == '-'

/-- One key of a dotted key. -/
def simpleKey : Scan String := do
  match ← peek with
  | some '"' | some '\'' => lineString
  | _ =>
    let bare ← takeWhile isBareKeyChar
    if bare.isEmpty then failure
    return String.ofList bare

/-- The keys after the first, each after a dot. -/
def moreKeys : Nat → Scan (List String)
  | 0 => failure
  | fuel + 1 => do
    skipBlanks
    if ← accept "." then
      skipBlanks
      let key ← simpleKey
      return key :: (← moreKeys fuel)
    return []

/-- A dotted key: the path of tables and the key in the last of them. -/
def dottedKey : Scan (List String × String) := do
  skipBlanks
  let first ← simpleKey
  let keys := first :: (← moreKeys ((← get).length + 1))
  unless keys.length < nestingLimit do failure
  return (keys.dropLast, keys.getLast?.getD first)

/-- Skip blanks, line ends and comments between the items of an array. -/
def skipFiller : Nat → Scan Unit
  | 0 => return
  | fuel + 1 => do
    skipBlanks
    match ← peek with
    | some '#' => do
      skipComment
      unless ← acceptNewline do failure
      skipFiller fuel
    | _ => if ← acceptNewline then skipFiller fuel

mutual

/-- A value. Each turn of the readers of nested values takes a character or descends one level,
so `fuel` need be no more than twice the length of the input. -/
def value : Nat → Nat → Scan Document
  | 0, _ => failure
  | fuel + 1, depth => do
    match ← peek with
    | some '"' | some '\'' => return .text (← anyString)
    | some '[' => do
      unless depth + 1 < nestingLimit do failure
      expect "["
      return .list (← items fuel (depth + 1))
    | some '\x7b' => do
      unless depth + 1 < nestingLimit do failure
      expect "\x7b"
      skipBlanks
      if ← accept "\x7d" then return .record []
      return .record (finishFields (← pairs fuel (depth + 1) []))
    | some 't' => do
      expect "true"
      return .bool true
    | some 'f' => do
      expect "false"
      return .bool false
    | some 'i' => do
      expect "inf"
      return .number "inf"
    | some 'n' => do
      expect "nan"
      return .number "nan"
    | some c =>
      if c.isDigit || c == '+' || c == '-' then numberOrMoment else failure
    | none => failure

/-- The rest of an array, where an item or its end is expected. -/
def items : Nat → Nat → Scan (List Document)
  | 0, _ => failure
  | fuel + 1, depth => do
    skipFiller ((← get).length + 1)
    if ← accept "]" then return []
    let item ← value fuel depth
    skipFiller ((← get).length + 1)
    if ← accept "," then return item :: (← items fuel depth)
    expect "]"
    return [item]

/-- The rest of an inline table, where a field is expected. -/
def pairs : Nat → Nat → Fields → Scan Fields
  | 0, _, _ => failure
  | fuel + 1, depth, sofar => do
    let (path, key) ← dottedKey
    skipBlanks
    expect "="
    skipBlanks
    let d ← value fuel depth
    let fields ← sofar.assign path key d
    skipBlanks
    if ← accept "," then return ← pairs fuel depth fields
    expect "\x7d"
    return fields

end

/-- What is built so far, and the table that is open. -/
structure State where
  root : Fields := []
  current : List String := []

/-- Read one header. -/
def header (s : State) : Scan State := do
  if ← accept "[[" then
    let (path, key) ← dottedKey
    skipBlanks
    expect "]]"
    endStatement
    return { root := ← s.root.openRow path key, current := path ++ [key] }
  expect "["
  let (path, key) ← dottedKey
  skipBlanks
  expect "]"
  endStatement
  return { root := ← s.root.openTable path key, current := path ++ [key] }

/-- Read one key and its value into the open table. -/
def pair (s : State) : Scan State := do
  let (path, key) ← dottedKey
  skipBlanks
  expect "="
  skipBlanks
  let d ← value (2 * (← get).length + 2) 0
  endStatement
  return { s with root := ← s.root.descend s.current (Fields.assign path key d) }

/-- Read statements to the end of the input. Each takes at least one character. -/
def statements : Nat → State → Scan State
  | 0, _ => failure
  | fuel + 1, s => do
    skipBlanks
    match ← peek with
    | none => return s
    | some '#' => do
      endStatement
      statements fuel s
    | some '\n' | some '\r' => do
      unless ← acceptNewline do failure
      statements fuel s
    | some '[' => do statements fuel (← header s)
    | some _ => do statements fuel (← pair s)

/-- Read a document. A byte order mark may precede it. -/
def read (text : String) : Option Document :=
  let cs := text.toList
  let cs := if cs.head? == some '\ufeff' then cs.drop 1 else cs
  match (statements (cs.length + 2) {}).run cs with
  | some (s, _) => some (.record (finishFields s.root))
  | none => none

end ClusterHarness.Toml
