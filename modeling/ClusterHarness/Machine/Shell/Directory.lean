import ClusterHarness.Machine.Shell.Options

/-!
# The directory of a shell

A shell remembers its directory as a text, so that a name and the two full stops after it cancel out
even if nothing has that name. The mask of permissions for new files is kept here, too.
-/

namespace ClusterHarness.Machine.Shell.Directory

/-- The segments of a path, without empty ones and those that stay where they are. -/
def segments (o : Octets) : List Octets :=
  (o.splitOn '/').filter fun s => !s.isEmpty && s != ['.']

/-- The directory that a path stands for, counted from another one. -/
def resolve (base path : Octets) : Octets :=
  let isAbsolute := path.head? == some '/'
  let doubled (o : Octets) : Bool :=
    o.take 2 == ['/', '/'] && (o.drop 2).head? != some '/'
  let start := if isAbsolute then [] else (segments base).reverse
  let names := (segments path).foldl (fun before s =>
    if s == ['.', '.'] then before.tail else s :: before) start
  let root := if doubled (if isAbsolute then path else base) then ['/', '/'] else ['/']
  root ++ ['/'].intercalate names.reverse

/-- Change to a directory, and say whether that succeeded. -/
def changeTo (path : Octets) : Action Bool := do
  let s ← get
  let place := resolve s.directory path
  match ← ask (.changeDirectory ⟨place.toText⟩) with
  | .error _ => return false
  | .ok () =>
    let export_ (value : Octets) (v : Variable) : Variable :=
      { v with value := some value, exported := true }
    changeVariable "OLDPWD".toList (export_ s.directory)
    modify fun s => { s with directory := place }
    changeVariable "PWD".toList (export_ place)
    return true

/-- Whether a path is not looked for in other directories. -/
def isAnchored (path : Octets) : Bool :=
  path.head? == some '/' ||
    match (path.splitOn '/').headD [] with
    | ['.'] => true
    | ['.', '.'] => true
    | _ => false

/-- The first of some directories in which there is a directory at a path. -/
def firstDirectory (path : Octets) : List Octets → Action (Option (Octets × Bool))
  | [] => return none
  | d :: ds => do
    let there := if d.isEmpty then path else d ++ '/' :: path
    match ← ask (.inspect ⟨there.toText⟩) with
    | .ok { kind := .directory, .. } => return some (there, !d.isEmpty)
    | _ => firstDirectory path ds

/-- Change the directory. -/
def change (args : List Octets) : Action Nat := do
  let (_, words) ← Options.split "LP".toList args
  let s ← get
  let (target, back) : Octets × Bool :=
    match words with
    | [] => ((s.get? "HOME".toList).getD [], false)
    | ['-'] :: _ => ((s.get? "OLDPWD".toList).getD [], true)
    | w :: _ => (w, false)
  let search := ((s.get? "CDPATH".toList).getD []).splitOn ':'
  let found ←
    if isAnchored target then pure (some (target, false)) else firstDirectory target search
  let (path, shows) := found.getD (target, false)
  if !(← changeTo path) then fail ("can't cd to ".toList ++ target)
  if shows || back then print ((← get).directory ++ ['\n'])
  return 0

def show_ (args : List Octets) : Action Nat := do
  let _ ← Options.split "LP".toList args
  print ((← get).directory ++ ['\n'])
  return 0

/-! ## Permissions of new files -/

/-- The mask in symbols. -/
def symbols (mask : Nat) : Octets :=
  let allowed (shift : Nat) : Octets :=
    let bits := 7 - mask / Nat.pow 2 shift % 8
    (if 4 ≤ bits then ['r'] else []) ++ (if 2 ≤ bits % 4 then ['w'] else []) ++
      if bits % 2 = 1 then ['x'] else []
  "u=".toList ++ allowed 6 ++ ",g=".toList ++ allowed 3 ++ ",o=".toList ++ allowed 0

/-- The permissions that a mode in symbols gives, from those of before. -/
def applySymbols (before : Nat) : Nat → Nat → Nat → Octets → Option Nat
  | 0, _, _, _ => none
  | _, allowed, _, [] => some allowed
  | fuel + 1, allowed, who, o =>
    let place (c : Char) : Nat :=
      match c with
      | 'a' => 73
      | 'u' => 64
      | 'g' => 8
      | _ => 1
    let names := o.takeWhile "augo".toList.contains
    let who := names.foldl (fun w c => w ||| place c) who
    let who := if who = 0 then 73 else who
    match o.drop names.length with
    | sign :: rest =>
      if sign != '=' && sign != '+' && sign != '-' then none
      else
        let letters := rest.takeWhile "rwxugoXs".toList.contains
        let value := letters.foldl (fun n c => n |||
          match c with
          | 'r' => 4
          | 'w' => 2
          | 'x' => 1
          | 'u' => before / 64
          | 'g' => before / 8
          | 'o' => before
          | 'X' => if before &&& 73 != 0 then 1 else 0
          | _ => 0) 0
        let bits := value % 8 * who
        let now :=
          if sign = '-' then allowed &&& (511 - bits)
          else if sign = '+' then allowed ||| bits
          else bits ||| (allowed &&& (511 - who * 7))
        match rest.drop letters.length with
        | ',' :: rest => applySymbols before fuel now 0 rest
        | rest => applySymbols before fuel now who rest
    | [] => none

def mask (args : List Octets) : Action Nat := do
  let (found, words) ← Options.split ['S'] args
  let before := (← get).mask
  match words with
  | [] =>
    if !found.isEmpty then print (symbols before ++ ['\n'])
    else
      let digits := Nat.toDigits 8 before
      print (List.replicate (4 - digits.length) '0' ++ digits ++ ['\n'])
  | w :: _ =>
    if w.head?.any Char.isDigit then
      unless w.all (Octets.isDigitOf 8) do badNumber w
      modify fun s => { s with mask := Octets.ofDigits 8 w % 512 }
    else
      match applySymbols (511 - before) (w.length + 1) (511 - before) 0 w with
      | some allowed => modify fun s => { s with mask := 511 - allowed % 512 }
      | none => fail ("Illegal mode: ".toList ++ w)
  return 0

end ClusterHarness.Machine.Shell.Directory
