import ClusterHarness.Machine.Tool.Basic

/-!
# Changing files

Tools that create, list, move and remove files and directories.
-/

namespace ClusterHarness.Machine.Tool

def status (o : Octets) : Simple (Except IoError FileStatus) := Program.ask (.inspect ⟨o.toText⟩)

/-- Whether a path stands for a directory. -/
def isDirectory (o : Octets) : Simple Bool := do
  match ← status o with
  | .ok { kind := .directory, .. } => return true
  | _ => return false

/-- The names in a directory, in order. -/
def namesIn (o : Octets) : Simple (List Octets) := do
  let names := (← Program.ask (.list ⟨o.toText⟩)).toOption.getD []
  return (names.map Octets.ofText).mergeSort fun a b => !decide (b < a)

/-- A name in a directory as a path. -/
def under (directory name : Octets) : Octets :=
  if directory.getLast? == some '/' then directory ++ name else directory ++ '/' :: name

/-! ## Parts of paths -/

/-- A path without separators at its end. -/
def withoutEnd (o : Octets) : Octets := (o.reverse.dropWhile (· == '/')).reverse

/-- The last name of a path. -/
def lastName (o : Octets) : Octets :=
  let stem := withoutEnd o
  if stem.isEmpty then o.take 1 else (stem.reverse.takeWhile (· != '/')).reverse

/-- What comes before the last name of a path. -/
def directoryOf (o : Octets) : Octets :=
  let stem := withoutEnd o
  let before := withoutEnd (stem.take (stem.length - (lastName stem).length))
  if !before.isEmpty then before else if o.head? == some '/' then ['/'] else ['.']

/-- A name without an ending. The whole name is no ending. -/
def without (ending name : Octets) : Octets :=
  if ending.isSuffixOf name && ending != name then name.take (name.length - ending.length) else name

def basename (args : List Octets) : Simple Nat :=
  reading ⟨"as:".toList, [("multiple", 'a'), ("suffix", 's')]⟩ args fun a => do
    let print (ending o : Octets) : Simple Unit := say (without ending (lastName o) ++ ['\n'])
    match a.operands, a.has 'a' || a.has 's' with
    | [], _ => misused "missing operand".toList
    | os, true =>
      os.forM (print ((a.value? 's').getD []))
      return 0
    | [o], _ =>
      print [] o
      return 0
    | [o, ending], _ =>
      print ending o
      return 0
    | _ :: _ :: extra :: _, _ => misused ("extra operand ".toList ++ quoted extra)

def dirname (args : List Octets) : Simple Nat :=
  reading ⟨[], []⟩ args fun a => do
    if a.operands.isEmpty then misused "missing operand".toList
    else
      a.operands.forM fun o => say (directoryOf o ++ ['\n'])
      return 0

/-! ## Creating -/

/-- Mark files as changed now. Those that are missing are created unless `-c` is given. -/
def touch (args : List Octets) : Simple Nat :=
  reading ⟨"acmfd:r:t:".toList, [("no-create", 'c')]⟩ args fun a => do
    if a.operands.isEmpty then misused "missing file operand".toList
    else
      forOperands a.operands fun o => do
        let path : Path := ⟨o.toText⟩
        match ← status o with
        | .ok _ =>
          let _ ← Program.ask (.touch path)
          return true
        | .error .notFound =>
          if a.has 'c' then return true
          if o.getLast? == some '/' then
            complainOf ("setting times of ".toList ++ quoted o) .notFound
            return false
          match ← Program.ask (.openFile path .append) with
          | .ok d =>
            Program.ask (.close d)
            return true
          | .error e =>
            cannot "touch" o e
            return false
        | .error e =>
          cannot "touch" o e
          return false

/-- The part of a path up to a name that stands for no directory, if the path goes on after it. -/
def obstacle (o : Octets) : Simple Octets := do
  let ends := (List.range o.length).filter fun n => n != 0 && o[n]? == some '/'
  let found ← ends.findM? fun n => do
    match ← status (o.take n) with
    | .ok s => return s.kind != .directory
    | .error _ => return false
  return o.take (found.getD o.length)

/-- Create directories, with `-p` together with those above them. -/
def mkdir (args : List Octets) : Simple Nat :=
  reading ⟨"m:pv".toList, [("parents", 'p'), ("verbose", 'v'), ("mode", 'm')]⟩ args fun a => do
    if a.operands.isEmpty then misused "missing operand".toList
    else
      forOperands a.operands fun o => do
        let path : Path := ⟨o.toText⟩
        let r : Except IoError Unit ←
          if a.has 'p' then Program.ask (.createDirs path) else Program.ask (.createDir path)
        match r with
        | .ok () =>
          if a.has 'v' then tell ("created directory ".toList ++ quoted o)
          return true
        | .error e =>
          cannot "create directory" (← if a.has 'p' then obstacle o else pure o) e
          return false

/-! ## Removing -/

/-- Whether a path ends with a name for the directory itself or the one above. -/
def isSelfOrAbove (o : Octets) : Bool :=
  let name := lastName o
  name == ['.'] || name == ['.', '.']

/-- Remove files, with `-r` also directories. With `-f` nothing is missed. -/
def rm (args : List Octets) : Simple Nat :=
  let names := [("recursive", 'r'), ("force", 'f'), ("verbose", 'v'), ("dir", 'd')]
  reading ⟨"dfirRvI".toList, names⟩ args fun a => do
    let whole := a.has 'r' || a.has 'R'
    if a.operands.isEmpty then
      if a.has 'f' then return 0 else misused "missing operand".toList
    else
      forOperands a.operands fun o => do
        let failed (e : IoError) : Simple Bool := do
          cannot "remove" o e
          return false
        if whole && isSelfOrAbove o then
          complain ("refusing to remove '.' or '..' directory: skipping ".toList ++ quoted o)
          return false
        if whole && !o.isEmpty && o.all (· == '/') then
          complain "it is dangerous to operate recursively on '/'".toList
          complain "use --no-preserve-root to override this failsafe".toList
          return false
        let removesEmpty ← if a.has 'd' && !whole then isDirectory o else pure false
        if removesEmpty && !(← namesIn o).isEmpty then failed .notEmpty
        else
          match ← Program.ask (.remove ⟨o.toText⟩ (whole || removesEmpty)) with
          | .ok () =>
            if a.has 'v' then say ("removed ".toList ++ quoted o ++ ['\n'])
            return true
          | .error e =>
            if a.has 'f' && (e = .notFound || e = .notADirectory) then return true else failed e

/-- Remove empty directories. -/
def rmdir (args : List Octets) : Simple Nat :=
  reading ⟨"pv".toList, [("parents", 'p'), ("verbose", 'v')]⟩ args fun a => do
    if a.operands.isEmpty then misused "missing operand".toList
    else
      forOperands a.operands fun o => do
        let failed (e : IoError) : Simple Bool := do
          complainOf ("failed to remove ".toList ++ quoted o) e
          return false
        if a.has 'v' then tell ("removing directory, ".toList ++ quoted o)
        match ← status o with
        | .error e => failed e
        | .ok { kind := .directory, .. } =>
          if lastName o == ['.'] then failed .invalidArgument
          else if !(← namesIn o).isEmpty then failed .notEmpty
          else
            match ← Program.ask (.remove ⟨o.toText⟩ true) with
            | .ok () => return true
            | .error e => failed e
        | .ok _ => failed .notADirectory

/-! ## Listing -/

/-- List files, and what is in directories. -/
def ls (args : List Octets) : Simple Nat :=
  let names := [("all", 'a'), ("almost-all", 'A'), ("directory", 'd'), ("reverse", 'r')]
  reading ⟨"1aAdrU".toList, names⟩ args fun a => do
    let operands := if a.operands.isEmpty then [['.']] else a.operands
    let inOrder (os : List Octets) : List Octets := if a.has 'r' then os.reverse else os
    let print (os : List Octets) : Simple Unit := say (os.flatMap (· ++ ['\n']))
    let found ← operands.filterMapM fun o => do
      match ← status o with
      | .ok s => return some (o, s.kind == .directory && !a.has 'd')
      | .error e =>
        cannot "access" o e
        return none
    let chosen (directories : Bool) : List Octets :=
      inOrder (((found.filter (·.2 == directories)).map (·.1)).mergeSort
        fun x y => !decide (y < x))
    print (chosen false)
    let directories := chosen true
    directories.zipIdx.forM fun (o, n) => do
      if 1 < operands.length then
        say ((if n = 0 && (chosen false).isEmpty then [] else ['\n']) ++ o ++ ":\n".toList)
      let all ← namesIn o
      let shown := if a.has 'a' then ['.'] :: ['.', '.'] :: all
        else if a.has 'A' then all
        else all.filter (·.head? != some '.')
      print (inOrder shown)
    return if found.length = operands.length then 0 else 2

/-! ## Copying and moving -/

/-- Copy the content of a file. -/
def copyContent (source target : Octets) : Simple Bool := do
  match ← Program.ask (.openFile ⟨source.toText⟩ .read) with
  | .error e =>
    complainOf ("cannot open ".toList ++ quoted source ++ " for reading".toList) e
    return false
  | .ok d =>
    let bytes := (← readAll d turnLimit).toOption.getD []
    Program.ask (.close d)
    if target.getLast? == some '/' then
      complainOf ("cannot create regular file ".toList ++ quoted target) .notADirectory
      return false
    match ← Program.ask (.openFile ⟨target.toText⟩ .replace) with
    | .error e =>
      complainOf ("cannot create regular file ".toList ++ quoted target) e
      return false
    | .ok t =>
      let _ ← Program.ask (.write t bytes)
      Program.ask (.close t)
      if let .ok { kind := .file _ true, .. } := ← status source then
        let _ ← Program.ask (.setExecutable ⟨target.toText⟩ true)
      return true

/-- Copy a file, or with `whole` a directory and at most `depth` levels below it. -/
def copyTree (whole : Bool) : Nat → Octets → Octets → Simple Bool
  | 0, _, _ => return true
  | depth + 1, source, target => do
    match ← status source with
    | .error e =>
      cannot "stat" source e
      return false
    | .ok { kind := .directory, place := inner, .. } =>
      if !whole then
        complain ("-r not specified; omitting directory ".toList ++ quoted source)
        return false
      let outer := ((← status (directoryOf target)).toOption.map (·.place)).getD []
      if inner.isPrefixOf outer then
        complain ("cannot copy a directory, ".toList ++ quoted source ++ ", into itself, ".toList ++
          quoted target)
        return false
      unless ← isDirectory target do
        let _ ← Program.ask (.createDir ⟨target.toText⟩)
      let results ← (← namesIn source).mapM fun name =>
        copyTree whole depth (under source name) (under target name)
      return results.all id
    | .ok s =>
      match ← status target with
      | .error .notADirectory =>
        cannot "stat" target .notADirectory
        return false
      | there =>
        if there.toOption.map (·.place) = some s.place then
          complain (quoted source ++ " and ".toList ++ quoted target ++ " are the same file".toList)
          return false
        copyContent source target

/-- Move a file or a directory. -/
def moveTree (source target : Octets) : Simple Bool := do
  match ← status source with
  | .error e =>
    cannot "stat" source e
    return false
  | .ok s =>
    if (← status target).toOption.map (·.place) = some s.place then
      complain (quoted source ++ " and ".toList ++ quoted target ++ " are the same file".toList)
      return false
    let failed (words : String) (e : Option IoError) : Simple Bool := do
      let reason := (e.map fun e => ": ".toList ++ e.words.toList).getD []
      complain (words.toList ++ reason)
      return false
    let both := quotedText source ++ " to " ++ quotedText target
    if s.kind != .directory && target.getLast? == some '/' then
      failed ("cannot move " ++ both) (some .notADirectory)
    else
      match ← Program.ask (.rename ⟨source.toText⟩ ⟨target.toText⟩) with
      | .ok () => return true
      | .error .invalidArgument =>
        failed ("cannot move " ++ quotedText source ++ " to a subdirectory of itself, " ++
          quotedText target) none
      | .error .notEmpty =>
        failed ("cannot overwrite " ++ quotedText target) (some .notEmpty)
      | .error e => failed ("cannot move " ++ both) (some e)
where
  quotedText (o : Octets) : String := String.ofList (quoted o)

/-- Carry out `f` from each operand but the last one to it, or into it if it is a directory. -/
def towards (operands : List Octets) (f : Octets → Octets → Simple Bool) : Simple Nat := do
  match operands with
  | [] => misused "missing file operand".toList
  | [o] => misused ("missing destination file operand after ".toList ++ quoted o)
  | os =>
    let target := os.getLastD []
    let sources := os.dropLast
    if ← isDirectory target then
      forOperands sources fun o => f o (under target (lastName o))
    else
      match sources with
      | [source] => return if ← f source target then 0 else 1
      | _ =>
        let e := match ← status target with
          | .error e => e
          | .ok _ => IoError.notADirectory
        complainOf ("target ".toList ++ quoted target) e
        return 1

def cp (args : List Octets) : Simple Nat :=
  reading ⟨"afprRv".toList, [("recursive", 'r'), ("verbose", 'v')]⟩ args fun a =>
    towards a.operands fun source target => do
      let done ← copyTree (a.has 'r' || a.has 'R' || a.has 'a') 256 source target
      if done && a.has 'v' then say (quoted source ++ " -> ".toList ++ quoted target ++ ['\n'])
      return done

def mv (args : List Octets) : Simple Nat :=
  reading ⟨"fv".toList, [("force", 'f'), ("verbose", 'v')]⟩ args fun a =>
    towards a.operands fun source target => do
      let done ← moveTree source target
      if done && a.has 'v' then
        say ("renamed ".toList ++ quoted source ++ " -> ".toList ++ quoted target ++ ['\n'])
      return done

/-! ## Permissions -/

/-- Whether a mode lets a file be executed, or nothing if it does not say so. -/
def executable? (mode : Octets) : Option (Option Bool) :=
  if !mode.isEmpty && mode.all fun c => '0' ≤ c && c ≤ '7' then
    some (some (mode.any fun c => c.toNat % 2 = 1))
  else
    (mode.splitOn ',').foldl (fun found clause =>
      let sign := clause.dropWhile "ugoa".toList.contains
      match found, sign with
      | some before, s :: letters =>
        if !"+-=".toList.contains s || !letters.all "rwxXst".toList.contains then none
        else if letters.contains 'x' then some (some (s != '-'))
        else if s == '=' then some (some false)
        else some before
      | _, _ => none) (some none)

/-- Change whether files can be executed. -/
def chmod (args : List Octets) : Simple Nat := do
  match args with
  | [] => misused "missing operand".toList
  | [mode] => misused ("missing operand after ".toList ++ quoted mode)
  | mode :: operands =>
    match executable? mode with
    | none => misused ("invalid mode: ".toList ++ quoted mode)
    | some wanted =>
      forOperands operands fun o => do
        match ← status o with
        | .error e =>
          cannot "access" o e
          return false
        | .ok _ =>
          if let some executable := wanted then
            let _ ← Program.ask (.setExecutable ⟨o.toText⟩ executable)
          return true

end ClusterHarness.Machine.Tool
