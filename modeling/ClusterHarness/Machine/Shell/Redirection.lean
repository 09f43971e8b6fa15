import ClusterHarness.Machine.Shell.Expansion

/-!
# Redirections

How the descriptors of a shell are made to name other files for the time of a command, and put back
after it. The words of all redirections are expanded before the first file is opened.
-/

namespace ClusterHarness.Machine.Shell.Redirection

/-- What a descriptor is to name, with all words expanded except that of a text. -/
inductive Target where
  | file (direction : Direction) (path : Octets)
  /-- What another descriptor names, or nothing. -/
  | copy (source : Option Nat)
  | text (word : Word)

/-- What the descriptors named that redirections changed, each with the descriptor that kept it if
it was open. -/
abbrev Kept := List (Nat × Option Nat)

/-- The descriptor that a word names. -/
def source (o : Octets) : Action (Option Nat) := do
  match o with
  | ['-'] => return none
  | [c] => if c.isDigit then return some (c.toNat - '0'.toNat)
  | _ => pure ()
  modify fun s => { s with line := s.lineRead }
  fail "Syntax error: Bad fd number".toList

/-- Expand the words of a redirection. -/
def target (output : Command → Action Octets) (r : Redirection) : Action (Nat × Target) := do
  match r with
  | .file descriptor direction w =>
    return (descriptor, .file direction (← Expansion.text output {} w))
  | .copy descriptor w =>
    return (descriptor, .copy (← source ((← Expansion.fields output w).headD [])))
  | .document descriptor number =>
    return (descriptor, .text ((← get).documents[number]?.getD []))

/-- Open a file, or complain and stop. -/
def openFile (direction : Direction) (path : Octets) : Action Nat := do
  let refused {α : Type} (purpose : String) (text : Octets) : Action α :=
    fail ("cannot ".toList ++ purpose.toList ++ [' '] ++ path ++ ": ".toList ++ text)
  let (access, creates) : Access × Bool :=
    match direction with
    | .input => (.read, false)
    | .append => (.append, true)
    | .both => (.both, true)
    | _ => (.replace, true)
  let creates ←
    if direction = .output && (← get).has 'C' then
      match ← ask (.inspect ⟨path.toText⟩) with
      | .ok { kind := .file .., .. } => refused "create" "File exists".toList
      | .ok _ => pure false
      | .error _ => pure true
    else pure creates
  match ← ask (.openFile ⟨path.toText⟩ access) with
  | .ok d => return d
  | .error e =>
    if creates then refused "create" (reasonOr "Directory nonexistent" e)
    else refused "open" (reasonOr "No such file" e)

/-- The most bytes of a text that a shell writes to a pipe before anybody reads. -/
def textLimit : Nat := 4096

/-- A descriptor from which the text can be read that an action gives. A long text is written by a
process of its own, which the signals of a keyboard do not end. -/
def openText (text : Action Octets) : Action Nat := do
  let (reader, writer) ← ask .pipe
  let o ← text
  if o.length ≤ textLimit then put writer o
  else
    let _ ← ExceptT.lift (Program.fork do
      Program.ask (.close reader)
      [Signal.hangup, Signal.interrupt, Signal.quit, Signal.keyboardStop].forM fun signal =>
        Program.ask (.handle signal .ignore)
      Program.ask (.handle Signal.brokenPipe .byDefault)
      Program.put writer o
      return 0)
  ask (.close writer)
  return reader

/-- Free a descriptor and keep what it named, unless that was done before. -/
def free (descriptor : Nat) (kept : Kept) : Action Kept := do
  if kept.any (·.1 == descriptor) then return kept
  let saved ← ask (.save descriptor)
  ask (.close descriptor)
  return (descriptor, saved.toOption) :: kept

/-- Carry out redirections in order, and give what went wrong with the first that fails. Nothing is
kept unless `keeps` says so. -/
def apply (output : Command → Action Octets) (keeps : Bool) :
    List (Nat × Target) → Kept → Action (Kept × Option Halt)
  | [], kept => return (kept, none)
  | (descriptor, t) :: rest, kept => do
    let opened (a : Action Nat) : Action (Except Halt Nat) :=
      tryCatch (return .ok (← a)) (return .error ·)
    let free : Action Kept := if keeps then free descriptor kept else return kept
    let placed (a : Action Nat) : Action (Kept × Option Halt) := do
      match ← opened a with
      | .error h => return (kept, some h)
      | .ok new =>
        if new = descriptor then
          let isKept := !keeps || kept.any (·.1 == descriptor)
          apply output keeps rest (if isKept then kept else (descriptor, none) :: kept)
        else
          let kept ← free
          let _ ← ask (.copy new descriptor)
          ask (.close new)
          apply output keeps rest kept
    match t with
    | .file direction path => placed (openFile direction path)
    | .text w => placed (openText (Expansion.text output { quoted := true } w))
    | .copy none =>
      let kept ← free
      ask (.close descriptor)
      apply output keeps rest kept
    | .copy (some d) =>
      if d = descriptor then apply output keeps rest kept
      else
        let kept ← free
        match ← ask (.copy d descriptor) with
        | .ok () => apply output keeps rest kept
        | .error e =>
          match ← opened (fail (Octets.ofNat d ++ ": ".toList ++ e.words.toList)) with
          | .ok _ => return (kept, none)
          | .error h => return (kept, some h)

/-- Put descriptors back, or with `drop` forget what they named. -/
def restore (drop : Bool) (kept : Kept) : Action Unit :=
  kept.forM fun (descriptor, saved) => do
    match saved with
    | some d =>
      unless drop do
        let _ ← ask (.copy d descriptor)
      ask (.close d)
    | none => unless drop do ask (.close descriptor)

/-- Carry out redirections for good, or stop. -/
def redirect (output : Command → Action Octets) (targets : List (Nat × Target)) : Action Unit := do
  if let some h := (← apply output false targets []).2 then throw h

/-- Carry out `a` under redirections, which are undone after it unless they are to stay. Without a
result they failed. While `a` is carried out, traces go where errors went before. -/
def within {α : Type} (output : Command → Action Octets) (stay : Bool)
    (targets : List (Nat × Target)) (a : Action α) : Action (Option α) := do
  let (kept, fault) ← apply output true targets []
  match fault with
  | some .failure =>
    restore stay kept
    setStatus 2
    return none
  | some h =>
    restore false kept
    throw h
  | none =>
    let before := (← get).traceTo
    modify fun s => { s with traceTo := ((kept.lookup 2).getD none).getD 2 }
    let r ← tryCatch a fun h => do
      restore false kept
      throw h
    modify fun s => { s with traceTo := before }
    restore stay kept
    return some r

end ClusterHarness.Machine.Shell.Redirection
