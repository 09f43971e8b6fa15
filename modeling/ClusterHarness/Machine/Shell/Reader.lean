import ClusterHarness.Machine.Shell.Token

/-!
# Reading scripts

The state of reading a script character by character: what is left of it, the line, the token that
was read last and may be read again, aliases that were put in the place of words, and texts that
the script promises to bring on its next lines.
-/

namespace ClusterHarness.Machine.Shell

/-- What stands in the input: a character, or the end of the text of an alias. -/
inductive Symbol where
  | char (c : Char)
  /-- With `blank` the next word may be an alias, too. -/
  | aliasEnd (name : Octets) (blank : Bool)
deriving DecidableEq, Repr

/-- What the next token is looked at for. -/
structure Check where
  skipNewlines : Bool := false
  keyword : Bool := false
  aliasing : Bool := false
  /-- The token is the end mark of a text: nothing is expanded in it. -/
  endMark : Bool := false
deriving Repr, Inhabited

/-- A text that a redirection reads from and that stands on the next lines. -/
structure Awaited where
  number : Nat
  /-- Whether tabs before a line do not belong to it. -/
  indented : Bool
  /-- Whether the text is taken as it is. -/
  literal : Bool := false
  mark : Octets := []
deriving Repr, Inhabited

structure Reader where
  input : List Symbol
  line : Nat := 1
  aliases : List (Octets × Octets) := []
  /-- The aliases whose texts are being read. -/
  inUse : List Octets := []
  /-- Those of which the text was read to its end by the last character. -/
  leaving : List Octets := []
  check : Check := {}
  /-- The token that was read last, and whether it is to be read again. -/
  token : Token := .endOfFile
  again : Bool := false
  /-- The word that was read last, and whether a part of it was quoted. -/
  word : Word := []
  quoted : Bool := false
  redirection : Redirection := default
  /-- The text that the redirection announces. -/
  announced : Awaited := ⟨0, false, false, []⟩
  awaited : List Awaited := []
  documents : Array Word := #[]
  /-- Whether a character was asked for after the last one. -/
  ranOut : Bool := false
deriving Inhabited

/-- A step of reading a script, which may find a fault. -/
abbrev Reading := EStateM Fault Reader

namespace Reader

/-- A reader at the start of a script. -/
def ofOctets (o : Octets) : Reader := { input := o.map .char }

def fail {α : Type} (f : Fault) : Reading α := throw f

/-- The most steps of one loop. -/
def bound : Nat := 10000000

/-- Skip ends of aliases, which stay in use until another character is asked for. -/
def leaveAliases : Nat → Reading Unit
  | 0 => return
  | fuel + 1 => do
    let r ← get
    match r.input with
    | .aliasEnd name blank :: rest =>
      set { r with
        input := rest
        leaving := name :: r.leaving
        check := { r.check with aliasing := r.check.aliasing || blank } }
      leaveAliases fuel
    | _ => return

/-- The next character, if there is one. -/
def next : Reading (Option Char) := do
  modify fun r =>
    if r.leaving.isEmpty then r
    else { r with inUse := r.inUse.filter (!r.leaving.contains ·), leaving := [] }
  leaveAliases bound
  let r ← get
  match r.input with
  | .char c :: rest =>
    set { r with input := rest }
    return some c
  | _ =>
    set { r with ranOut := true }
    return none

/-- Put a character back. -/
def back : Option Char → Reading Unit
  | some c => modify fun r => { r with input := .char c :: r.input }
  | none => return

def countLine : Reading Unit := modify fun r => { r with line := r.line + 1 }

/-- The next character, where a line feed after a backslash joins two lines. -/
def nextJoined : Reading (Option Char) := go bound
where
  go : Nat → Reading (Option Char)
    | 0 => return none
    | fuel + 1 => do
      match ← next with
      | some '\\' =>
        match ← next with
        | some '\n' =>
          countLine
          go fuel
        | d =>
          back d
          return some '\\'
      | c => return c

/-- Put the text of an alias in the place of its name. -/
def pushAlias (name text : Octets) : Reading Unit :=
  modify fun r =>
    let blank := text.getLast?.any fun c => c == ' ' || c == '\t'
    { r with
      input := text.map .char ++ .aliasEnd name blank :: r.input
      inUse := name :: r.inUse }

/-- Read some other text with `a` in the place of the script, and go on with the script. -/
def within {α : Type} (text : Octets) (a : Reading α) : Reading α := do
  let before ← get
  modify fun r => { r with input := text.map .char, line := 1, again := false }
  let result ← a
  modify fun r =>
    { r with input := before.input, line := before.line, again := false, ranOut := before.ranOut }
  return result

end Reader
end ClusterHarness.Machine.Shell
