import ClusterHarness.Machine.Shell.Reader

/-!
# Reading words

How the characters of a script make up a word: quotations, parameters, expressions and commands in
it, each of which may hold the others. The word of a parameter and an expression are read in a frame
of their own, which says which characters are special there.
-/

namespace ClusterHarness.Machine.Shell

/-- Which characters are special. -/
inductive Style where
  | plain
  | double
  | single
  | arithmetic
deriving DecidableEq, Repr, Inhabited

/-- What surrounds the character that is read. -/
structure Frame where
  style : Style := .plain
  /-- How many words of parameters are open, and how many of them were opened between quotes. -/
  parameters : Nat := 0
  quotedParameters : Nat := 0
  parentheses : Nat := 0
  isDouble : Bool := false
  /-- A quotation is open inside the word of a parameter. -/
  innerQuotation : Bool := false
  /-- The frame ends with the word that it was made for. -/
  ownWord : Bool := false
deriving Inhabited

/-- A piece of a word, in which parameters and expressions are marked at both ends. -/
inductive Piece where
  | part (p : Part)
  | parameter (name : Octets) (use : Use) (emptyCounts : Bool)
  | expression
  | close
deriving Inhabited

/-- A word that is being read: its pieces, the latest first. -/
structure Scan where
  frame : Frame := {}
  outer : List Frame := []
  pieces : List Piece := []
  quoted : Bool := false
deriving Inhabited

namespace Scan

def emit (s : Scan) (p : Part) : Scan := { s with pieces := .part p :: s.pieces }

def emitChar (s : Scan) (c : Char) (quoted : Bool) : Scan := s.emit (.char c quoted)

/-- A character that is not special where it stands. -/
def ordinary (s : Scan) (c : Char) : Scan :=
  s.emitChar c (s.frame.style == .double || s.frame.style == .single)

def inFrame (s : Scan) (f : Frame → Frame) : Scan := { s with frame := f s.frame }

def push (s : Scan) (f : Frame) : Scan := { s with frame := f, outer := s.frame :: s.outer }

def pop (s : Scan) : Scan :=
  match s.outer with
  | f :: rest => { s with frame := f, outer := rest }
  | [] => s

/-- The parts of a word, from its pieces in order and the openings before them, the latest first,
with what came before each. -/
def nest : List (Piece × List Part) → List Part → List Piece → List Part
  | [], parts, [] => parts.reverse
  | (opening, before) :: outer, parts, [] => nest outer (finish opening parts :: before) []
  | open_, parts, .part p :: rest => nest open_ (p :: parts) rest
  | (opening, before) :: outer, parts, .close :: rest =>
    nest outer (finish opening parts :: before) rest
  | [], parts, .close :: rest => nest [] parts rest
  | open_, parts, opening :: rest => nest ((opening, parts) :: open_) [] rest
termination_by open_ _ ps => (ps.length, open_.length)
where
  /-- The part that an opening and the parts after it, the latest first, make. -/
  finish (opening : Piece) (parts : List Part) : Part :=
    match opening with
    | .parameter name use emptyCounts => .parameter name use emptyCounts parts.reverse
    | _ => .arithmetic parts.reverse

def word (s : Scan) : Word := nest [] [] s.pieces.reverse

end Scan

/-- How commands inside a word are read: up to the end of the input, and up to the closing
parenthesis. -/
structure Nested where
  toEnd : Reading (Option Command)
  toParenthesis : Reading (Option Command)

namespace Quoting

open Reader

/-! ## Commands in words -/

/-- The text up to the closing backquote. -/
def backquoted (isDouble : Bool) : Nat → Octets → Reading Octets
  | 0, _ => fail .tooDeep
  | fuel + 1, text => do
    match ← nextJoined with
    | none => fail .openBackquote
    | some '\x60' => return text.reverse
    | some '\\' =>
      match ← next with
      | none => backquoted isDouble fuel ('\\' :: text)
      | some c =>
        if c == '\\' || c == '\x60' || c == '$' || (isDouble && c == '"') then
          backquoted isDouble fuel (c :: text)
        else backquoted isDouble fuel (c :: '\\' :: text)
    | some c =>
      if c == '\n' then countLine
      backquoted isDouble fuel (c :: text)

/-- Read the command of a substitution, where texts that are awaited outside stay so. -/
def substituted (a : Reading (Option Command)) : Reading Part := do
  let awaited := (← get).awaited
  modify fun r => { r with awaited := [] }
  let command ← a
  modify fun r => { r with awaited }
  return .output command

/-! ## Parameters -/

/-- Characters up to the first that does not belong to them. -/
def run (belongs : Char → Bool) : Nat → Octets → Option Char → Reading (Octets × Option Char)
  | 0, o, c => return (o.reverse, c)
  | fuel + 1, o, c => do
    match c with
    | some d =>
      if belongs d then run belongs fuel (d :: o) (← nextJoined) else return (o.reverse, c)
    | none => return (o.reverse, c)

def isSpecial (c : Char) : Bool := "!#$*-?@".toList.contains c || c.isDigit

/-- What is made of the parameter, from the character after its name on. -/
def use (c : Option Char) : Reading (Use × Bool) := do
  let plain (c : Option Char) : Use :=
    match c with
    | some '\x7d' => .value
    | some '-' => .default
    | some '+' => .alternative
    | some '?' => .demand
    | some '=' => .assign
    | _ => .nothing
  let trim (mark : Char) (make : Bool → Use) : Reading (Use × Bool) := do
    let d ← nextJoined
    if d == some mark then return (make true, false)
    back d
    return (make false, false)
  match c with
  | some ':' => return (plain (← nextJoined), true)
  | some '%' => trim '%' .trimEnd
  | some '#' => trim '#' .trimStart
  | c => return (plain c, false)

/-- The name of a parameter in braces and what is made of it. -/
def braced : Reading (Octets × Use × Bool) := do
  let name (c : Option Char) : Reading (Option (Octets × Option Char)) := do
    if c.any isNameStart then return some (← run isNameChar bound [] c)
    if c.any Char.isDigit then return some (← run Char.isDigit bound [] c)
    return none
  let used (found : Octets × Option Char) : Reading (Octets × Use × Bool) :=
    return (found.1, ← use found.2)
  let nothing (c : Option Char) : Reading (Octets × Use × Bool) := do
    back c
    return ([], .nothing, false)
  let special (c d : Option Char) : Reading (Octets × Use × Bool) := do
    match c with
    | some c => if isSpecial c then used ([c], d) else nothing d
    | none => nothing d
  let c ← nextJoined
  if let some found ← name c then return ← used found
  match c with
  | some '\x7d' => nothing c
  | some '#' =>
    let d ← nextJoined
    if let some (found, e) ← name d then
      back e
      return (found, .length, false)
    let e ← nextJoined
    if d == some '\x7d' || e != some '\x7d' then
      back e
      special (some '#') d
    else
      match d with
      | some d =>
        if isSpecial d then
          back e
          return ([d], .length, false)
        nothing e
      | none => nothing e
  | c => special c (← nextJoined)

/-- Read what follows a dollar sign. -/
def dollar (n : Nested) (s : Scan) : Reading Scan := do
  let literal := (← get).check.endMark
  let c ← nextJoined
  let begins (c : Char) : Bool := c == '(' || c == '\x7b' || isNameStart c || isSpecial c
  if literal || !c.any begins then
    back c
    return s.emitChar '$' s.frame.isDouble
  match c with
  | some '(' =>
    let d ← nextJoined
    if d == some '(' then
      return { s with pieces := .expression :: s.pieces }.push
        { style := .arithmetic, isDouble := true }
    back d
    return s.emit (← substituted n.toParenthesis)
  | some '\x7b' =>
    let (name, use, emptyCounts) ← braced
    if use = .value && !emptyCounts then return s.emit (.parameter name .value false [])
    let f := s.frame
    let style : Style :=
      match use with
      | .trimEnd _ => .plain
      | .trimStart _ => .plain
      | _ => if f.style = .arithmetic then .double else f.style
    let s := { s with pieces := .parameter name use emptyCounts :: s.pieces }
    let s :=
      if style != f.style || f.innerQuotation then
        s.push { style, isDouble := style != .plain, ownWord := true }
      else s
    return s.inFrame fun f =>
      { f with
        parameters := f.parameters + 1
        quotedParameters := f.quotedParameters + if f.isDouble then 1 else 0 }
  | c =>
    if c.any isNameStart then
      let (name, d) ← run isNameChar bound [] c
      back d
      return s.emit (.parameter name .value false [])
    return s.emit (.parameter c.toList .value false [])

/-! ## Words -/

/-- Whether a line of a text is its end mark, given the first character of the line. Gives the
character to go on with. -/
def endsText (mark : Octets) (indented : Bool) (c : Option Char) : Reading (Option Char) := do
  let c ← if indented then skipTabs bound c else pure c
  compare mark [] c
where
  skipTabs : Nat → Option Char → Reading (Option Char)
    | 0, c => return c
    | fuel + 1, c => do if c == some '\t' then skipTabs fuel (← next) else return c
  compare : Octets → Octets → Option Char → Reading (Option Char)
    | [], seen, c => do
      if c.any (· != '\n') then differs seen c
      else
        countLine
        return none
    | m :: ms, seen, c => do
      if c == some m then compare ms (m :: seen) (← next) else differs seen c
  differs (seen : Octets) (c : Option Char) : Reading (Option Char) := do
    back c
    seen.forM fun d => back (some d)
    next

/-- The next character, as the style of the frame asks for. -/
def nextIn (s : Scan) : Reading (Option Char) :=
  if s.frame.style = .single then next else nextJoined

/-- Read the character after a backslash. -/
def escaped (text : Bool) (s : Scan) : Reading Scan := do
  match ← next with
  | none => return s.emitChar '\\' true
  | some c =>
    let f := s.frame
    let kept := f.isDouble && c != '\\' && c != '\x60' && c != '$' &&
      (c != '"' || (text && f.parameters = 0)) && (c != '\x7d' || f.parameters = 0)
    let s := if kept then s.emitChar '\\' true else s
    return { s.emitChar c true with quoted := true }

/-- A quotation begins or ends, in a word but not in a text. -/
def quotationMark (text : Bool) (s : Scan) : Scan := if text then s else s.emit .mark

/-- Read the character at a double quote, where a quotation is open. -/
def endDouble (text : Bool) (s : Scan) : Scan :=
  let f := s.frame
  if text && f.parameters = 0 then s.emitChar '"' true
  else
    let f := if f.quotedParameters = 0 then { f with style := .plain, isDouble := false } else f
    let f := if 0 < f.parameters then { f with innerQuotation := !f.innerQuotation } else f
    quotationMark text { s with frame := f, quoted := true }

/-- Read a closing brace. -/
def endParameter (s : Scan) : Scan :=
  let f := s.frame
  if f.innerQuotation || f.parameters = 0 then s.ordinary '\x7d'
  else
    let closed := { s with pieces := .close :: s.pieces }
    if f.parameters = 1 && f.ownWord then closed.pop
    else closed.inFrame fun f =>
      { f with parameters := f.parameters - 1, quotedParameters := f.quotedParameters - 1 }

/-- Read a closing parenthesis in an expression. -/
def endExpression (s : Scan) : Reading Scan := do
  if 0 < s.frame.parentheses then
    return (s.emitChar ')' false).inFrame fun f => { f with parentheses := f.parentheses - 1 }
  let c ← nextJoined
  if c == some ')' then return { s with pieces := .close :: s.pieces }.pop
  back c
  return s.emitChar ')' false

/-- Read the characters of a word from `c` on, up to the one that ends it. A text ends with a line
of its own, which `mark` gives. -/
def scan (n : Nested) (mark : Option (Octets × Bool)) :
    Nat → Bool → Option Char → Scan → Reading (Option Char × Scan)
  | 0, _, _, _ => fail .tooDeep
  | fuel + 1, lineStart, c, s => do
    let c ←
      match mark with
      | some (m, indented) => if lineStart then endsText m indented c else pure c
      | none => pure c
    let go (s : Scan) : Reading (Option Char × Scan) := do
      scan n mark fuel false (← nextIn s) s
    let f := s.frame
    let text := mark.isSome
    match c, f.style with
    | none, _ => return (c, s)
    | some '\n', style =>
      if style = .plain && f.parameters = 0 then return (c, s)
      countLine
      let s := s.ordinary '\n'
      scan n mark fuel true (← nextIn s) s
    | some '\'', .single =>
      let f := if f.quotedParameters = 0 then { f with style := .plain, isDouble := false } else f
      if text && s.frame.parameters = 0 then go (s.emitChar '\'' true)
      else go (quotationMark text { s with frame := f, quoted := true })
    | some c, .single => go (s.ordinary c)
    | some '\\', _ => go (← escaped text s)
    | some '$', _ => go (← dollar n s)
    | some '\x7d', _ => go (endParameter s)
    | some '\x60', _ =>
      if (← get).check.endMark then go (s.emitChar '\x60' false)
      else
        let script ← backquoted f.isDouble bound []
        go (s.emit (← substituted (within script n.toEnd)))
    | some '\'', .plain => go (quotationMark text (s.inFrame ({ · with style := .single })))
    | some '"', .plain =>
      go (quotationMark text (s.inFrame fun f =>
        { f with
          style := .double
          isDouble := true
          innerQuotation := if 0 < f.parameters then !f.innerQuotation else f.innerQuotation }))
    | some '"', .double => go (endDouble text s)
    | some '(', .arithmetic =>
      go ((s.emitChar '(' false).inFrame fun f => { f with parentheses := f.parentheses + 1 })
    | some ')', .arithmetic => go (← endExpression s)
    | some c, .plain =>
      if "<>();&| \t".toList.contains c && f.parameters = 0 then return (some c, s)
      go (s.ordinary c)
    | some c, _ => go (s.ordinary c)

/-- Read a word or a text from `c` on, and give the character that ended it. -/
def read (n : Nested) (style : Style) (mark : Option (Octets × Bool)) (c : Option Char) :
    Reading (Option Char × Scan) := do
  let (c, s) ← scan n mark bound true c { frame := { style, isDouble := style == .double } }
  if s.frame.style = .arithmetic then fail .openExpression
  if s.frame.style != .plain && mark.isNone then fail .openQuotation
  if s.frame.parameters != 0 then fail .openParameter
  return (c, s)

end Quoting
end ClusterHarness.Machine.Shell
