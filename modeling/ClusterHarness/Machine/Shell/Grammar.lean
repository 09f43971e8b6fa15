import ClusterHarness.Machine.Shell.Quoting

/-!
# Reading commands

The grammar of scripts: lists of pipelines, compound commands, functions and redirections. What
stands inside a command is read by `inner`, and the last definitions tie the knot with a bound on
commands inside each other.
-/

namespace ClusterHarness.Machine.Shell.Grammar

open Reader

/-- How a command inside another one is read. -/
abbrev Inner := Reading Command

/-! ## Tokens -/

def remember (t : Token) : Reading Token := do
  modify fun r => { r with token := t }
  return t

/-- Let the last token be read once more. -/
def again : Reading Unit := modify fun r => { r with again := true }

def expecting (c : Check) : Reading Unit := modify fun r => { r with check := c }

/-- Where a command begins, perhaps after line feeds. -/
def atCommand : Check := { skipNewlines := true, keyword := true, aliasing := true }

/-- The redirection after its operator, which `c` begins. -/
def redirectionAt (c : Char) (descriptor : Option Nat) : Reading Token := do
  let file (otherwise : Nat) (d : Direction) : Redirection :=
    .file (descriptor.getD otherwise) d []
  let set (r : Redirection) : Reading Token := do
    modify fun s => { s with redirection := r }
    remember .redirection
  let d ← nextJoined
  if c == '>' then
    match d with
    | some '>' => set (file 1 .append)
    | some '|' => set (file 1 .clobber)
    | some '&' => set (.copy (descriptor.getD 1) [])
    | d =>
      back d
      set (file 1 .output)
  else
    match d with
    | some '<' =>
      let e ← nextJoined
      unless e == some '-' do back e
      let number := (← get).documents.size
      modify fun s =>
        { s with
          documents := s.documents.push []
          announced := ⟨number, e == some '-', false, []⟩ }
      set (.document (descriptor.getD 0) number)
    | some '&' => set (.copy (descriptor.getD 0) [])
    | some '>' => set (file 0 .both)
    | d =>
      back d
      set (file 0 .input)

/-- The descriptor that may be written before the operator of a redirection. -/
def descriptor? (w : Word) : Option (Option Nat) :=
  match w with
  | [] => some none
  | [.char c false] => if c.isDigit then some (some (c.toNat - '0'.toNat)) else none
  | _ => none

/-- Skip blanks and remarks. -/
def skipBlanks : Nat → Reading (Option Char)
  | 0 => return none
  | fuel + 1 => do
    match ← nextJoined with
    | some ' ' => skipBlanks fuel
    | some '\t' => skipBlanks fuel
    | some '#' =>
      skipRemark bound
      skipBlanks fuel
    | c => return c
where
  skipRemark : Nat → Reading Unit
    | 0 => return
    | fuel + 1 => do
      match ← next with
      | some '\n' => back (some '\n')
      | none => return
      | some _ => skipRemark fuel

/-- The next token, without a look at its words. -/
def rawToken (n : Nested) : Reading Token := do
  let r ← get
  if r.again then
    set { r with again := false }
    return r.token
  let double (c : Char) (one two : Token) : Reading Token := do
    let d ← nextJoined
    if d == some c then return ← remember two
    back d
    remember one
  match ← skipBlanks bound with
  | none => remember .endOfFile
  | some '\n' =>
    countLine
    remember .newline
  | some '&' => double '&' .ampersand .and
  | some '|' => double '|' .pipe .or
  | some ';' => double ';' .semicolon .armEnd
  | some '(' => remember .opening
  | some ')' => remember .closing
  | c => do
    let (c, s) ← Quoting.read n .plain none c
    let word := s.word
    match c, if s.quoted then none else descriptor? word with
    | some '>', some d => redirectionAt '>' d
    | some '<', some d => redirectionAt '<' d
    | c, _ =>
      back c
      modify fun r => { r with word, quoted := s.quoted }
      remember .word

/-- Read the texts that are awaited. -/
def texts (n : Nested) : Reading Unit := do
  let awaited := (← get).awaited
  modify fun r => { r with awaited := [] }
  awaited.forM fun a => do
    let style : Style := if a.literal then .single else .double
    let c ← if a.literal then next else nextJoined
    let (_, s) ← Quoting.read n style (some (a.mark, a.indented)) c
    modify fun r => { r with documents := r.documents.setIfInBounds a.number s.word }

/-- The next token, where a word may be a keyword or an alias. -/
def tokenWithin (n : Nested) : Nat → Check → Reading Token
  | 0, _ => fail .tooDeep
  | fuel + 1, check => do
    let t ← rawToken n
    if check.skipNewlines && t == .newline then
      texts n
      tokenWithin n fuel check
    else
      let r ← get
      let aliased := check.aliasing || r.check.aliasing
      set { r with check := {} }
      if t != .word || r.quoted then return t
      match r.word.plain? with
      | none => return t
      | some o =>
        if check.keyword then
          if let some t := Token.keyword? o then return ← remember t
        match r.aliases.lookup o with
        | none => return t
        | some text =>
          if !aliased || r.inUse.contains o then return t
          unless text.isEmpty do pushAlias o text
          tokenWithin n fuel check

def token (n : Nested) : Reading Token := do tokenWithin n bound (← get).check

/-- Complain of the last token. -/
def unexpected {α : Type} (expected : Option Token) : Reading α := do
  fail (.unexpected (← get).token expected)

def expect (n : Nested) (t : Token) : Reading Unit := do
  if (← token n) != t then unexpected (some t)

/-! ## Redirections -/

/-- Read the word after the operator of a redirection. -/
def target (n : Nested) : Reading Redirection := do
  let redirection := (← get).redirection
  let announced := (← get).announced
  if let .document .. := redirection then
    modify fun r => { r with check := { r.check with endMark := true } }
  if (← token n) != .word then unexpected none
  let r ← get
  match redirection with
  | .file descriptor direction _ => return .file descriptor direction r.word
  | .copy descriptor _ => return .copy descriptor r.word
  | .document descriptor number =>
    set { r with
      awaited := r.awaited ++ [{ announced with literal := r.quoted, mark := r.word.characters }] }
    return .document descriptor number

/-- The redirections after a compound command. -/
def redirections (n : Nested) : Nat → Reading (List Redirection)
  | 0 => fail .tooDeep
  | fuel + 1 => do
    if (← token n) == .redirection then
      let r ← target n
      return r :: (← redirections n fuel)
    again
    return []

/-! ## Lists -/

def pipelineRest (n : Nested) (inner : Inner) : Nat → Reading (List Command)
  | 0 => fail .tooDeep
  | fuel + 1 => do
    if (← token n) == .pipe then
      expecting atCommand
      let c ← inner
      return c :: (← pipelineRest n inner fuel)
    again
    return []

def pipeline (n : Nested) (inner : Inner) : Reading Command := do
  let negated := (← token n) == .not
  if negated then expecting { keyword := true, aliasing := true } else again
  let first ← inner
  let rest ← pipelineRest n inner bound
  let c := if rest.isEmpty then first else .pipeline (first :: rest) false
  return if negated then .negation c else c

def conditional (n : Nested) (inner : Inner) : Nat → Command → Reading Command
  | 0, _ => fail .tooDeep
  | fuel + 1, left => do
    match ← token n with
    | .and =>
      expecting atCommand
      conditional n inner fuel (.conjunction left (← pipeline n inner))
    | .or =>
      expecting atCommand
      conditional n inner fuel (.disjunction left (← pipeline n inner))
    | _ =>
      again
      return left

/-- A command that is followed by an ampersand. -/
def inBackground (c : Command) : Command :=
  match c with
  | .pipeline parts _ => .pipeline parts true
  | .redirected line (some body) rs => .background line body rs
  | c => .background 0 c []

/-- Where a list of commands ends. -/
inductive Extent where
  /-- After one line of a script. -/
  | line
  /-- Before a token that ends lists, with at least one command. -/
  | inside
  /-- Before a token that ends lists. -/
  | mayBeEmpty
deriving DecidableEq, Repr

/-- What a list gives: its commands, or the end of the script in their place. -/
inductive Listed where
  | commands (c : Option Command)
  | nothingLeft

/-- The commands of a list after those read already. -/
def listFrom (n : Nested) (inner : Inner) (extent : Extent) :
    Nat → Bool → Option Command → Reading Listed
  | 0, _, _ => fail .tooDeep
  | fuel + 1, mayEnd, before => do
    expecting { atCommand with skipNewlines := extent != .line }
    let atEnd (c : Option Command) : Reading Listed := do
      texts n
      modify fun r => { r with token := .endOfFile, again := true }
      return if c.isNone && extent = .line then .nothingLeft else .commands c
    match ← token n with
    | .newline =>
      texts n
      return .commands before
    | .endOfFile => atEnd before
    | t =>
      again
      if mayEnd && t.endsList then return .commands before
      let c ← conditional n inner bound (← pipeline n inner)
      let end_ ← token n
      let c := if end_ == .ampersand then inBackground c else c
      let all := match before with
        | none => c
        | some b => .sequence b c
      match end_ with
      | .endOfFile => atEnd (some all)
      | .newline =>
        again
        listFrom n inner extent fuel (extent != .line) (some all)
      | .ampersand => listFrom n inner extent fuel (extent != .line) (some all)
      | .semicolon => listFrom n inner extent fuel (extent != .line) (some all)
      | _ =>
        if extent = .line then unexpected none
        again
        return .commands (some all)

def list (n : Nested) (inner : Inner) (extent : Extent) : Reading (Option Command) := do
  match ← listFrom n inner extent bound (extent = .mayBeEmpty) none with
  | .commands c => return c
  | .nothingLeft => return none

/-- The next commands of a script, up to the end of a line; none at the end of the script. -/
def line (n : Nested) (inner : Inner) : Reading Listed := do
  modify fun r => { r with again := false, check := {}, awaited := [] }
  listFrom n inner .line bound false none

/-! ## Commands -/

/-- The names of the builtins that no function can replace. -/
def specialBuiltins : List String :=
  [".", ":", "break", "continue", "eval", "exec", "exit", "export", "local", "readonly", "return",
    "set", "shift", "times", "trap", "unset"]

/-- A simple command, or the definition of a function. -/
def simple (n : Nested) (inner : Inner) : Reading Command := do
  go bound (← get).line true [] [] []
where
  go : Nat → Nat → Bool → List Word → List Word → List Redirection → Reading Command
    | 0, _, _, _, _, _ => fail .tooDeep
    | fuel + 1, line, first, assignments, words, rs => do
      expecting { aliasing := first }
      match ← token n, words, assignments, rs with
      | .word, _, _, _ =>
        let w := (← get).word
        if first && w.isAssignment then go fuel line first (w :: assignments) words rs
        else go fuel line false assignments (w :: words) rs
      | .redirection, _, _, _ =>
        let r ← target n
        go fuel line first assignments words (r :: rs)
      | .opening, [name], [], [] =>
        expect n .closing
        match name.plain? with
        | some o =>
          if isName o && !specialBuiltins.contains (String.ofList o) then
            expecting atCommand
            return .define o (← inner)
          fail .functionName
        | none => fail .functionName
      | _, _, _, _ =>
        again
        return .simple line assignments.reverse words.reverse rs.reverse

/-- The branches after the condition of a choice and its first alternative. -/
def otherwise (n : Nested) (inner : Inner) : Nat → Reading (Option Command)
  | 0 => fail .tooDeep
  | fuel + 1 => do
    match ← token n with
    | .elif =>
      let condition ← list n inner .inside
      expect n .then
      let yes ← list n inner .inside
      return some (.choice condition yes (← otherwise n inner fuel))
    | .else => list n inner .inside
    | _ =>
      again
      return none

/-- Words up to a token that is none. -/
def words (n : Nested) : Nat → Reading (List Word)
  | 0 => fail .tooDeep
  | fuel + 1 => do
    if (← token n) == .word then
      let w := (← get).word
      return w :: (← words n fuel)
    return []

def forEach (n : Nested) (inner : Inner) (line : Nat) : Reading Command := do
  let t ← token n
  let name := (← get).word.plain?.filter isName
  match if t == .word && !(← get).quoted then name else none with
  | none => fail .loopVariable
  | some name =>
    expecting atCommand
    let ws ←
      if (← token n) == .in then do
        let ws ← words n bound
        let t := (← get).token
        if t != .newline && t != .semicolon then unexpected none
        pure (some ws)
      else do
        if (← get).token != .semicolon then again
        pure none
    expecting atCommand
    expect n .do
    return .forEach line name ws (← list n inner .inside)

/-- The patterns of an arm; the last word read is the first of them. -/
def patterns (n : Nested) : Nat → Reading (List Word)
  | 0 => fail .tooDeep
  | fuel + 1 => do
    let w := (← get).word
    if (← token n) == .pipe then
      let _ ← token n
      return w :: (← patterns n fuel)
    return [w]

/-- The arms of a selection, up to its end. -/
def arms (n : Nested) (inner : Inner) : Nat → Reading (List (List Word × Option Command))
  | 0 => fail .tooDeep
  | fuel + 1 => do
    let atArm : Check := { skipNewlines := true, keyword := true }
    expecting atArm
    let t ← token n
    if t == .esac then return []
    if t == .opening then
      let _ ← token n
    let ps ← patterns n bound
    if (← get).token != .closing then unexpected (some .closing)
    let body ← list n inner .mayBeEmpty
    expecting atArm
    match ← token n with
    | .esac => return [(ps, body)]
    | .armEnd => return (ps, body) :: (← arms n inner fuel)
    | _ => unexpected (some .armEnd)

def select (n : Nested) (inner : Inner) (line : Nat) : Reading Command := do
  expect n .word
  let w := (← get).word
  expecting atCommand
  expect n .in
  return .select line w (← arms n inner bound)

/-- A command, where `inner` reads the commands inside it. -/
def commandStep (n : Nested) (inner : Inner) : Reading Command := do
  let line := (← get).line
  let ending (end_ : Option Token) : Reading (List Redirection) := do
    if let some t := end_ then expect n t
    expecting { keyword := true, aliasing := true }
    redirections n bound
  let finish (c : Command) (end_ : Option Token) : Reading Command := do
    let rs ← ending end_
    return if rs.isEmpty then c else .redirected line (some c) rs
  match ← token n with
  | .if =>
    let condition ← list n inner .inside
    expect n .then
    let yes ← list n inner .inside
    finish (.choice condition yes (← otherwise n inner bound)) (some .fi)
  | .while =>
    let condition ← list n inner .inside
    expect n .do
    finish (.loop false condition (← list n inner .inside)) (some .done)
  | .until =>
    let condition ← list n inner .inside
    expect n .do
    finish (.loop true condition (← list n inner .inside)) (some .done)
  | .for => finish (← forEach n inner line) (some .done)
  | .case => finish (← select n inner line) none
  | .opening =>
    let body ← list n inner .inside
    return .subshell line body (← ending (some .closing))
  | .openBrace =>
    match ← list n inner .inside with
    | some c => finish c (some .closeBrace)
    | none => return .redirected line none (← ending (some .closeBrace))
  | .word =>
    again
    simple n inner
  | .redirection =>
    again
    simple n inner
  | _ => unexpected none

/-- How the commands of substitutions are read. -/
def substitutions (read : Nested → Inner) (n : Nested) : Nested where
  toEnd := list n (read n) .mayBeEmpty
  toParenthesis := do
    let c ← list n (read n) .mayBeEmpty
    expect n .closing
    let before ← get
    modify fun r => { r with input := [] }
    texts n
    modify fun r => { r with input := before.input, ranOut := before.ranOut }
    return c

/-- A command with at most so many commands inside each other. -/
def command : Nat → Nested → Inner
  | 0, _ => fail .tooDeep
  | depth + 1, n => commandStep n (command depth n)

/-- The most commands inside each other. -/
def depthLimit : Nat := 2000

/-- How substitutions inside each other are read. -/
def nested : Nat → Nested
  | 0 => ⟨fail .tooDeep, fail .tooDeep⟩
  | depth + 1 => substitutions (command depthLimit) (nested depth)

end Grammar

/-- The next commands of a script. -/
def nextCommands : Reading Grammar.Listed :=
  let n := Grammar.nested Grammar.depthLimit
  Grammar.line n (Grammar.command Grammar.depthLimit n)

/-- The word that a text makes when it is read between double quotes. -/
def quotedText : Reading Word := do
  let n := Grammar.nested Grammar.depthLimit
  let (_, s) ← Quoting.read n .double (some (['\x00'], false)) (← Reader.nextJoined)
  return s.word

end ClusterHarness.Machine.Shell
