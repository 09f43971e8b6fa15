import ClusterHarness.Machine.Task

/-!
# Conditions

The conditions that scripts test: properties of paths and of texts, comparisons, and their
combinations. Up to four words are read by their number, more of them by the rank of the signs
between them.
-/

namespace ClusterHarness.Machine.Condition

variable {σ : Type}

/-- A sign in a condition. -/
inductive Sign where
  | either
  | both
  | not
  | opening
  | closing
  /-- An operator before one operand. -/
  | property (letter : Char)
  /-- An operator between two operands. -/
  | comparison (name : String)
deriving DecidableEq, Repr

def comparisons : List String :=
  ["=", "!=", "<", ">", "-eq", "-ne", "-ge", "-gt", "-le", "-lt", "-nt", "-ot", "-ef"]

/-- The sign that a word is, wherever it stands. -/
def sign? (o : Octets) : Option Sign :=
  match o with
  | ['!'] => some .not
  | ['('] => some .opening
  | [')'] => some .closing
  | ['-', 'a'] => some .both
  | ['-', 'o'] => some .either
  | ['-', c] =>
    if "rwxefdcbpugkshLSOGzntk".toList.contains c then some (.property c) else none
  | o =>
    let name := String.ofList o
    if comparisons.contains name then some (.comparison name) else none

def isComparison (o : Octets) : Bool :=
  match sign? o with
  | some (.comparison _) => true
  | _ => false

/-- The sign at the start of some words. An operator may be an operand where no operand follows it
or where it is compared. -/
def signAt? (ws : List Octets) : Option Sign :=
  match ws with
  | [] => none
  | w :: rest =>
    match sign? w, rest with
    | some (.property _), [] => none
    | some (.property c), [_] => some (.property c)
    | some (.property c), next :: _ => if isComparison next then none else some (.property c)
    | some .opening, [] => none
    | s, _ => s

/-- What tests a condition, of which it takes the words, or says what is wrong with them. -/
abbrev Testing (σ : Type) := StateT (List Octets) (ExceptT Octets (Program σ))

def ask (r : Request) : Testing σ r.Answer :=
  StateT.lift (ExceptT.lift (Program.ask r))

def wrong {α : Type} (at_ : Octets) (text : String) : Testing σ α :=
  throw (if at_.isEmpty then text.toList else at_ ++ ": ".toList ++ text.toList)

/-- The number that an operand is. -/
def number (o : Octets) : Testing σ Int :=
  match Octets.toInt? 10 o with
  | some n => return n
  | none => throw ("Illegal number: ".toList ++ o)

def status? (o : Octets) : Testing σ (Option FileStatus) := do
  match ← ask (.inspect ⟨o.toText⟩) with
  | .ok s => return some s
  | .error _ => return none

/-- Whether a path, or a text, has a property. -/
def holds (property : Char) (operand : Octets) : Testing σ Bool := do
  match property with
  | 'n' => return !operand.isEmpty
  | 'z' => return operand.isEmpty
  | 't' =>
    let _ ← number operand
    return false
  | c =>
    match ← status? operand, c with
    | none, _ => return false
    | some s, c =>
      match c, s.kind with
      | 'd', kind => return kind == .directory
      | 'f', .file .. => return true
      | 'c', kind => return kind == .device
      | 'p', kind => return kind == .pipe
      | 'x', .file _ executable => return executable
      | 'x', kind => return kind == .directory
      | 's', .file size _ => return size != 0
      | 's', kind => return kind == .directory
      | c, _ => return "erwOG".toList.contains c

def compare (operator : String) (a b : Octets) : Testing σ Bool := do
  let numbers (f : Int → Int → Bool) : Testing σ Bool := do
    return f (← number a) (← number b)
  let files (f : FileStatus → FileStatus → Bool) : Testing σ Bool := do
    match ← status? a, ← status? b with
    | some s, some t => return f s t
    | _, _ => return false
  match operator with
  | "=" => return a == b
  | "!=" => return a != b
  | "<" => return decide (a < b)
  | ">" => return decide (b < a)
  | "-eq" => numbers (· == ·)
  | "-ne" => numbers (· != ·)
  | "-lt" => numbers fun a b => decide (a < b)
  | "-le" => numbers fun a b => decide (a ≤ b)
  | "-gt" => numbers fun a b => decide (b < a)
  | "-ge" => numbers fun a b => decide (b ≤ a)
  | "-nt" => files fun s t => decide (t.changed < s.changed)
  | "-ot" => files fun s t => decide (s.changed < t.changed)
  | _ => files fun s t => s.place == t.place

mutual

/-- Conditions of which one must hold. Stops at the last word of the last of them. -/
def either : Nat → Bool → Testing σ Bool
  | 0, _ => return false
  | fuel + 1, before => do
    let value := (← both fuel true) || before
    match signAt? ((← get).drop 1) with
    | some .either =>
      modify (·.drop 2)
      either fuel value
    | _ => return value

/-- Conditions of which all must hold. -/
def both : Nat → Bool → Testing σ Bool
  | 0, _ => return false
  | fuel + 1, before => do
    let value := (← single fuel) && before
    match signAt? ((← get).drop 1) with
    | some .both =>
      modify (·.drop 2)
      both fuel value
    | _ => return value

/-- A condition of its own, perhaps after signs that turn it around. -/
def single : Nat → Testing σ Bool
  | 0 => return false
  | fuel + 1 => do
    match signAt? (← get) with
    | some .not =>
      let ws ← get
      if 1 < ws.length then set ws.tail
      if ws.length ≤ 1 then
        set ([] : List Octets)
      return !(← single fuel)
    | s => primary fuel s

def primary : Nat → Option Sign → Testing σ Bool
  | 0, _ => return false
  | fuel + 1, s => do
    match s, ← get with
    | _, [] => return false
    | some .opening, _ :: ws =>
      set ws
      if signAt? ws == some .closing then return false
      let value ← either fuel false
      modify (·.drop 1)
      if signAt? (← get) != some .closing then wrong [] "closing paren expected"
      return value
    | some (.property c), o :: ws =>
      set ws
      match ws with
      | [] => wrong o "argument expected"
      | operand :: _ => holds c operand
    | _, a :: ws =>
      match signAt? ws, ws with
      | some (.comparison c), o :: rest =>
        set rest
        match rest with
        | [] => wrong o "argument expected"
        | b :: _ => compare c a b
      | _, _ => return !a.isEmpty

end

/-- The value of the condition that some words make. -/
def whole (ws : List Octets) (asOperand : Bool) : Testing σ Bool := do
  set ws
  let fuel := 8 * ws.length + 8
  let value ←
    if asOperand then do
      let first ← primary fuel none
      let value ← bothAfter fuel first
      eitherAfter fuel value
    else either fuel false
  match ← get with
  | w :: _ :: _ => wrong w "unexpected operator"
  | _ => return value
where
  bothAfter (fuel : Nat) (value : Bool) : Testing σ Bool := do
    match signAt? ((← get).drop 1) with
    | some .both =>
      modify (·.drop 2)
      both fuel value
    | _ => return value
  eitherAfter (fuel : Nat) (value : Bool) : Testing σ Bool := do
    match signAt? ((← get).drop 1) with
    | some .either =>
      modify (·.drop 2)
      either fuel value
    | _ => return value

/-- The value of a condition of any number of words, or of its opposite if `negated`. However many
signs turn a short condition around, they do so once. -/
def condition : Nat → Bool → List Octets → Testing σ Bool
  | 0, _, _ => return false
  | _, _, [] => return false
  | fuel + 1, negated, ws => do
    let value (ws : List Octets) (asOperand : Bool) : Testing σ Bool := do
      return (← whole ws asOperand) != negated
    match ws with
    | [a, o, b] =>
      if isComparison o then value ws true
      else if a == ['('] && b == [')'] then value [o] false
      else if a == ['!'] then condition fuel true [o, b]
      else value ws false
    | [a, b, c, d] =>
      if a == ['('] && d == [')'] then value [b, c] false
      else if a == ['!'] then condition fuel true [b, c, d]
      else value ws false
    | ws => value ws false

/-- The value of a condition, or what is wrong with it. -/
def evaluate (ws : List Octets) : Program σ (Except Octets Bool) := do
  match ← (condition (ws.length + 1) false ws |>.run ws).run with
  | .ok (value, _) => return .ok value
  | .error text => return .error text

end ClusterHarness.Machine.Condition
