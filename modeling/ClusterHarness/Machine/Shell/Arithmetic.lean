import ClusterHarness.Machine.Shell.State

/-!
# Shell arithmetic

Integer expressions of 64 bits: the operators of C on decimal, octal and hexadecimal numbers and
on variables, which an expression may set. An unset variable counts as zero. What is not evaluated
has no effect, but must be well-formed.
-/

namespace ClusterHarness.Machine.Shell.Arithmetic

inductive Token where
  | number (n : Int)
  | variable (name : Octets)
  | operator (o : String)
  | bad
deriving DecidableEq, Repr, Inhabited

/-- The value as a signed number of 64 bits. -/
def wrap (n : Int) : Int := Int.bmod n (Nat.pow 2 64)

/-- The binary operators with their ranks; a higher rank binds closer. -/
def ranks : List (String × Nat) :=
  [("|", 1), ("^", 2), ("&", 3), ("==", 4), ("!=", 4), ("<=", 5), (">=", 5), ("<", 5), (">", 5),
    ("<<", 6), (">>", 6), ("+", 7), ("-", 7), ("*", 8), ("/", 8), ("%", 8)]

/-- All operators, longer ones before their beginnings. -/
def operators : List String :=
  ["<<=", ">>=", "<<", ">>", "<=", ">=", "==", "!=", "&&", "||", "+=", "-=", "*=", "/=", "%=", "&=",
    "|=", "^=", "<", ">", "=", "!", "&", "|", "+", "-", "*", "/", "%", "^", "~", "?", ":", "(", ")"]

/-- The tokens of an expression. -/
def tokens : Nat → Octets → List Token
  | 0, _ => []
  | _, [] => []
  | fuel + 1, c :: rest =>
    if c == ' ' || c == '\t' || c == '\n' then tokens fuel rest
    else if c.isDigit then
      let (n, rest) := (Octets.leadingInt? 0 (c :: rest)).getD (0, rest)
      .number (Octets.clamp n) :: tokens fuel rest
    else if isNameStart c then
      let name := (c :: rest).takeWhile isNameChar
      .variable name :: tokens fuel ((c :: rest).drop name.length)
    else
      match operators.find? fun o => o.toList.isPrefixOf (c :: rest) with
      | some o => .operator o :: tokens fuel ((c :: rest).drop o.length)
      | none => [.bad]

/-- What evaluates a part of an expression, of which it takes the tokens. -/
abbrev Computing := StateT (List Token) Action

/-- Complain about an expression as a whole. -/
def wrong {α : Type} (source : Octets) (text : String) : Computing α :=
  fail (("arithmetic expression: " ++ text ++ ": \"").toList ++ source ++ ['"'])

/-- Take an operator if it comes next. -/
def accept (o : String) : Computing Bool := do
  match ← get with
  | .operator p :: rest =>
    if p == o then
      set rest
      return true
    return false
  | _ => return false

def ofBool (b : Bool) : Int := if b then 1 else 0

/-- The value of a binary operation that does not divide. -/
def apply (operator : String) (a b : Int) : Int :=
  match operator with
  | "==" => ofBool (a == b)
  | "!=" => ofBool (a != b)
  | "<=" => ofBool (decide (a ≤ b))
  | ">=" => ofBool (decide (b ≤ a))
  | "<" => ofBool (decide (a < b))
  | ">" => ofBool (decide (b < a))
  | "<<" => wrap (a * Nat.pow 2 (b % 64).toNat)
  | ">>" => a / Nat.pow 2 (b % 64).toNat
  | "|" => (BitVec.ofInt 64 a ||| BitVec.ofInt 64 b).toInt
  | "^" => (BitVec.ofInt 64 a ^^^ BitVec.ofInt 64 b).toInt
  | "&" => (BitVec.ofInt 64 a &&& BitVec.ofInt 64 b).toInt
  | "+" => wrap (a + b)
  | "-" => wrap (a - b)
  | _ => wrap (a * b)

/-- The value of a binary operation. A quotient of more than 64 bits ends the process. -/
def compute (source : Octets) (operator : String) (a b : Int) : Computing Int := do
  if operator != "/" && operator != "%" then return apply operator a b
  if b = 0 then wrong source "division by zero"
  if a = Octets.least && b = -1 then
    let me ← ask .identity
    let _ ← ask (.kill me Signal.arithmetic)
  return if operator == "/" then Int.tdiv a b else Int.tmod a b

/-- The value of a variable: a number, perhaps with a sign. -/
def valueOf (name : Octets) : Action Int := do
  let o := ((← get).get? name).getD []
  match Octets.toInt? 0 o with
  | some n => return n
  | none => badNumber o

/-- The operator that an assignment carries out first, if a token assigns. -/
def assigns? (o : String) : Option (Option String) :=
  if o == "=" then some none
  else if ["<<=", ">>=", "+=", "-=", "*=", "/=", "%=", "&=", "|=", "^="].contains o then
    some (some (String.ofList o.toList.dropLast))
  else none

mutual

/-- A number, a variable, a group, or a sign before one of them. -/
def primary (source : Octets) (idle : Bool) : Nat → Computing Int
  | 0 => wrong source "expecting primary"
  | fuel + 1 => do
    match ← get with
    | .number n :: rest =>
      set rest
      return n
    | .variable name :: rest =>
      set rest
      if idle then return 0
      valueOf name
    | .operator "(" :: rest =>
      set rest
      let n ← assignment source idle fuel
      unless ← accept ")" do wrong source "expecting ')'"
      return n
    | .operator "+" :: rest =>
      set rest
      primary source idle fuel
    | .operator "-" :: rest =>
      set rest
      return wrap (-(← primary source idle fuel))
    | .operator "!" :: rest =>
      set rest
      return ofBool ((← primary source idle fuel) == 0)
    | .operator "~" :: rest =>
      set rest
      return -(← primary source idle fuel) - 1
    | _ => wrong source "expecting primary"

/-- Primaries joined by operators of at least a rank, after the first of them. -/
def joined (source : Octets) (idle : Bool) (rank : Nat) : Nat → Int → Computing Int
  | 0, left => return left
  | fuel + 1, left => do
    match ← get with
    | .operator o :: rest =>
      match ranks.lookup o with
      | none => return left
      | some r =>
        if r < rank then return left
        set rest
        let right ← primary source idle fuel
        let right ← joined source idle (r + 1) fuel right
        let value ← if idle then pure right else compute source o left right
        joined source idle rank fuel value
    | _ => return left

def all (source : Octets) (idle : Bool) : Nat → Computing Int
  | 0 => wrong source "expecting primary"
  | fuel + 1 => do
    let a ← primary source idle fuel
    let a ← joined source idle 0 fuel a
    unless ← accept "&&" do return a
    let b ← all source (idle || a == 0) fuel
    return ofBool (a != 0 && b != 0)

def any (source : Octets) (idle : Bool) : Nat → Computing Int
  | 0 => wrong source "expecting primary"
  | fuel + 1 => do
    let a ← all source idle fuel
    unless ← accept "||" do return a
    let b ← any source (idle || a != 0) fuel
    return ofBool (a != 0 || b != 0)

/-- A condition before two alternatives, of which one is evaluated. -/
def choice (source : Octets) (idle : Bool) : Nat → Computing Int
  | 0 => wrong source "expecting primary"
  | fuel + 1 => do
    let a ← any source idle fuel
    unless ← accept "?" do return a
    let b ← assignment source (idle || a == 0) fuel
    unless ← accept ":" do wrong source "expecting ':'"
    let c ← choice source (idle || a != 0) fuel
    return if a != 0 then b else c

def assignment (source : Octets) (idle : Bool) : Nat → Computing Int
  | 0 => wrong source "expecting primary"
  | fuel + 1 => do
    match ← get with
    | .variable name :: .operator o :: rest =>
      match assigns? o with
      | none => choice source idle fuel
      | some operator =>
        set rest
        let n ← assignment source idle fuel
        if idle then return n
        let n ← match operator with
          | none => pure n
          | some o => compute source o (← valueOf name) n
        setVariable name (Octets.ofInt n)
        return n
    | _ => choice source idle fuel

end

/-- The value of an expression. -/
def evaluate (source : Octets) : Action Int := do
  let ts := tokens (source.length + 1) source
  let whole : Computing Int := do
    let n ← assignment source false (8 * ts.length + 8)
    unless (← get).isEmpty do wrong source "expecting EOF"
    return n
  return (← whole.run ts).1

end ClusterHarness.Machine.Shell.Arithmetic
