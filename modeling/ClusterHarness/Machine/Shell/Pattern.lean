import ClusterHarness.Machine.Octets

/-!
# Patterns

The patterns of `case` arms, of file names and of trimmed parameters: `*` for any characters, `?`
for one, and brackets for one out of a set. A quoted character stands for itself.
-/

namespace ClusterHarness.Machine.Shell

/-- A character of an expanded word, and whether it was quoted. -/
structure Letter where
  char : Char
  quoted : Bool
deriving DecidableEq, Repr, Inhabited

/-- What a set of characters has in it. -/
inductive Member where
  | range (first last : Char)
  | named (name : String)
deriving DecidableEq, Repr

inductive PatternPart where
  | char (c : Char)
  | any
  | many
  | oneOf (negated : Bool) (members : List Member)
deriving DecidableEq, Repr

/-- A pattern, part by part. -/
abbrev Pattern := List PatternPart

/-- The named sets of characters. -/
def Member.named? (name : String) : Option (Char → Bool) :=
  let isGraphic (c : Char) : Bool := '\x21' ≤ c && c ≤ '\x7e'
  match name with
  | "alnum" => some Char.isAlphanum
  | "alpha" => some Char.isAlpha
  | "blank" => some fun c => c == ' ' || c == '\t'
  | "cntrl" => some fun c => c < ' ' || c == '\x7f'
  | "digit" => some Char.isDigit
  | "graph" => some isGraphic
  | "lower" => some Char.isLower
  | "print" => some fun c => c == ' ' || isGraphic c
  | "punct" => some fun c => isGraphic c && !c.isAlphanum
  | "space" => some fun c => c == ' ' || ('\t' ≤ c && c ≤ '\r')
  | "upper" => some Char.isUpper
  | "xdigit" => some fun c => c.isDigit || ('a' ≤ c.toLower && c.toLower ≤ 'f')
  | _ => none

def Member.covers (m : Member) (c : Char) : Bool :=
  match m with
  | range first last => first ≤ c && c ≤ last
  | named name => ((named? name).map (· c)).getD false

namespace Pattern

/-- Let a backslash that is not quoted quote the character after it. -/
def unescape : List Letter → List Letter
  | ⟨'\\', false⟩ :: l :: rest => ⟨l.char, true⟩ :: unescape rest
  | l :: rest => l :: unescape rest
  | [] => []

/-- The named set at the start of some characters, after its bracket. -/
def named? (ls : List Letter) : Option (Member × List Letter) :=
  match ls with
  | ⟨':', false⟩ :: rest =>
    let name := String.ofList ((rest.takeWhile fun l => l.char.isAlpha && !l.quoted).map (·.char))
    match rest.drop name.length with
    | ⟨':', false⟩ :: ⟨']', false⟩ :: rest =>
      if (Member.named? name).isSome then some (.named name, rest) else none
    | _ => none
  | _ => none

/-- The members of a set up to the bracket that closes it, and what follows that. A closing
bracket that comes `first` belongs to the set. -/
def members (first : Bool) : Nat → List Letter → Option (List Member × List Letter)
  | 0, _ => none
  | _, [] => none
  | fuel + 1, l :: rest =>
    let more (m : Member) (rest : List Letter) : Option (List Member × List Letter) :=
      (members false fuel rest).map fun (ms, rest) => (m :: ms, rest)
    if l == ⟨']', false⟩ && !first then some ([], rest)
    else
      match (if l == ⟨'[', false⟩ then named? rest else none), rest with
      | some (m, rest), _ => more m rest
      | none, ⟨'-', false⟩ :: last :: beyond =>
        if last == ⟨']', false⟩ then more (.range l.char l.char) rest
        else more (.range l.char last.char) beyond
      | none, rest => more (.range l.char l.char) rest

/-- The set after an opening bracket. -/
def set (ls : List Letter) : Option (PatternPart × List Letter) :=
  let (negated, ls) :=
    match ls with
    | ⟨'!', false⟩ :: rest => (true, rest)
    | ls => (false, ls)
  (members true (ls.length + 1) ls).map fun (ms, rest) => (.oneOf negated ms, rest)

/-- The pattern written by some characters; the number bounds its parts. -/
def parts : Nat → List Letter → Pattern
  | 0, _ => []
  | _, [] => []
  | fuel + 1, l :: rest =>
    match l with
    | ⟨'*', false⟩ => .many :: parts fuel rest
    | ⟨'?', false⟩ => .any :: parts fuel rest
    | ⟨'[', false⟩ =>
      match set rest with
      | some (p, rest) => p :: parts fuel rest
      | none => .char '[' :: parts fuel rest
    | l => .char l.char :: parts fuel rest

/-- The pattern that an expanded word is. -/
def ofLetters (ls : List Letter) : Pattern :=
  let ls := unescape ls
  parts ls.length ls

/-- Whether a pattern covers a whole text. -/
def covers : Pattern → Octets → Bool
  | [], o => o.isEmpty
  | .char c :: p, d :: o => c == d && covers p o
  | .any :: p, _ :: o => covers p o
  | .oneOf negated ms :: p, d :: o => (ms.any (·.covers d) != negated) && covers p o
  | .many :: p, [] => covers p []
  | .many :: p, d :: o => covers p (d :: o) || covers (.many :: p) o
  | _ :: _, [] => false
termination_by p o => (p.length, o.length)

end Pattern
end ClusterHarness.Machine.Shell
