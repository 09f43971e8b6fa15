import ClusterHarness.Text.Utf8

/-!
# Octets

Scripts and programs handle bytes that need not be text. Here a sequence of bytes is held as
characters below U+0100, one for each byte, so that the syntax of a script is matched character by
character and whatever is no text passes through unchanged.
-/

namespace ClusterHarness.Machine

/-- A sequence of bytes, each as the character of the same number. -/
abbrev Octets := List Char

namespace Octets

def ofBytes (bs : Bytes) : Octets := bs.map fun b => Char.ofNat b.toNat

def toBytes (o : Octets) : Bytes := o.map fun c => UInt8.ofNat c.toNat

/-- The bytes of a text. -/
def ofText (s : String) : Octets := ofBytes (Text.toBytes s)

/-- The text of bytes, with a replacement for what is no text. -/
def toText (o : Octets) : String := String.ofList (Text.decodeLossy (toBytes o))

def ofNat (n : Nat) : Octets := Nat.toDigits 10 n

def ofInt (n : Int) : Octets := (toString n).toList

/-- The value of decimal digits, at least one. -/
def toNat? (o : Octets) : Option Nat :=
  if o.isEmpty || !o.all Char.isDigit then none
  else some (o.foldl (fun n c => n * 10 + (c.toNat - '0'.toNat)) 0)

/-- Blanks in numbers and in commands: the space and the characters from tab to carriage return. -/
def isBlank (c : Char) : Bool := c == ' ' || ('\t' ≤ c && c ≤ '\r')

def skipBlanks (o : Octets) : Octets := o.dropWhile isBlank

def digitValue (c : Char) : Nat :=
  if c.isDigit then c.toNat - '0'.toNat else c.toLower.toNat - 'a'.toNat + 10

/-- The value of digits to a base. -/
def ofDigits (base : Nat) (digits : Octets) : Nat :=
  digits.foldl (fun n c => n * base + digitValue c) 0

def isDigitOf (base : Nat) (c : Char) : Bool := c.isAlphanum && digitValue c < base

/-- The number at the start of some characters, after blanks and perhaps a sign, and what follows
it. With base zero a leading zero stands for octal and `0x` for hexadecimal numbers. -/
def leadingInt? (base : Nat) (o : Octets) : Option (Int × Octets) :=
  let o := skipBlanks o
  let (negative, o) : Bool × Octets :=
    match o with
    | '-' :: o => (true, o)
    | '+' :: o => (false, o)
    | o => (false, o)
  let (base, o) : Nat × Octets :=
    match base, o with
    | 0, '0' :: x :: d :: ds =>
      if x.toLower == 'x' && isDigitOf 16 d then (16, d :: ds) else (8, o)
    | 0, '0' :: _ => (8, o)
    | 0, o => (10, o)
    | base, o => (base, o)
  let digits := o.takeWhile (isDigitOf base)
  if digits.isEmpty then none
  else
    let n : Int := ofDigits base digits
    some (if negative then -n else n, o.drop digits.length)

/-- The greatest number of 64 bits with a sign. -/
def greatest : Int := Nat.pow 2 63 - 1

def least : Int := -Nat.pow 2 63

/-- The nearest number of 64 bits. -/
def clamp (n : Int) : Int := max least (min greatest n)

/-- The value of a whole text as a number of 64 bits, with blanks around it. With base zero a text
of blanks is zero. -/
def toInt? (base : Nat) (o : Octets) : Option Int :=
  match leadingInt? base o with
  | none => if base = 0 && (skipBlanks o).isEmpty then some 0 else none
  | some (n, rest) =>
    if (skipBlanks rest).isEmpty && clamp n = n then some n else none

end Octets
end ClusterHarness.Machine
