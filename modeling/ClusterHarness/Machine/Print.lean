import ClusterHarness.Machine.Decimal

/-!
# Printing words

What the programs that print their arguments write: escapes with a backslash, and formats with
conversions that take one argument after the other.
-/

namespace ClusterHarness.Machine.Print

/-! ## Escapes -/

/-- The character that a letter after a backslash stands for. -/
def control? (c : Char) : Option Char :=
  match c with
  | 'a' => some '\x07'
  | 'b' => some '\x08'
  | 'e' => some '\x1b'
  | 'f' => some '\x0c'
  | 'n' => some '\n'
  | 'r' => some '\r'
  | 't' => some '\t'
  | 'v' => some '\x0b'
  | '\\' => some '\\'
  | _ => none

def isOctal (c : Char) : Bool := '0' ≤ c && c ≤ '7'

/-- What stands for the characters after a backslash, and what follows them. -/
def escape (o : Octets) : Char × Octets :=
  match o with
  | c :: rest =>
    match control? c with
    | some d => (d, rest)
    | none =>
      let digits := (o.take 3).takeWhile isOctal
      if digits.isEmpty then ('\\', o)
      else (Char.ofNat (Octets.ofDigits 8 digits % 256), o.drop digits.length)
  | [] => ('\\', [])

/-- Replace the escapes of a printed word: the digits of a byte may follow a zero, and `c` ends the
output, which the second part of the result says. -/
def unescape : Nat → Octets → Octets × Bool
  | 0, _ => ([], false)
  | _, [] => ([], false)
  | _, '\\' :: 'c' :: _ => ([], true)
  | fuel + 1, '\\' :: rest =>
    let rest := match rest with
      | '0' :: d :: rest => if isOctal d then d :: rest else '0' :: d :: rest
      | rest => rest
    let (c, rest) := escape rest
    let (o, stopped) := unescape fuel rest
    (c :: o, stopped)
  | fuel + 1, c :: rest =>
    let (o, stopped) := unescape fuel rest
    (c :: o, stopped)

/-- The pieces in which `echo` prints its words: with escapes replaced, spaces between them, and a
line feed at the end unless the first word is `-n`. -/
def echo (args : List Octets) : List Octets :=
  if args.head? == some ['-', 'n'] then words [] args.tail else words [['\n']] args
where
  /-- The pieces of words, and others after them unless a word ends the output. -/
  words (last : List Octets) : List Octets → List Octets
    | [] => last
    | w :: ws =>
      let (o, stopped) := unescape (w.length + 1) w
      if stopped then [o] else o :: (if ws.isEmpty then last else [' '] :: words last ws)

/-! ## Formats -/

/-- A conversion of a format. -/
structure Conversion where
  flags : Octets := []
  width : Nat := 0
  precision : Option Nat := none
  kind : Char
deriving DecidableEq, Repr

/-- What is printed so far, and what is wrong with it. -/
structure Printed where
  /-- The pieces of the output, the latest first. -/
  latest : List Octets := []
  args : List Octets
  complaints : List Octets := []
  /-- What made printing impossible. -/
  fault : Option Octets := none
  /-- An argument asked for the end of the output. -/
  stopped : Bool := false
deriving Inhabited

namespace Printed

/-- The pieces of the output in order. -/
def pieces (p : Printed) : List Octets := p.latest.reverse

def output (p : Printed) : Octets := p.pieces.flatten

end Printed

/-- A step of printing. -/
abbrev Printing := StateM Printed

namespace Printing

def write (o : Octets) : Printing Unit := modify fun p => { p with latest := o :: p.latest }

def complain (o : Octets) (text : String) : Printing Unit :=
  modify fun p => { p with complaints := p.complaints ++ [o ++ ": ".toList ++ text.toList] }

def fail (o : Octets) : Printing Unit := modify fun p => { p with fault := some o }

/-- Take the next argument. -/
def argument : Printing (Option Octets) := do
  let p ← get
  set { p with args := p.args.tail }
  return p.args.head?

/-- Complain of an argument unless it was read whole. -/
def check (arg : Octets) (rest : Option Octets) (inRange : Bool) : Printing Unit := do
  match rest with
  | none => unless arg.isEmpty do complain arg "expected numeric value"
  | some [] => unless inRange do complain arg "Numerical result out of range"
  | some _ => complain arg "not completely converted"

/-- The code of the character after a quote. -/
def quoted? (arg : Octets) : Option Nat :=
  match arg with
  | '\'' :: rest => some ((rest.headD '\x00').toNat)
  | '"' :: rest => some ((rest.headD '\x00').toNat)
  | _ => none

/-- The number that the next argument is, as a number of 64 bits that may have a sign. -/
def int (signed : Bool) : Printing Int := do
  match ← argument with
  | none => return 0
  | some arg =>
    if let some n := quoted? arg then return n
    let found := Octets.leadingInt? 0 arg
    let n := (found.map (·.1)).getD 0
    let most : Int := Nat.pow 2 64 - 1
    let kept := if signed then Octets.clamp n else if most < n.natAbs then most else n
    check arg (found.map (·.2)) (n == kept)
    return kept

def float : Printing Float := do
  match ← argument with
  | none => return 0.0
  | some arg =>
    if let some n := quoted? arg then return Float.ofNat n
    let found := Decimal.leadingFloat? arg
    let x := (found.map (·.1)).getD 0.0
    let huge := x.isInf && !arg.any fun c => c.toLower == 'i'
    check arg (found.map (·.2)) (!huge)
    return x

end Printing

namespace Conversion

def has (c : Conversion) (flag : Char) : Bool := c.flags.contains flag

/-- A text with spaces up to the width. -/
def pad (c : Conversion) (o : Octets) : Octets :=
  let gap := List.replicate (c.width - o.length) ' '
  if c.has '-' then o ++ gap else gap ++ o

/-- A number with its sign, with zeros in between up to the width if `zeros`. -/
def padNumber (c : Conversion) (zeros : Bool) (sign digits : Octets) : Octets :=
  if zeros && c.has '0' && !c.has '-' then
    sign ++ List.replicate (c.width - sign.length - digits.length) '0' ++ digits
  else c.pad (sign ++ digits)

def sign (c : Conversion) (negative : Bool) : Octets :=
  if negative then ['-']
  else if c.has '+' then ['+']
  else if c.has ' ' then [' ']
  else []

/-- Digits with zeros up to the precision. -/
def precise (c : Conversion) (digits : Octets) : Octets :=
  match c.precision with
  | none => digits
  | some p =>
    let digits := if digits == ['0'] then [] else digits
    List.replicate (p - digits.length) '0' ++ digits

def shorten (c : Conversion) (o : Octets) : Octets :=
  match c.precision with
  | some n => o.take n
  | none => o

/-- Digits to a base, after a sign of the base if the conversion asks for one. -/
def based (c : Conversion) (base : Nat) (mark : Octets) (n : Int) : Octets :=
  let word := (n % Nat.pow 2 64).toNat
  let digits := c.precise (Nat.toDigits base word)
  if !c.has '#' then c.padNumber c.precision.isNone [] digits
  else if base = 8 then
    let digits := if digits.head? == some '0' then digits else '0' :: digits
    c.padNumber c.precision.isNone [] digits
  else c.padNumber c.precision.isNone (if word = 0 then [] else mark) digits

/-- Print what a conversion makes of the next argument. -/
def apply (c : Conversion) : Printing Unit := do
  let upper (o : Octets) : Octets := o.map Char.toUpper
  match c.kind with
  | 's' => Printing.write (c.pad (c.shorten ((← Printing.argument).getD [])))
  | 'b' =>
    let arg := (← Printing.argument).getD []
    let (o, stopped) := unescape (arg.length + 1) arg
    Printing.write (c.pad (c.shorten o))
    modify fun p => { p with stopped }
  | 'c' =>
    let arg := (← Printing.argument).getD []
    Printing.write (c.pad [arg.headD '\x00'])
  | 'd' | 'i' =>
    let n ← Printing.int true
    let digits := c.precise (Octets.ofNat n.natAbs)
    Printing.write (c.padNumber c.precision.isNone (c.sign (n < 0)) digits)
  | 'u' => Printing.write ({ c with flags := c.flags.erase '#' }.based 10 [] (← Printing.int false))
  | 'o' => Printing.write (c.based 8 [] (← Printing.int false))
  | 'x' => Printing.write (c.based 16 ['0', 'x'] (← Printing.int false))
  | 'X' => Printing.write (upper (c.based 16 ['0', 'x'] (← Printing.int false)))
  | kind =>
    let (negative, m) := Magnitude.ofFloat (← Printing.float)
    let isFinite := match m with
      | .finite .. => true
      | _ => false
    let digits := Decimal.shown kind.toLower c.precision (c.has '#') m
    let mark := if isFinite && kind.toLower == 'a' then ['0', 'x'] else []
    let o := c.padNumber isFinite (c.sign negative ++ mark) digits
    Printing.write (if kind.isUpper then upper o else o)

end Conversion

/-- The greatest width and the greatest precision. -/
def widthLimit : Nat := 1000000

/-- A number in a format, or an argument of 32 bits in its place. -/
def formatNumber (o : Octets) : Printing (Option Int × Octets) := do
  match o with
  | '*' :: rest => return (some (Int.bmod (← Printing.int true) (Nat.pow 2 32)), rest)
  | o =>
    let digits := o.takeWhile Char.isDigit
    return (if digits.isEmpty then none else some (Octets.ofDigits 10 digits),
      (o.drop digits.length).dropWhile (· == '*'))

/-- Read a conversion after its percent sign and carry it out. -/
def conversion (o : Octets) : Printing Octets := do
  let flags := o.takeWhile "#-+ 0".toList.contains
  let (width, rest) ← formatNumber (o.drop flags.length)
  let (precision, rest) ← match rest with
    | '.' :: rest => do
      let (n, rest) ← formatNumber rest
      pure (if n.any (· < 0) then none else some (n.getD 0), rest)
    | rest => pure (none, rest)
  match rest with
  | [] =>
    Printing.fail "missing format character".toList
    return []
  | kind :: rest =>
    if !"aAbcsdiouxXeEfFgG".toList.contains kind then
      Printing.fail ('%' :: o.take (o.length - rest.length) ++ ": invalid directive".toList)
      return []
    let width := width.getD 0
    let c : Conversion := {
      flags := if width < 0 then '-' :: flags else flags
      width := min width.natAbs widthLimit
      precision := precision.map fun n => min n.toNat widthLimit
      kind }
    c.apply
    return rest

/-- One pass through a format. -/
def pass : Nat → Octets → Printing Unit
  | 0, _ => return
  | _, [] => return
  | fuel + 1, c :: rest => do
    match c, rest with
    | '\\', rest =>
      let (c, rest) := escape rest
      Printing.write [c]
      pass fuel rest
    | '%', '%' :: rest =>
      Printing.write ['%']
      pass fuel rest
    | '%', rest =>
      let rest ← conversion rest
      let p ← get
      unless p.stopped || p.fault.isSome do pass fuel rest
    | c, rest =>
      Printing.write [c]
      pass fuel rest

/-- Passes through a format until no argument is left. -/
def passes (format : Octets) : Nat → Printing Unit
  | 0 => return
  | fuel + 1 => do
    let before := (← get).args.length
    pass (format.length + 1) format
    let p ← get
    unless p.stopped || p.fault.isSome || p.args.isEmpty || p.args.length == before do
      passes format fuel

/-- What arguments look like in a format. -/
def formatted (format : Octets) (args : List Octets) : Printed :=
  ((passes format (args.length + 1)).run { args }).2

end ClusterHarness.Machine.Print
