import ClusterHarness.Machine.Octets

/-!
# Decimal fractions

Binary fractions of 64 bits as decimal text with a given number of places: positional, with an
exponent, or whichever is shorter. A tie goes to the even digit. There are hexadecimal digits, too.
-/

namespace ClusterHarness.Machine

/-- A binary fraction without its sign. -/
inductive Magnitude where
  /-- `mantissa` times two to the power of `exponent`. -/
  | finite (mantissa : Nat) (exponent : Int)
  | infinite
  | undefined
deriving DecidableEq, Repr

namespace Magnitude

/-- The sign and the magnitude of a number. -/
def ofFloat (x : Float) : Bool × Magnitude :=
  let bits := x.toBits.toNat
  let fraction := bits % Nat.pow 2 52
  let exponent := bits / Nat.pow 2 52 % 2048
  let m : Magnitude :=
    if exponent = 2047 then if fraction = 0 then infinite else undefined
    else if exponent = 0 then finite fraction (-1074)
    else finite (fraction + Nat.pow 2 52) (exponent - 1075)
  (bits / Nat.pow 2 63 = 1, m)

end Magnitude

namespace Decimal

/-- The natural number nearest to a quotient. -/
def roundDiv (n d : Nat) : Nat :=
  let q := n / d
  let r := 2 * (n % d)
  if r < d || (r = d && q % 2 = 0) then q else q + 1

/-- A magnitude as a quotient. -/
def quotient (mantissa : Nat) (exponent : Int) : Nat × Nat :=
  if 0 ≤ exponent then (mantissa * Nat.pow 2 exponent.toNat, 1)
  else (mantissa, Nat.pow 2 (-exponent).toNat)

/-- A quotient times a power of ten, rounded. -/
def scaled (n d : Nat) (power : Int) : Nat :=
  if 0 ≤ power then roundDiv (n * Nat.pow 10 power.toNat) d
  else roundDiv n (d * Nat.pow 10 (-power).toNat)

def digits (n : Nat) : Octets := Nat.toDigits 10 n

/-- Digits of which the last `places` come after a point. -/
def pointed (places : Nat) (always : Bool) (ds : Octets) : Octets :=
  let ds := List.replicate (places + 1 - ds.length) '0' ++ ds
  let whole := ds.take (ds.length - places)
  if places = 0 then if always then whole ++ ['.'] else whole
  else whole ++ '.' :: ds.drop (ds.length - places)

/-- A quotient with a number of places. -/
def positional (n d places : Nat) (always : Bool) : Octets :=
  pointed places always (digits (scaled n d places))

/-- The exponent of a quotient and its first digits, of which there is one before the point. -/
def leading (n d places : Nat) : Int × Nat :=
  if n = 0 then (0, 0)
  else
    let guess : Int := (digits n).length - (digits d).length
    let exponent := if n * Nat.pow 10 (-guess).toNat < d * Nat.pow 10 guess.toNat
      then guess - 1 else guess
    let found := scaled n d (places - exponent)
    if Nat.pow 10 (places + 1) ≤ found then (exponent + 1, found / 10) else (exponent, found)

/-- A quotient with one digit before the point, and an exponent. -/
def exponential (n d places : Nat) (always : Bool) : Octets :=
  let (exponent, found) := leading n d places
  let size := digits exponent.natAbs
  pointed places always (digits found) ++ 'e' :: (if exponent < 0 then '-' else '+') ::
    List.replicate (2 - size.length) '0' ++ size

/-- Leave out zeros at the end of the places, and the point if none are left. -/
def dropZeros (o : Octets) : Octets :=
  let mantissa := o.takeWhile (· != 'e')
  let rest := o.drop mantissa.length
  if mantissa.contains '.' then
    let short := (mantissa.reverse.dropWhile (· == '0')).reverse
    (if short.getLast? == some '.' then short.dropLast else short) ++ rest
  else o

/-- A quotient with a number of digits that count, in the form that suits its size. -/
def general (n d significant : Nat) (keepZeros : Bool) : Octets :=
  let significant := max significant 1
  let exponent := (leading n d (significant - 1)).1
  let o :=
    if -4 ≤ exponent && exponent < significant then
      positional n d ((significant : Int) - 1 - exponent).toNat keepZeros
    else exponential n d (significant - 1) keepZeros
  if keepZeros then o else dropZeros o

/-- A binary fraction in hexadecimal digits with a binary exponent. Without a number of places there
are as many as it needs. -/
def hexadecimal (mantissa : Nat) (exponent : Int) (places : Option Nat) (always : Bool) : Octets :=
  let unit := Nat.pow 2 52
  let (whole, fraction) : Nat × Octets :=
    match places with
    | none =>
      let digits := Nat.toDigits 16 (mantissa % unit)
      let padded := List.replicate (13 - digits.length) '0' ++ digits
      (mantissa / unit, (padded.reverse.dropWhile (· == '0')).reverse)
    | some p =>
      let kept := roundDiv mantissa (Nat.pow 16 (13 - p))
      let digits := Nat.toDigits 16 (kept % Nat.pow 16 (min p 13))
      let padded := List.replicate (min p 13 - digits.length) '0' ++ digits
      (kept / Nat.pow 16 (min p 13), (padded ++ List.replicate (p - 13) '0').take p)
  let power : Int := if mantissa = 0 then 0 else exponent + 52
  digits whole ++ (if fraction.isEmpty && !always then [] else '.' :: fraction) ++
    'p' :: (if power < 0 then '-' else '+') :: digits power.natAbs

/-- A magnitude as a conversion of a format shows it. -/
def shown (kind : Char) (precision : Option Nat) (alternate : Bool) (m : Magnitude) : Octets :=
  match m with
  | .infinite => "inf".toList
  | .undefined => "nan".toList
  | .finite mantissa exponent =>
    let (n, d) := quotient mantissa exponent
    let places := precision.getD 6
    match kind with
    | 'f' => positional n d places alternate
    | 'e' => exponential n d places alternate
    | 'a' => hexadecimal mantissa exponent precision alternate
    | _ => general n d places alternate

/-! ## Reading -/

/-- The number at the start of some characters, and what follows it. -/
def leadingFloat? (o : Octets) : Option (Float × Octets) :=
  let o := Octets.skipBlanks o
  let (negative, o) : Bool × Octets :=
    match o with
    | '-' :: o => (true, o)
    | '+' :: o => (false, o)
    | o => (false, o)
  let sign (x : Float) : Float := if negative then -x else x
  let lower := String.ofList (o.map Char.toLower)
  if lower.startsWith "infinity" then some (sign (1.0 / 0.0), o.drop 8)
  else if lower.startsWith "inf" then some (sign (1.0 / 0.0), o.drop 3)
  else if lower.startsWith "nan" then some (0.0 / 0.0, o.drop 3)
  else if lower.startsWith "0x" && (o.drop 2).head?.any (Octets.isDigitOf 16) then
    let ds := (o.drop 2).takeWhile (Octets.isDigitOf 16)
    some (sign (Float.ofNat (Octets.ofDigits 16 ds)), o.drop (2 + ds.length))
  else
    let whole := o.takeWhile Char.isDigit
    let rest := o.drop whole.length
    let places := match rest with
      | '.' :: rest => rest.takeWhile Char.isDigit
      | _ => []
    let rest := match rest with
      | '.' :: rest => rest.drop places.length
      | rest => rest
    if whole.isEmpty && places.isEmpty then none
    else
      let (power, rest) : Int × Octets :=
        match rest with
        | e :: rest' =>
          if e.toLower != 'e' || rest'.head?.any Octets.isBlank then (0, rest)
          else
            match Octets.leadingInt? 10 rest' with
            | some (power, rest) => (power, rest)
            | none => (0, rest)
        | [] => (0, [])
      let n := Octets.ofDigits 10 (whole ++ places)
      let power := max (-100000) (min 100000 (power - places.length))
      let x := Float.ofScientific n (power < 0) power.natAbs
      some (sign x, rest)

end Decimal
end ClusterHarness.Machine
