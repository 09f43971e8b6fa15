/-!
# Lengths of time

A duration counts nanoseconds. It is shown in the largest unit of seconds, milliseconds,
microseconds and nanoseconds that it fills, with as many decimal places as its value needs.
-/

namespace ClusterHarness

/-- A length of time, in nanoseconds. -/
structure Duration where
  nanos : Nat
deriving DecidableEq, Repr, Inhabited

namespace Duration

def ofMillis (n : Nat) : Duration := ⟨n * 1000000⟩

def ofSeconds (n : Nat) : Duration := ⟨n * 1000000000⟩

/-- The whole milliseconds of a duration. -/
def millis (d : Duration) : Nat := d.nanos / 1000000

/-- The decimal places of `rest / 10 ^ places`, without trailing zeros. -/
def decimals (places rest : Nat) : List Char :=
  let digits := Nat.toDigits 10 rest
  let padded := List.replicate (places - digits.length) '0' ++ digits
  ((padded.reverse.dropWhile (· == '0'))).reverse

/-- `n / 10 ^ places` in decimal, with no more places than needed. -/
def quotient (n places : Nat) : String :=
  let fraction := if places = 0 then [] else decimals places (n % Nat.pow 10 places)
  String.ofList (Nat.toDigits 10 (n / Nat.pow 10 places) ++
    if fraction.isEmpty then [] else '.' :: fraction)

/-- A duration with its unit. -/
def text (d : Duration) : String :=
  if 1000000000 ≤ d.nanos then quotient d.nanos 9 ++ "s"
  else if 1000000 ≤ d.nanos then quotient d.nanos 6 ++ "ms"
  else if 1000 ≤ d.nanos then quotient d.nanos 3 ++ "µs"
  else quotient d.nanos 0 ++ "ns"

example : (ofSeconds 90).text = "90s" := by decide +kernel
example : (ofMillis 1500).text = "1.5s" := by decide +kernel
example : (Duration.mk 20050).text = "20.05µs" := by decide +kernel

end Duration
end ClusterHarness
