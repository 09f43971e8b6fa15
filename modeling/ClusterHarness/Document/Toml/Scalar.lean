import ClusterHarness.Document

/-!
# TOML strings, numbers and dates

Readers of the values that hold no other values. A reader takes the rest of the input and gives a
result with what is left, or nothing where the input is malformed.
-/

namespace ClusterHarness.Toml

/-- A reader of the input. -/
abbrev Scan := StateT (List Char) Option

/-- The next character, left in the input. -/
def peek : Scan (Option Char) := return (← get).head?

/-- Take the next characters if they are these. -/
def accept (text : String) : Scan Bool := do
  let cs ← get
  if text.toList.isPrefixOf cs then
    set (cs.drop text.length)
    return true
  return false

/-- The next characters must be these. -/
def expect (text : String) : Scan Unit := do
  unless ← accept text do failure

/-- Take characters as long as they belong to a class. -/
def takeWhile (p : Char → Bool) : Scan (List Char) := do
  let cs ← get
  set (cs.dropWhile p)
  return cs.takeWhile p

/-- Take exactly `n` characters of a class. -/
def takeExactly (n : Nat) (p : Char → Bool) : Scan (List Char) := do
  let cs ← get
  let taken := cs.take n
  unless taken.length = n && taken.all p do failure
  set (cs.drop n)
  return taken

def skipBlanks : Scan Unit := do
  let _ ← takeWhile fun c => c == ' ' || c == '\t'

/-- A line feed, alone or after a carriage return. -/
def acceptNewline : Scan Bool := do
  if ← accept "\n" then return true
  accept "\r\n"

/-- Characters that may stand in a comment: no controls but the tab. -/
def isVisible (c : Char) : Bool :=
  c == '\t' || (0x20 ≤ c.toNat && c.toNat ≠ 0x7f)

/-- Skip a comment, if one starts here. -/
def skipComment : Scan Unit := do
  if ← accept "#" then
    let _ ← takeWhile isVisible

/-- The end of a statement: blanks, perhaps a comment, and the end of the line or the input. -/
def endStatement : Scan Unit := do
  skipBlanks
  skipComment
  unless (← get).isEmpty do
    unless ← acceptNewline do failure

/-! ## Strings -/

def digitValue (c : Char) : Nat :=
  if c.isDigit then c.toNat - '0'.toNat
  else if 'a' ≤ c && c ≤ 'f' then c.toNat - 'a'.toNat + 10
  else c.toNat - 'A'.toNat + 10

def isHexDigit (c : Char) : Bool :=
  c.isDigit || ('a' ≤ c && c ≤ 'f') || ('A' ≤ c && c ≤ 'F')

/-- The value of a digit sequence in a base. -/
def digitsValue (base : Nat) (digits : List Char) : Nat :=
  digits.foldl (fun n c => n * base + digitValue c) 0

/-- A character given by hexadecimal digits, if they name a Unicode scalar value. -/
def scalar? (digits : List Char) : Option Char :=
  let n := digitsValue 16 digits
  if digits.all isHexDigit && (n < 0xd800 || (0xdfff < n && n < 0x110000)) then some (Char.ofNat n)
  else none

/-- The character that an escape of one letter stands for. -/
def shortEscape? : Char → Option Char
  | 'b' => some '\x08'
  | 't' => some '\t'
  | 'n' => some '\n'
  | 'f' => some '\x0c'
  | 'r' => some '\r'
  | '"' => some '"'
  | '\\' => some '\\'
  | _ => none

/-- What a backslash and the characters after it stand for, and what is left. -/
def escapeAt : List Char → Option (Char × List Char)
  | 'u' :: a :: b :: c :: d :: rest => (scalar? [a, b, c, d]).map (·, rest)
  | 'U' :: a :: b :: c :: d :: e :: f :: g :: h :: rest =>
    (scalar? [a, b, c, d, e, f, g, h]).map (·, rest)
  | c :: rest => (shortEscape? c).map (·, rest)
  | [] => none

/-- The rest of a string between double quotes, its characters so far in reverse. Each turn takes
at least one character, so `fuel` need be no more than the length of the input. -/
def basicBody : Nat → List Char → Scan (List Char)
  | 0, _ => failure
  | fuel + 1, sofar => do
    match ← get with
    | '"' :: rest => set rest; return sofar.reverse
    | '\\' :: rest => do
      let (c, rest) ← escapeAt rest
      set rest
      basicBody fuel (c :: sofar)
    | c :: rest => do
      unless isVisible c do failure
      set rest
      basicBody fuel (c :: sofar)
    | [] => failure

/-- Take the quotes at the end of a string over several lines: three of them close it, and up to
two more before those belong to the text. -/
def closingQuotes (quote : Char) : Scan (Option (List Char)) := do
  let run := (← get).takeWhile (· == quote)
  if run.length < 3 then return none
  if 5 < run.length then failure
  set ((← get).drop run.length)
  return some (run.drop 3)

/-- Skip blanks and line ends. -/
def skipBlankLines : Nat → Scan Unit
  | 0 => return
  | fuel + 1 => do
    skipBlanks
    if ← acceptNewline then skipBlankLines fuel

/-- The rest of a string between triple double quotes. -/
def blockBody : Nat → List Char → Scan (List Char)
  | 0, _ => failure
  | fuel + 1, sofar => do
    if let some quotes ← closingQuotes '"' then return sofar.reverse ++ quotes
    if ← acceptNewline then return ← blockBody fuel ('\n' :: sofar)
    match ← get with
    | '\\' :: rest => do
      match escapeAt rest with
      | some (c, rest) => do
        set rest
        blockBody fuel (c :: sofar)
      | none => do
        set rest
        skipBlanks
        unless ← acceptNewline do failure
        skipBlankLines fuel
        blockBody fuel sofar
    | c :: rest => do
      unless isVisible c do failure
      set rest
      blockBody fuel (c :: sofar)
    | [] => failure

/-- The rest of a string between triple single quotes. -/
def literalBlockBody : Nat → List Char → Scan (List Char)
  | 0, _ => failure
  | fuel + 1, sofar => do
    if let some quotes ← closingQuotes '\'' then return sofar.reverse ++ quotes
    if ← acceptNewline then return ← literalBlockBody fuel ('\n' :: sofar)
    match ← get with
    | c :: rest => do
      unless isVisible c do failure
      set rest
      literalBlockBody fuel (c :: sofar)
    | [] => failure

/-- The rest of a string between single quotes. -/
def literalBody : Scan (List Char) := do
  let body ← takeWhile fun c => isVisible c && c != '\''
  expect "'"
  return body

/-- A string on one line, which may also be a key. -/
def lineString : Scan String := do
  let body ← if ← accept "\"" then basicBody ((← get).length + 1) []
    else do
      expect "'"
      literalBody
  return String.ofList body

/-- Any string. A line end right after the opening of a block is not part of it. -/
def anyString : Scan String := do
  if ← accept "\"\"\"" then
    let _ ← acceptNewline
    return String.ofList (← blockBody ((← get).length + 1) [])
  if ← accept "'''" then
    let _ ← acceptNewline
    return String.ofList (← literalBlockBody ((← get).length + 1) [])
  lineString

/-! ## Numbers -/

/-- Digits in which single underscores may stand between two digits. -/
def spacedDigits (isDigit : Char → Bool) : Nat → Scan (List Char)
  | 0 => failure
  | fuel + 1 => do
    let digits ← takeWhile isDigit
    if digits.isEmpty then failure
    if ← accept "_" then return digits ++ (← spacedDigits isDigit fuel)
    return digits

def isBinaryDigit (c : Char) : Bool := c == '0' || c == '1'

def isOctalDigit (c : Char) : Bool := '0' ≤ c && c ≤ '7'

/-- An integer must fit 64 bits with its sign. -/
def integer (n : Int) : Scan Document := do
  unless -Nat.pow 2 63 ≤ n && n < Nat.pow 2 63 do failure
  return .int n

/-- The least number that rounds to infinity: half a unit above the greatest finite double. -/
def overflowBound : Nat := (Nat.pow 2 54 - 1) * Nat.pow 2 970

/-- Whether a decimal number is too large for a double. -/
def overflows (mantissa : Nat) (exponent : Int) : Bool :=
  if mantissa = 0 then false
  else if 400 < (Nat.toDigits 10 mantissa).length + exponent then true
  else if 0 ≤ exponent then overflowBound ≤ mantissa * Nat.pow 10 exponent.toNat
  else if exponent < -5000 then false
  else overflowBound * Nat.pow 10 (-exponent).toNat ≤ mantissa

/-- The sign in front of a number. -/
def acceptSign : Scan (List Char) := do
  if ← accept "+" then return ['+']
  if ← accept "-" then return ['-']
  return []

/-- A number in decimal notation after its sign. -/
def decimal (sign : List Char) : Scan Document := do
  let fuel := (← get).length + 1
  let whole ← if ← accept "0" then pure ['0'] else spacedDigits Char.isDigit fuel
  let fraction ← if ← accept "." then spacedDigits Char.isDigit fuel else pure []
  let isScaled := (← accept "e") || (← accept "E")
  let (expSign, exp) ← if isScaled then do
      let s ← acceptSign
      pure (s, ← spacedDigits Char.isDigit fuel)
    else pure ([], [])
  let negative := sign == ['-']
  if fraction.isEmpty && !isScaled then
    let n : Int := digitsValue 10 whole
    integer (if negative then -n else n)
  else
    let scale : Int := digitsValue 10 exp
    let exponent := (if expSign == ['-'] then -scale else scale) - fraction.length
    if !negative && overflows (digitsValue 10 (whole ++ fraction)) exponent then failure
    return .number (String.ofList (sign ++ whole ++
      (if fraction.isEmpty then [] else '.' :: fraction) ++
      (if isScaled then 'e' :: expSign ++ exp else [])))

/-- A number that is neither a date nor a time. -/
def number : Scan Document := do
  let fuel := (← get).length + 1
  if ← accept "0x" then return ← integer (digitsValue 16 (← spacedDigits isHexDigit fuel))
  if ← accept "0o" then return ← integer (digitsValue 8 (← spacedDigits isOctalDigit fuel))
  if ← accept "0b" then return ← integer (digitsValue 2 (← spacedDigits isBinaryDigit fuel))
  let sign ← acceptSign
  for name in ["inf", "nan"] do
    if ← accept name then return .number (String.ofList sign ++ name)
  decimal sign

/-! ## Dates and times -/

/-- A number of two digits between two bounds. -/
def twoDigits (low high : Nat) : Scan Nat := do
  let n := digitsValue 10 (← takeExactly 2 Char.isDigit)
  unless low ≤ n && n ≤ high do failure
  return n

def padded (width n : Nat) : String :=
  let digits := Nat.toDigits 10 n
  String.ofList (List.replicate (width - digits.length) '0' ++ digits)

/-- The days of a month. -/
def daysIn (year month : Nat) : Nat :=
  if month = 2 then
    if year % 4 = 0 && (year % 100 ≠ 0 || year % 400 = 0) then 29 else 28
  else if [4, 6, 9, 11].contains month then 30
  else 31

/-- A date, as year, month and day. -/
def date : Scan String := do
  let year := digitsValue 10 (← takeExactly 4 Char.isDigit)
  expect "-"
  let month ← twoDigits 1 12
  expect "-"
  let day ← twoDigits 1 31
  unless day ≤ daysIn year month do failure
  return s!"{padded 4 year}-{padded 2 month}-{padded 2 day}"

/-- A time of day. Nine decimal places of a second are kept, without trailing zeros. -/
def time : Scan String := do
  let hour ← twoDigits 0 23
  expect ":"
  let minute ← twoDigits 0 59
  expect ":"
  let second ← twoDigits 0 60
  let fraction ← if ← accept "." then do
      let digits ← takeWhile Char.isDigit
      if digits.isEmpty then failure
      pure ((digits.take 9).reverse.dropWhile (· == '0')).reverse
    else pure []
  let places := if fraction.isEmpty then "" else "." ++ String.ofList fraction
  return s!"{padded 2 hour}:{padded 2 minute}:{padded 2 second}" ++ places

/-- The offset of a time from universal time. An offset of nothing counts as one ahead of it. -/
def offset : Scan String := do
  if (← accept "Z") || (← accept "z") then return "Z"
  let sign ← acceptSign
  if sign.isEmpty then return ""
  let hour ← twoDigits 0 23
  expect ":"
  let minute ← twoDigits 0 59
  let sign := if hour + minute = 0 then "+" else String.ofList sign
  return s!"{sign}{padded 2 hour}:{padded 2 minute}"

/-- A date, and perhaps the time of day after it. -/
def dateTime : Scan String := do
  let day ← date
  match ← get with
  | c :: rest =>
    let timed := c == 'T' || c == 't' ||
      (c == ' ' && (rest.take 2).all Char.isDigit && rest[2]? == some ':')
    if timed then do
      set rest
      let clock ← time
      return day ++ "T" ++ clock ++ (← offset)
    else return day
  | [] => return day

/-- The key of the record that a date or a time is read as. -/
def momentKey : String := "$__toml_private_datetime"

/-- A date, a time or a number. -/
def numberOrMoment : Scan Document := do
  let cs ← get
  let year := cs.take 4
  let hour := cs.take 2
  if year.length = 4 && year.all Char.isDigit && cs[4]? == some '-' then
    return .record [(momentKey, .text (← dateTime))]
  if hour.length = 2 && hour.all Char.isDigit && cs[2]? == some ':' then
    return .record [(momentKey, .text (← time))]
  number

end ClusterHarness.Toml
