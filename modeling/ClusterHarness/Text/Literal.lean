import ClusterHarness.Text.Invisible

/-!
# Quoted literals in messages

How a message shows a text or a character literally: between quotes, with the quote and the
backslash escaped, the common control characters by letter, and every other invisible character
by its code point in hexadecimal.
-/

namespace ClusterHarness.Text

/-- The hexadecimal digits of a code point, without leading zeros. -/
def hexDigits (n : Nat) : List Char := Nat.toDigits 16 n

/-- One character as it stands inside a literal delimited by `delimiter`. -/
def escape (delimiter c : Char) : List Char :=
  match c with
  | '\x00' => ['\\', '0']
  | '\t' => ['\\', 't']
  | '\n' => ['\\', 'n']
  | '\r' => ['\\', 'r']
  | '\\' => ['\\', '\\']
  | c =>
    if c = delimiter then ['\\', c]
    else if isInvisible c then ['\\', 'u', '\x7b'] ++ hexDigits c.toNat ++ ['\x7d']
    else [c]

/-- A text between double quotes. -/
def literal (s : String) : String :=
  String.ofList ('"' :: s.toList.flatMap (escape '"') ++ ['"'])

/-- A character between single quotes. -/
def charLiteral (c : Char) : String :=
  String.ofList ('\'' :: escape '\'' c ++ ['\''])

end ClusterHarness.Text
