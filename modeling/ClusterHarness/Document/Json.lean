import ClusterHarness.Document

/-!
# Documents as JSON

Two printers: one line without blanks, and one field or item per line with two spaces of
indentation. Strings escape the double quote, the backslash and the control characters only.
-/

namespace ClusterHarness.Json

/-- One character inside a string. -/
def escape (c : Char) : List Char :=
  match c with
  | '"' => ['\\', '"']
  | '\\' => ['\\', '\\']
  | '\x08' => ['\\', 'b']
  | '\x0c' => ['\\', 'f']
  | '\n' => ['\\', 'n']
  | '\r' => ['\\', 'r']
  | '\t' => ['\\', 't']
  | c =>
    if c.toNat < 0x20 then
      let digits := Nat.toDigits 16 c.toNat
      ['\\', 'u'] ++ List.replicate (4 - digits.length) '0' ++ digits
    else [c]

/-- A string between double quotes. -/
def string (s : String) : String :=
  String.ofList ('"' :: s.toList.flatMap escape ++ ['"'])

/-- The text between the delimiters of a list or record, one part per line. -/
def block (opening closing : String) (indent : Nat) (parts : List String) : String :=
  let margin := String.ofList (List.replicate (2 * indent + 2) ' ')
  if parts.isEmpty then opening ++ closing
  else opening ++ "\n" ++ String.intercalate ",\n" (parts.map (margin ++ ·)) ++ "\n" ++
    String.ofList (List.replicate (2 * indent) ' ') ++ closing

mutual

/-- A document on one line. -/
def compact : Document → String
  | .null => "null"
  | .bool b => if b then "true" else "false"
  | .int n => toString n
  | .number s => s
  | .text s => string s
  | .list items => "[" ++ String.intercalate "," (compactItems items) ++ "]"
  | .record fields => "\x7b" ++ String.intercalate "," (compactFields fields) ++ "\x7d"

def compactItems : List Document → List String
  | [] => []
  | d :: ds => compact d :: compactItems ds

def compactFields : List (String × Document) → List String
  | [] => []
  | (name, d) :: fields => (string name ++ ":" ++ compact d) :: compactFields fields

end

mutual

/-- A document over several lines, with its continuation lines at least `indent` levels deep. -/
def pretty (indent : Nat) : Document → String
  | .list items => block "[" "]" indent (prettyItems (indent + 1) items)
  | .record fields => block "\x7b" "\x7d" indent (prettyFields (indent + 1) fields)
  | d => compact d

def prettyItems (indent : Nat) : List Document → List String
  | [] => []
  | d :: ds => pretty indent d :: prettyItems indent ds

def prettyFields (indent : Nat) : List (String × Document) → List String
  | [] => []
  | (name, d) :: fields => (string name ++ ": " ++ pretty indent d) :: prettyFields indent fields

end

end ClusterHarness.Json
