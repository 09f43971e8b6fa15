import ClusterHarness.Machine.Shell.Command

/-!
# Tokens

The tokens that a script consists of, how complaints show them, and what can be wrong with a
script.
-/

namespace ClusterHarness.Machine.Shell

inductive Token where
  | endOfFile
  | newline
  | semicolon
  | ampersand
  | and
  | or
  | pipe
  | opening
  | closing
  /-- The mark after an arm of `case`. -/
  | armEnd
  | redirection
  | word
  | not
  | case
  | do
  | done
  | elif
  | else
  | esac
  | fi
  | for
  | if
  | in
  | then
  | until
  | while
  | openBrace
  | closeBrace
deriving DecidableEq, Repr, Inhabited

namespace Token

/-- The words that are tokens of their own where a command may begin. -/
def keywords : List (String × Token) :=
  [("!", not), ("case", case), ("do", .do), ("done", done), ("elif", elif), ("else", .else),
    ("esac", esac), ("fi", fi), ("for", .for), ("if", .if), ("in", .in), ("then", .then),
    ("until", «until»), ("while", «while»), ("\x7b", openBrace), ("\x7d", closeBrace)]

def keyword? (o : Octets) : Option Token := keywords.lookup (String.ofList o)

/-- Whether a list of commands ends before a token. -/
def endsList : Token → Bool
  | endOfFile | closing | armEnd | .do | done | elif | .else | esac | fi | .then => true
  | .closeBrace => true
  | _ => false

/-- How a complaint shows a token. -/
def text (t : Token) : String :=
  match t with
  | endOfFile => "end of file"
  | newline => "newline"
  | redirection => "redirection"
  | word => "word"
  | semicolon => "\";\""
  | ampersand => "\"&\""
  | and => "\"&&\""
  | or => "\"||\""
  | pipe => "\"|\""
  | opening => "\"(\""
  | closing => "\")\""
  | armEnd => "\";;\""
  | t => "\"" ++ (((keywords.find? (·.2 == t)).map (·.1)).getD "") ++ "\""

end Token

/-- What is wrong with a script. -/
inductive Fault where
  | unexpected (found : Token) (expected : Option Token)
  | loopVariable
  | functionName
  | openQuotation
  | openExpression
  | openParameter
  | openBackquote
  | tooDeep
deriving DecidableEq, Repr, Inhabited

def Fault.message : Fault → String
  | unexpected found none => s!"{found.text} unexpected"
  | unexpected found (some t) => s!"{found.text} unexpected (expecting {t.text})"
  | loopVariable => "Bad for loop variable"
  | functionName => "Bad function name"
  | openQuotation => "Unterminated quoted string"
  | openExpression => "Missing '))'"
  | openParameter => "Missing '\x7d'"
  | openBackquote => "EOF in backquote substitution"
  | tooDeep => "Too many commands inside each other"

end ClusterHarness.Machine.Shell
