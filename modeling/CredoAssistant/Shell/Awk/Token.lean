import CredoAssistant.Shell.Awk.Regular
import CredoAssistant.Shell.Awk.Syntax

/-!
Tokens of programs for records. Lines that end behind a sign that asks for more do not count, and a
closing brace supplies the semicolon that may be missing before it.
-/
namespace CredoAssistant.Shell.Awk

/-- What a program is made of. A callee is a name with a parenthesis right behind it, and `supplied`
is a semicolon before a brace. An excess is a closing sign without an opening one, and a flaw ends
the tokens. -/
inductive Token
  | lineEnd
  | ending
  | supplied
  | sign (s : String)
  | word (s : String)
  | name (s : String)
  | callee (s : String)
  | builtin (f : Builtin) (s : String)
  | number (x : Floating) (s : String)
  | text (s : String)
  | pattern (s : String)
  | excess (s : String)
  | flaw (message : String)
  deriving Repr, Inhabited

/-- A token with the line that it stands on and the number of parentheses that are open behind
it. -/
structure Placed where
  token : Token
  line : Nat
  parens : Nat
  deriving Repr, Inhabited

namespace Token

/-- A token as messages show it. -/
def shown : Token → String
  | lineEnd => "end of line"
  | ending => "end of file"
  | supplied => "\x7d"
  | sign s => s
  | word s => s
  | name s => s
  | callee s => s
  | builtin _ s => s
  | number _ s => s
  | text s => s
  | pattern s => "/" ++ s ++ "/"
  | excess s => s
  | flaw s => s

def words : List String :=
  ["BEGIN", "END", "break", "continue", "delete", "do", "else", "exit", "for", "function",
    "getline", "if", "in", "next", "nextfile", "print", "printf", "return", "while"]

def builtins : List (String × Builtin) :=
  [("atan2", .atan2), ("close", .close), ("cos", .cos), ("exp", .exp), ("fflush", .flush),
    ("gsub", .gsub), ("index", .index), ("int", .int), ("length", .length), ("log", .log),
    ("match", .matchIn), ("mktime", .timeOf), ("rand", .rand), ("sin", .sin), ("split", .split),
    ("sprintf", .sprintf), ("sqrt", .sqrt), ("srand", .srand), ("strftime", .timeText),
    ("sub", .sub), ("substr", .substr), ("system", .system), ("systime", .time),
    ("tolower", .lower), ("toupper", .upper)]

/-- Signs, of which the first that fits counts. -/
def signs : List String :=
  ["&&", "||", "++", "--", "+=", "-=", "*=", "/=", "%=", "^=", "==", "<=", ">=", "!=", "!~", ">>",
    "(", ")", "[", "]", ";", ",", "+", "-", "*", "/", "%", "^", "!", ">", "<", "|", "?", ":", "~",
    "$", "="]

/-- Whether a slash behind a token divides. -/
def isOperand : Token → Bool
  | number _ _ => true
  | text _ => true
  | pattern _ => true
  | name _ => true
  | word s => s == "getline"
  | sign s => [")", "]", "++", "--"].contains s
  | _ => false

/-- Whether a statement is over before a closing brace. -/
def closesStatement : Token → Bool
  | lineEnd => true
  | supplied => true
  | sign s => s == ";" || s == "\x7d"
  | _ => false

/-- Whether the ends of lines behind a token do not count. -/
def goesOn : Token → Bool
  | lineEnd => true
  | word s => s == "do" || s == "else"
  | sign s => [";", "\x7b", "\x7d", "&&", "||", ","].contains s
  | _ => false

def isNameStart (c : Char) : Bool := c.isAlpha || c == '_'
def isNameChar (c : Char) : Bool := c.isAlphanum || c == '_'

/-- What is left behind blanks, comments and, if they do not count, ends of lines; how many lines
ended. -/
def skipBlanks (lines : Bool) : Nat → Nat → List Char → Nat × List Char
  | 0, n, cs => (n, cs)
  | fuel + 1, n, cs =>
    match cs with
    | '\\' :: '\n' :: rest => skipBlanks lines fuel (n + 1) rest
    | '\\' :: '\r' :: '\n' :: rest => skipBlanks lines fuel (n + 1) rest
    | '#' :: rest => skipBlanks lines fuel n (rest.dropWhile (· != '\n'))
    | '\n' :: rest => if lines then skipBlanks lines fuel (n + 1) rest else (n, cs)
    | c :: rest =>
      if c == ' ' || c == '\t' || c == '\r' || c == '\x0b' || c == '\x0c' then
        skipBlanks lines fuel n rest
      else (n, cs)
    | [] => (n, [])

/-- A text between quotation marks, in which escapes are left as they are; the number of lines in
it. -/
def quoted : Nat → Nat → List Char → List Char → Option (List Char × Nat × List Char)
  | 0, _, _, _ => none
  | fuel + 1, n, acc, cs =>
    match cs with
    | '"' :: rest => some (acc.reverse, n, rest)
    | '\\' :: '\n' :: rest => quoted fuel (n + 1) acc rest
    | '\\' :: c :: rest => quoted fuel n (c :: '\\' :: acc) rest
    | '\n' :: _ => none
    | c :: rest => quoted fuel n (c :: acc) rest
    | [] => none

/-- Text with its escapes carried out. Those that are not known stay. -/
def unescaped : Nat → List Char → List Char
  | 0, cs => cs
  | fuel + 1, cs =>
    match cs with
    | '\\' :: rest =>
      match rest with
      | '"' :: more => '"' :: unescaped fuel more
      | '\\' :: more => '\\' :: unescaped fuel more
      | _ =>
        match Regular.escape? rest with
        | some (c, more) => c :: unescaped fuel more
        | none => '\\' :: unescaped fuel rest
    | c :: rest => c :: unescaped fuel rest
    | [] => []

def unescapedText (s : String) : String := String.ofList (unescaped (s.length + 1) s.toList)

/-- An expression between slashes. A slash in a set is plain. -/
def slashed : Nat → Bool → List Char → List Char → Option (List Char × List Char)
  | 0, _, _, _ => none
  | fuel + 1, inSet, acc, cs =>
    match cs with
    | '/' :: rest =>
      if inSet then slashed fuel inSet ('/' :: acc) rest else some (acc.reverse, rest)
    | '\\' :: '/' :: rest => slashed fuel inSet ('/' :: acc) rest
    | '\\' :: '\n' :: rest => slashed fuel inSet acc rest
    | '\\' :: c :: rest => slashed fuel inSet (c :: '\\' :: acc) rest
    | '\n' :: _ => none
    | '[' :: '^' :: ']' :: rest =>
      if inSet then slashed fuel inSet ('[' :: acc) ('^' :: ']' :: rest)
      else slashed fuel true (']' :: '^' :: '[' :: acc) rest
    | '[' :: ']' :: rest =>
      if inSet then slashed fuel inSet ('[' :: acc) (']' :: rest)
      else slashed fuel true (']' :: '[' :: acc) rest
    | '[' :: ':' :: rest =>
      if inSet && rest.any (· == ':') then
        let name := rest.takeWhile fun c => c.isAlpha
        match rest.drop name.length with
        | ':' :: ']' :: more =>
          slashed fuel inSet (']' :: ':' :: name.reverse ++ ':' :: '[' :: acc) more
        | _ => slashed fuel inSet (':' :: '[' :: acc) rest
      else slashed fuel true (':' :: '[' :: acc) rest
    | '[' :: rest => slashed fuel true ('[' :: acc) rest
    | ']' :: rest => slashed fuel false (']' :: acc) rest
    | c :: rest => slashed fuel inSet (c :: acc) rest
    | [] => none

/-- A number without a sign in decimal notation, and what follows it. -/
def numeral? (cs : List Char) : Option (Token × List Char) :=
  let (whole, fraction, n) := Floating.pointedDigits Char.isDigit cs
  if n = 0 then none
  else
    let (power, m) := Floating.exponentOf 'e' (cs.drop n)
    let digits := Arithmetic.ofDigits 10 (whole ++ fraction)
    let (x, _) := Floating.ofPower .double false 10 digits (power - fraction.length) 5100
    some (number x (String.ofList (cs.take (n + m))), cs.drop (n + m))

/-- A name, which may be that of a function, a word of the language or one of its functions. -/
def ofName (s : String) (rest : List Char) : Token :=
  match words.contains s, (builtins.find? fun b => b.1 == s) with
  | true, _ => word s
  | false, some (_, f) => builtin f s
  | false, none => if rest.head? = some '(' then callee s else name s

/-- Reads the tokens of a program. `previous` is the one before them. -/
def read : Nat → Token → Nat → Nat → Nat → List Char → List Placed
  | 0, _, line, _, parens, _ => [⟨.ending, line, parens⟩]
  | fuel + 1, previous, line, braces, parens, cs =>
    let (n, cs) := skipBlanks previous.goesOn (cs.length + 1) 0 cs
    let line := line + n
    let one (t : Token) (rest : List Char) : List Placed :=
      ⟨t, line, parens⟩ :: read fuel t line braces parens rest
    let broken (message : String) : List Placed := [⟨.flaw message, line, parens⟩]
    match cs with
    | [] => [⟨.ending, line, parens⟩]
    | '\n' :: rest => ⟨.lineEnd, line, parens⟩ :: read fuel .lineEnd (line + 1) braces parens rest
    | '"' :: rest =>
      match quoted (rest.length + 1) 0 [] rest with
      | some (body, n, more) =>
        let s := String.ofList (unescaped (body.length + 1) body)
        ⟨.text s, line, parens⟩ :: read fuel (.text s) (line + n) braces parens more
      | none =>
        let front := String.ofList ((rest.takeWhile (· != '\n')).take 10)
        broken s!"line {line}: runaway string constant \"{front} ..."
    | '\x7b' :: rest =>
      ⟨.sign "\x7b", line, parens⟩ :: read fuel (.sign "\x7b") line (braces + 1) parens rest
    | '\x7d' :: rest =>
      if braces = 0 then
        ⟨.excess "\x7d", line, parens⟩ :: read fuel (.excess "\x7d") line braces parens rest
      else if previous.closesStatement then
        let (n, behind) := skipBlanks false (rest.length + 1) 0 rest
        let (n, rest) :=
          match behind with
          | ';' :: more => if braces = 1 then (n, more) else (0, rest)
          | _ => (0, rest)
        ⟨.sign "\x7d", line, parens⟩ :: read fuel (.sign "\x7d") (line + n) (braces - 1) parens rest
      else one .supplied cs
    | '(' :: rest =>
      ⟨.sign "(", line, parens + 1⟩ :: read fuel (.sign "(") line braces (parens + 1) rest
    | ')' :: rest =>
      if parens = 0 then
        ⟨.excess ")", line, parens⟩ :: read fuel (.excess ")") line braces parens rest
      else ⟨.sign ")", line, parens - 1⟩ :: read fuel (.sign ")") line braces (parens - 1) rest
    | c :: rest =>
      if c = '/' && !previous.isOperand then
        match slashed (rest.length + 1) false [] rest with
        | some (body, more) => one (.pattern (String.ofList body)) more
        | none =>
          let front := String.ofList ((rest.takeWhile (· != '\n')).take 10)
          broken s!"line {line}: runaway regular expression /{front} ..."
      else if isNameStart c then
        let body := cs.takeWhile isNameChar
        let more := cs.drop body.length
        one (ofName (String.ofList body) more) more
      else
        match numeral? cs with
        | some (t, more) => one t more
        | none =>
          match signs.find? fun s => s.toList.isPrefixOf cs with
          | some s => one (.sign s) (cs.drop s.length)
          | none =>
            let shown := String.ofList [c]
            broken s!"{line}: unexpected character '{shown}'"

/-- The tokens of a program. Its last line ends even if it is cut short. -/
def ofText (cs : List Char) : List Placed :=
  let cs := if cs.getLast? = some '\n' then cs else cs ++ ['\n']
  read (3 * cs.length + 3) .lineEnd 1 0 0 cs

end Token

end CredoAssistant.Shell.Awk
