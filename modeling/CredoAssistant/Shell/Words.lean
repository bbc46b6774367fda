import CredoAssistant.Validation.Fault

/-!
Shell words. A command line splits into words at blanks outside quotation; words join to a command
line that splits back into them. Outside quotation a backslash takes any character literally,
between double quotation marks only those two marks of quotation themselves.
-/
namespace CredoAssistant.Shell

/-- Characters that end a word. -/
def isSeparator (c : Char) : Bool := c == ' ' || c == '\t' || c == '\n' || c == '\r'

/-- Characters of a word that need no quotation. -/
def isPlain (c : Char) : Bool :=
  ('a' ≤ c && c ≤ 'z') || ('A' ≤ c && c ≤ 'Z') || ('0' ≤ c && c ≤ '9')
    || "_@%+=:,./-".toList.contains c

/-- The quotation around the next character. -/
inductive Quotation
  | bare
  | single
  | double
  deriving DecidableEq, Repr

/-- A character added to the word, which starts when there is none. -/
def extend (word : Option (List Char)) (c : Char) : Option (List Char) := some (c :: word.getD [])

/-- Puts a word that has ended in front of the words behind it. -/
def finish (word : Option (List Char)) (rest : List (List Char)) : List (List Char) :=
  match word with
  | none => rest
  | some cs => cs.reverse :: rest

/-- Splits what follows a part of a word. The word is kept in reverse; it is none between words and
empty after an empty quotation. -/
def splitFrom (q : Quotation) (word : Option (List Char)) :
    List Char → Except Refusal (List (List Char))
  | [] =>
    match q with
    | .bare => .ok (finish word [])
    | _ => .error .unclosedQuotation
  | c :: rest =>
    match q with
    | .bare =>
      if isSeparator c then (splitFrom .bare none rest).map (finish word)
      else if c = '\'' then splitFrom .single (some (word.getD [])) rest
      else if c = '"' then splitFrom .double (some (word.getD [])) rest
      else if c = '\\' then
        match rest with
        | [] => .error .danglingEscape
        | d :: tail => splitFrom .bare (extend word d) tail
      else splitFrom .bare (extend word c) rest
    | .single =>
      if c = '\'' then splitFrom .bare word rest else splitFrom .single (extend word c) rest
    | .double =>
      if c = '"' then splitFrom .bare word rest
      else if c = '\\' then
        match rest with
        | [] => .error .danglingEscape
        | d :: tail =>
          if d = '"' ∨ d = '\\' then splitFrom .double (extend word d) tail
          else splitFrom .double (extend (extend word '\\') d) tail
      else splitFrom .double (extend word c) rest

/-- Splits a command line into its words. -/
def split (line : String) : Except Refusal (List String) :=
  (splitFrom .bare none line.toList).map fun words => words.map String.ofList

/-- A character between apostrophes; an apostrophe leaves them and comes back. -/
def quoteChar (c : Char) : List Char :=
  if c = '\'' then "'\"'\"'".toList else [c]

/-- A word as it stands in a command line: as it is when it needs no quotation, else between
apostrophes. -/
def quote (word : List Char) : List Char :=
  if !word.isEmpty && word.all isPlain then word
  else '\'' :: word.flatMap quoteChar ++ ['\'']

/-- The words with one blank between them. -/
def joinWords : List (List Char) → List Char
  | [] => []
  | [w] => quote w
  | w :: rest => quote w ++ ' ' :: joinWords rest

/-- The command line of some words. -/
def join (words : List String) : String :=
  String.ofList (joinWords (words.map String.toList))

/-- The command line that a process is started with; there must be a word. -/
def commandLine? (words : List String) : Option String :=
  if words.isEmpty then none else some (join words)

end CredoAssistant.Shell
