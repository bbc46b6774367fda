import CredoAssistant.Entries

/-!
Shell scripts as data. Words keep the expansions that are due when a command runs; here-documents
are kept apart, under the number that their redirection names.
-/
namespace CredoAssistant.Shell

/-- What is asked of a parameter: its value, its length, a word in its place when it is missing or
when it is there, an assignment or a complaint when it is missing, or its value without a pattern at
one of its ends. -/
inductive Use
  | value
  | length
  | whenMissing
  | whenSet
  | assign
  | require
  | trimStart (longest : Bool)
  | trimEnd (longest : Bool)
  | unknown
  deriving DecidableEq, Repr, Inhabited

/-- How a redirection opens a file. -/
inductive Opening
  | read
  | readWrite
  | write
  | clobber
  | append
  deriving DecidableEq, Repr, Inhabited

mutual

/-- A part of a word. A mark stands where a quotation begins or ends, so that a word in quotation
marks counts even when it is empty. With `strict` an empty parameter counts as missing. -/
inductive Piece
  | char (c : Char) (quoted : Bool)
  | mark
  | parameter (name : String) (use : Use) (strict : Bool) (word : List Piece) (quoted : Bool)
  | output (script : Command) (quoted : Bool)
  | arithmetic (expression : List Piece) (quoted : Bool)

/-- A redirected stream: to a file, to another stream, or to a here-document. -/
inductive Redirect
  | file (stream : Nat) (opening : Opening) (name : List Piece)
  | duplicate (stream : Nat) (source : List Piece)
  | document (stream : Nat) (number : Nat)

/-- The patterns and the commands of one case. -/
inductive Case
  | mk (patterns : List (List Piece)) (body : Command)

/-- A script as a tree of commands. Lines are those on which a command starts. -/
inductive Command
  | nothing
  | simple (line : Nat) (assignments words : List (List Piece)) (redirects : List Redirect)
  | sequence (commands : List Command)
  | both (a b : Command)
  | either (a b : Command)
  | pipe (parts : List Command)
  | background (line : Nat) (body : Command) (redirects : List Redirect)
  | negate (a : Command)
  | redirected (line : Nat) (body : Command) (redirects : List Redirect)
  | subshell (line : Nat) (body : Command) (redirects : List Redirect)
  | conditional (test yes no : Command)
  | loop (whileTrue : Bool) (test body : Command)
  | each (line : Nat) (name : String) (words : List (List Piece)) (body : Command)
  | choice (line : Nat) (subject : List Piece) (cases : List Case)
  | define (name : String) (body : Command)

end

instance : Inhabited Piece := ⟨.mark⟩

instance : Inhabited Command := ⟨.nothing⟩

/-- A word as its pieces in order. -/
abbrev Word := List Piece

/-- A redirection with its words expanded. -/
inductive Target
  | file (stream : Nat) (opening : Opening) (name : String)
  | copy (stream source : Nat)
  | close (stream : Nat)
  | document (stream number : Nat)
  deriving DecidableEq, Repr

def Target.stream : Target → Nat
  | file stream .. => stream
  | copy stream _ => stream
  | close stream => stream
  | document stream _ => stream

def isNameStart (c : Char) : Bool := c.isAlpha || c == '_'

def isNameChar (c : Char) : Bool := c.isAlphanum || c == '_'

/-- Whether a text can name a variable. -/
def isName (cs : List Char) : Bool := cs.head?.any isNameStart && cs.all isNameChar

/-- Parameters of one character that is no letter. -/
def isSpecial (c : Char) : Bool := "@*#?-$!".toList.contains c || c.isDigit

/-- The text of a word without quotation or expansion. -/
def plainText? (w : Word) : Option (List Char) :=
  w.mapM fun
    | .char c false => some c
    | _ => none

/-- Whether a word starts with a name and an equals sign. -/
def isAssignment (w : Word) : Bool :=
  let front := w.takeWhile fun
    | .char c false => c != '='
    | _ => false
  (plainText? front).any isName &&
    match w.drop front.length with
    | .char '=' false :: _ => true
    | _ => false

/-- The special commands that belong to the language. -/
def specialBuiltins : List String :=
  [".", ":", "break", "continue", "eval", "exec", "exit", "export", "local", "readonly", "return",
    "set", "shift", "times", "trap", "unset"]

/-- The other commands that a shell runs by itself. -/
def plainBuiltins : List String :=
  ["[", "alias", "bg", "cd", "chdir", "command", "echo", "false", "fg", "getopts", "hash", "jobs",
    "kill", "printf", "pwd", "read", "test", "true", "type", "ulimit", "umask", "unalias",
    "wait"]

end CredoAssistant.Shell
