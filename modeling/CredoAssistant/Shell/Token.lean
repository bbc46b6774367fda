import CredoAssistant.Shell.Script

/-!
The tokens of shell scripts. A word is read with the quotations and expansions in it; what a command
substitution holds is read by a reader of commands that the caller hands in.
-/
namespace CredoAssistant.Shell

/-- A redirection before its file or its here-document is known. -/
inductive RedirectKind
  | file (opening : Opening)
  | duplicate
  | document (dropTabs : Bool)
  deriving DecidableEq, Repr

/-- The smallest parts of a script. -/
inductive Token
  | endOfFile
  | newline
  | operator (s : String)
  | keyword (s : String)
  | redirect (stream : Nat) (kind : RedirectKind)
  | word (w : Word) (quoted : Bool)

namespace Token

/-- A token as messages show it. -/
def shown : Token → String
  | endOfFile => "end of file"
  | newline => "newline"
  | operator s => "\"" ++ s ++ "\""
  | keyword s => "\"" ++ s ++ "\""
  | redirect .. => "redirection"
  | word .. => "word"

def isOperator (s : String) : Token → Bool
  | operator t => t == s
  | _ => false

def isKeyword (s : String) : Token → Bool
  | keyword t => t == s
  | _ => false

/-- Whether a token ends the list of commands before it. -/
def isEnding : Token → Bool
  | endOfFile => true
  | operator s => [")", ";;"].contains s
  | keyword s => ["do", "done", "elif", "else", "esac", "fi", "then", "\x7d"].contains s
  | _ => false

end Token

/-- The words of the language. -/
def keywords : List String :=
  ["!", "case", "do", "done", "elif", "else", "esac", "fi", "for", "if", "in", "then", "until",
    "while", "\x7b", "\x7d"]

/-- What a text lacks to be a script. -/
inductive SyntaxFault
  | unexpected (found : String) (expected : Option String)
  | unterminatedQuote
  | missingBrace
  | missingParentheses
  | openSubstitution
  | badLoopVariable
  | badFunctionName
  deriving DecidableEq, Repr

def SyntaxFault.message : SyntaxFault → String
  | unexpected found none => found ++ " unexpected"
  | unexpected found (some expected) => found ++ " unexpected (expecting " ++ expected ++ ")"
  | unterminatedQuote => "Unterminated quoted string"
  | missingBrace => "Missing '\x7d'"
  | missingParentheses => "Missing '))'"
  | openSubstitution => "EOF in backquote substitution"
  | badLoopVariable => "Bad for loop variable"
  | badFunctionName => "Bad function name"

/-- A fault and the line on which it shows. -/
structure SyntaxError where
  line : Nat
  fault : SyntaxFault
  deriving DecidableEq, Repr

/-- What the next token is checked for: words of the language, line ends to skip, other names of
commands, or the mark of a here-document, in which nothing is expanded. -/
structure Checks where
  keywords : Bool
  newlines : Bool
  aliases : Bool
  delimiter : Bool
  deriving DecidableEq, Repr

namespace Checks

def none : Checks := ⟨false, false, false, false⟩

/-- Where a command begins. -/
def command : Checks := ⟨true, false, true, false⟩

/-- Where a command begins after any number of line ends. -/
def nextCommand : Checks := ⟨true, true, true, false⟩

end Checks

/-- A here-document whose text begins on the next line. -/
structure PendingDocument where
  number : Nat
  delimiter : List Char
  dropTabs : Bool
  literal : Bool
  deriving Repr

/-- An alias in use: its name, how much was left behind it where it was met, and whether its text
ends in a blank. It is in use while more is left than that. -/
structure AliasUse where
  name : String
  left : Nat
  endsBlank : Bool
  deriving DecidableEq, Repr

/-- A text on its way into tokens: what is left of it, the number of its line, the last token, which
is read again when it is pushed back, and the here-documents that were met. -/
structure Reader where
  rest : List Char
  line : Nat
  last : Token
  pushed : Bool
  checks : Checks
  pending : List PendingDocument
  documents : Entries Nat Word
  nextDocument : Nat
  aliases : Entries String String
  inUse : List AliasUse

/-- A step of reading. -/
abbrev Parse := StateT Reader (Except SyntaxError)

namespace Parse

def fail {α : Type} (fault : SyntaxFault) : Parse α := do
  throw ⟨(← get).line, fault⟩

def check (c : Checks) : Parse Unit := modify fun r => { r with checks := c }

def pushBack : Parse Unit := modify fun r => { r with pushed := true }

/-- Drops backslashes before line ends: the lines, and what follows. -/
def joinLines : List Char → Nat × List Char
  | '\\' :: '\n' :: rest =>
    let (n, rest) := joinLines rest
    (n + 1, rest)
  | cs => (0, cs)

/-- The next character after joined lines, which stays where it is. -/
def peek : Parse (Option Char) := do
  let r ← get
  let (n, rest) := joinLines r.rest
  set { r with rest, line := r.line + n }
  pure rest.head?

/-- The next character as it stands. -/
def next : Parse (Option Char) := do
  let r ← get
  match r.rest with
  | [] => pure none
  | c :: rest =>
    set { r with rest, line := if c = '\n' then r.line + 1 else r.line }
    pure (some c)

def skip : Parse Unit := do
  let _ ← next

/-- Drops the next character; a line end does not count as one. -/
def swallow : Parse Unit := modify fun r => { r with rest := r.rest.drop 1 }

/-- Takes characters of class `p`, across joined lines. -/
def takeWhile (p : Char → Bool) : Nat → List Char → Parse (List Char)
  | 0, acc => pure acc.reverse
  | fuel + 1, acc => do
    match ← peek with
    | some c => if p c then do skip; takeWhile p fuel (c :: acc) else pure acc.reverse
    | none => pure acc.reverse

/-- A bound for the steps through what is left. -/
def bound : Parse Nat := do return (← get).rest.length + 2

end Parse

/-- The readers of commands inside a word: up to the end of the text, or up to a parenthesis. -/
structure Inner where
  list : Parse Command
  closed : Parse Command

/-- Where a part of a word stands. In the operand of a parameter, `inner` tells whether a quotation
mark is open in it. -/
inductive Context
  | bare
  | single
  | double (inOperand : Bool)
  | operand
  | quotedOperand (inner inDocument : Bool)
  | arithmetic (depth : Nat)
  | document (delimiter : List Char) (dropTabs fresh : Bool)
  deriving DecidableEq, Repr

namespace Context

/-- Whether expansions are quoted here. -/
def isQuoted : Context → Bool
  | bare => false
  | operand => false
  | _ => true

/-- The context of the operand of a parameter. A pattern stands for itself. -/
def forOperand (isPattern : Bool) (c : Context) : Context :=
  if isPattern || !c.isQuoted then operand
  else
    match c with
    | document .. => quotedOperand false true
    | quotedOperand _ inDocument => quotedOperand false inDocument
    | _ => quotedOperand false false

end Context

/-- The characters that end a word outside quotation marks. -/
def endsWord (c : Char) : Bool := "\n\t <>();&|".toList.contains c

namespace Parse

/-- Reads a command substitution in grave accents after the first of them: its text. -/
def backquoted (quoted : Bool) : Nat → List Char → Parse (List Char)
  | 0, _ => fail .openSubstitution
  | fuel + 1, acc => do
    match ← peek with
    | none => fail .openSubstitution
    | some '`' => do
      skip
      pure acc.reverse
    | some '\\' => do
      skip
      match ← next with
      | none => fail .openSubstitution
      | some c =>
        if c = '\\' ∨ c = '`' ∨ c = '$' ∨ (quoted ∧ c = '"') then backquoted quoted fuel (c :: acc)
        else backquoted quoted fuel (c :: '\\' :: acc)
    | some c => do
      skip
      backquoted quoted fuel (c :: acc)

/-- Reads a text of its own by `body`; only the here-documents in it remain. -/
def within (cs : List Char) (line : Nat) (body : Parse Command) : Parse Command := do
  let r ← get
  set { r with rest := cs, line, pushed := false, checks := .none, pending := [] }
  let c ← body
  let inner ← get
  set { r with documents := inner.documents, nextDocument := inner.nextDocument }
  pure c

/-- Reads what stands between parentheses by `body`. -/
def nested (body : Parse Command) : Parse Command := do
  let r ← get
  set { r with pushed := false, checks := .none, pending := [] }
  let c ← body
  modify fun inner => { inner with checks := r.checks, pending := r.pending }
  pure c

/-- What a parameter in braces is used for, by the character behind its name, and whether an operand
follows. -/
def useOf (strict : Bool) (c : Option Char) : Use × Bool :=
  match c with
  | some '}' => (.value, strict)
  | some '-' => (.whenMissing, true)
  | some '+' => (.whenSet, true)
  | some '?' => (.require, true)
  | some '=' => (.assign, true)
  | _ => (.unknown, true)

/-- The name, the use, and whether empty counts as missing, of a parameter after its brace. The flag
says that an operand follows. -/
def bracedParameter : Parse (List Char × Use × Bool × Bool) := do
  let fuel ← bound
  let named (first : Char) : Parse (List Char) :=
    if isNameStart first then takeWhile isNameChar fuel [] else takeWhile Char.isDigit fuel []
  -- The use of a parameter, with the character behind its name still to be read.
  let used (name : List Char) : Parse (List Char × Use × Bool × Bool) := do
    let c ← peek
    swallow
    match c with
    | some ':' => do
      let d ← peek
      swallow
      let (use, operand) := useOf true d
      pure (name, use, true, operand)
    | some '%' =>
      if (← peek) = some '%' then do skip; pure (name, .trimEnd true, false, true)
      else pure (name, .trimEnd false, false, true)
    | some '#' =>
      if (← peek) = some '#' then do skip; pure (name, .trimStart true, false, true)
      else pure (name, .trimStart false, false, true)
    | c =>
      let (use, operand) := useOf false c
      pure (name, use, false, operand)
  let bad (name : List Char) : List Char × Use × Bool × Bool := (name, .unknown, false, true)
  match ← peek with
  | none => pure (bad [])
  | some '}' => pure (bad [])
  | some '#' => do
    skip
    match ← peek with
    | some c =>
      if isNameChar c then do
        let name ← named c
        if (← peek) = some '}' then pure (name, .length, false, true) else pure (bad name)
      else
        -- A length only when a brace follows the next character.
        let r ← get
        let behind := (joinLines (r.rest.drop 1)).2
        if c ≠ '}' ∧ behind.head? = some '}' then
          if isSpecial c then do skip; pure ([c], .length, false, true)
          else do swallow; pure (bad [])
        else used ['#']
    | none => pure (bad [])
  | some c =>
    if isNameChar c then do used (← named c)
    else if isSpecial c then do skip; used [c]
    else do swallow; pure (bad [])

/-- Reads the pieces of a word in a context; `acc` holds those before, the last one first. `plain`
takes dollar signs and grave accents literally. -/
def pieces (inner : Inner) (plain : Bool) : Nat → Context → List Piece → Parse (List Piece)
  | 0, _, acc => pure acc
  | fuel + 1, context, acc => do
    let quoted := context.isQuoted
    let go := pieces inner plain fuel
    -- A quotation of its own, which its closing mark ends.
    let quotation (c : Context) : Parse (List Piece) := do
      skip
      let acc ← go c (.mark :: acc)
      go context (.mark :: acc)
    let literal (c : Char) : Parse (List Piece) := do
      skip
      go context (.char c quoted :: acc)
    -- A backslash takes some characters literally and stands for itself before the others.
    let escape (takes : Char → Bool) : Parse (List Piece) := do
      skip
      match ← next with
      | none => go context (.char '\\' true :: acc)
      | some c =>
        if takes c then go context (.char c true :: acc)
        else go context (.char c true :: .char '\\' true :: acc)
    let parameter (braced : Bool) : Parse (List Piece) := do
      if braced then do
        skip
        let (name, use, strict, operand) ← bracedParameter
        let isPattern :=
          match use with
          | .trimStart _ => true
          | .trimEnd _ => true
          | _ => false
        let word ← if operand then go (context.forOperand isPattern) [] else pure []
        go context (.parameter (String.ofList name) use strict word.reverse quoted :: acc)
      else do
        let c ← peek
        let name ←
          if c.any isNameStart then takeWhile isNameChar fuel []
          else do skip; pure c.toList
        go context (.parameter (String.ofList name) .value false [] quoted :: acc)
    let dollar : Parse (List Piece) := do
      skip
      let c ← peek
      if plain then go context (.char '$' quoted :: acc)
      else if c = some '(' then do
        skip
        if (← peek) = some '(' then do
          skip
          let body ← go (.arithmetic 0) []
          go context (.arithmetic body.reverse quoted :: acc)
        else do
          let script ← nested inner.closed
          go context (.output script quoted :: acc)
      else if c = some '{' then parameter true
      else if c.any isNameStart || c.any isSpecial then parameter false
      else go context (.char '$' quoted :: acc)
    let grave : Parse (List Piece) := do
      skip
      if plain then go context (.char '`' quoted :: acc)
      else do
        let text ← backquoted quoted (← bound) []
        let script ← within text 1 inner.list
        go context (.output script quoted :: acc)
    let isSign (c : Char) : Bool := c == '\\' || c == '`' || c == '$'
    match context with
    | .single =>
      match ← next with
      | none => fail .unterminatedQuote
      | some '\'' => pure acc
      | some c => go context (.char c true :: acc)
    | .bare =>
      match ← peek with
      | none => pure acc
      | some '\'' => quotation .single
      | some '"' => quotation (.double false)
      | some '\\' => escape fun _ => true
      | some '$' => dollar
      | some '`' => grave
      | some c => if endsWord c then pure acc else literal c
    | .double inOperand =>
      match ← peek with
      | none => fail .unterminatedQuote
      | some '"' => do skip; pure acc
      | some '\\' => escape fun c => isSign c || c == '"' || (inOperand && c == '}')
      | some '$' => dollar
      | some '`' => grave
      | some c => literal c
    | .operand =>
      match ← peek with
      | none => fail .missingBrace
      | some '}' => do skip; pure acc
      | some '\'' => quotation .single
      | some '"' => quotation (.double true)
      | some '\\' => escape fun _ => true
      | some '$' => dollar
      | some '`' => grave
      | some c => literal c
    | .quotedOperand innerQuote inDocument =>
      match ← peek with
      | none => fail (if inDocument then .missingBrace else .unterminatedQuote)
      | some '}' => if innerQuote then literal '}' else do skip; pure acc
      | some '"' => do
        skip
        go (.quotedOperand (!innerQuote) inDocument) (.mark :: acc)
      | some '\\' => escape fun c => isSign c || c == '"' || c == '}'
      | some '$' => dollar
      | some '`' => grave
      | some c => literal c
    | .arithmetic depth =>
      match ← peek with
      | none => fail .missingParentheses
      | some '(' => do
        skip
        go (.arithmetic (depth + 1)) (.char '(' true :: acc)
      | some ')' => do
        skip
        if 0 < depth then go (.arithmetic (depth - 1)) (.char ')' true :: acc)
        else if (← peek) = some ')' then do skip; pure acc
        else go context (.char ')' true :: acc)
      | some '\\' => escape fun c => isSign c || c == '"'
      | some '$' => dollar
      | some '`' => grave
      | some c => literal c
    | .document delimiter dropTabs fresh =>
      let _ ← peek
      let r ← get
      let rest := if fresh && dropTabs then r.rest.dropWhile (· == '\t') else r.rest
      let behind := rest.drop delimiter.length
      if fresh && delimiter.isPrefixOf rest && (behind.isEmpty || behind.head? == some '\n') then do
        set { r with rest := behind.drop 1, line := r.line + 1 }
        pure acc
      else do
        set { r with rest }
        let context := Context.document delimiter dropTabs false
        match ← peek with
        | none => pure acc
        | some '\n' => do
          skip
          go (.document delimiter dropTabs true) (.char '\n' true :: acc)
        | some '\\' => do
          skip
          match ← next with
          | none => go context (.char '\\' true :: acc)
          | some c =>
            if isSign c then go context (.char c true :: acc)
            else go context (.char c true :: .char '\\' true :: acc)
        | some '$' => dollar
        | some '`' => grave
        | some c => do
          skip
          go context (.char c true :: acc)

/-- Reads a here-document without expansions: its lines up to the delimiter. -/
def literalDocument (delimiter : List Char) (dropTabs : Bool) :
    Nat → List Char → Parse (List Char)
  | 0, acc => pure acc
  | fuel + 1, acc => do
    let r ← get
    let rest := if dropTabs then r.rest.dropWhile (· == '\t') else r.rest
    let text := rest.takeWhile (· != '\n')
    let behind := rest.drop text.length
    if rest.isEmpty then do
      set { r with rest }
      pure acc
    else do
      set { r with rest := behind.drop 1, line := r.line + 1 }
      if text == delimiter then pure acc
      else
        let ended := if behind.isEmpty then [] else ['\n']
        literalDocument delimiter dropTabs fuel (ended ++ text.reverse ++ acc)

/-- Reads the here-documents that wait for the end of the line. -/
def documents (inner : Inner) : List PendingDocument → Parse Unit
  | [] => pure ()
  | d :: rest => do
    let fuel ← bound
    let body ←
      if d.literal then do
        let cs ← literalDocument d.delimiter d.dropTabs fuel []
        pure (cs.reverse.map fun c => Piece.char c true)
      else do
        let ps ← pieces inner false fuel (.document d.delimiter d.dropTabs true) []
        pure ps.reverse
    modify fun r => { r with documents := Entries.set d.number body r.documents }
    documents inner rest

def pendingDocuments (inner : Inner) : Parse Unit := do
  let waiting := (← get).pending
  modify fun r => { r with pending := [] }
  documents inner waiting

/-- Skips blanks and comments. -/
def skipBlanks : Nat → Parse Unit
  | 0 => pure ()
  | fuel + 1 => do
    match ← peek with
    | some ' ' => do skip; skipBlanks fuel
    | some '\t' => do skip; skipBlanks fuel
    | some '#' => do
      modify fun r => { r with rest := r.rest.dropWhile (· != '\n') }
      skipBlanks fuel
    | _ => pure ()

/-- The kind of a redirection, from its first character on. -/
def redirectKind : Parse RedirectKind := do
  let first ← next
  let second ← peek
  if first = some '>' then
    match second with
    | some '>' => do skip; pure (.file .append)
    | some '|' => do skip; pure (.file .clobber)
    | some '&' => do skip; pure .duplicate
    | _ => pure (.file .write)
  else
    match second with
    | some '<' => do
      skip
      if (← peek) = some '-' then do skip; pure (.document true) else pure (.document false)
    | some '&' => do skip; pure .duplicate
    | some '>' => do skip; pure (.file .readWrite)
    | _ => pure (.file .read)

/-- A word, or a redirection when a sign of one follows at most one digit. -/
def wordToken (inner : Inner) : Parse Token := do
  let r ← get
  let reversed ← pieces inner r.checks.delimiter (2 * r.rest.length + 4) .bare []
  let w := reversed.reverse
  let next ← peek
  let stream? : Option (Option Nat) :=
    match w with
    | [] => some none
    | [.char c false] => if c.isDigit then some (some (c.toNat - '0'.toNat)) else none
    | _ => none
  match stream?, next with
  | some stream, some c =>
    if c = '>' ∨ c = '<' then do
      let kind ← redirectKind
      pure (.redirect (stream.getD (if c = '>' then 1 else 0)) kind)
    else pure (.word w false)
  | _, _ =>
    let quoted := w.any fun
      | .mark => true
      | .char _ q => q
      | _ => false
    pure (.word w quoted)

/-- The next token as it stands in the text. -/
def rawToken (inner : Inner) : Parse Token := do
  let r ← get
  if r.pushed then do
    set { r with pushed := false }
    pure r.last
  else do
    skipBlanks (← bound)
    -- An operator of one character, or of two.
    let operator (c : Char) (twice : Bool) : Parse Token := do
      skip
      if twice && (← peek) == some c then do
        skip
        pure (.operator (String.ofList [c, c]))
      else pure (.operator (String.singleton c))
    match ← peek with
    | none => pure .endOfFile
    | some '\n' => do
      skip
      pure .newline
    | some '&' => operator '&' true
    | some '|' => operator '|' true
    | some ';' => operator ';' true
    | some '(' => operator '(' false
    | some ')' => operator ')' false
    | some _ => wordToken inner

/-- Skips line ends, after which here-documents may stand. -/
def skipNewlines (inner : Inner) : Nat → Token → Parse Token
  | 0, t => pure t
  | fuel + 1, t =>
    match t with
    | .newline => do
      pendingDocuments inner
      check .none
      skipNewlines inner fuel (← rawToken inner)
    | t => pure t

/-- The text that an alias puts in the place of a word. -/
def aliasOf? (r : Reader) (w : Word) : Option (String × String) := do
  let name ← plainText? w
  let name := String.ofList name
  let value ← Entries.get? name r.aliases
  if r.inUse.any fun a => a.name == name && a.left < r.rest.length then none else some (name, value)

/-- The next token, checked as was asked. -/
def tokenFrom (inner : Inner) : Nat → Checks → Parse Token
  | 0, _ => pure .endOfFile
  | fuel + 1, asked => do
    let before := (← get).rest.length
    let t ← rawToken inner
    let t ← if asked.newlines then skipNewlines inner (← bound) t else pure t
    check .none
    let plain : Option String :=
      match t with
      | .word w false => (plainText? w).map String.ofList
      | _ => none
    let r ← get
    -- Behind the text of an alias that ends in a blank, the next word may be an alias too.
    let follows := r.inUse.any fun a =>
      a.endsBlank && a.left < before && r.rest.length < a.left
    let asked := { asked with aliases := asked.aliases || follows }
    match t, plain with
    | .word w _, some s =>
      if asked.keywords && keywords.contains s then pure (.keyword s)
      else
        match if asked.aliases then aliasOf? r w else none with
        | some (name, value) => do
          let endsBlank := value.endsWith " " || value.endsWith "\t"
          modify fun r =>
            { r with
              rest := value.toList ++ r.rest
              inUse := ⟨name, r.rest.length, endsBlank⟩ :: r.inUse }
          tokenFrom inner fuel asked
        | none => pure t
    | t, _ => pure t

/-- Reads the next token. -/
def token (inner : Inner) : Parse Token := do
  let r ← get
  let t ← tokenFrom inner (r.aliases.length + 100) r.checks
  modify fun r => { r with last := t }
  pure t

/-- Complains about the token that was read last. -/
def unexpected {α : Type} (expected : Option Token) : Parse α := do
  fail (.unexpected (← get).last.shown (expected.map Token.shown))

end Parse

end CredoAssistant.Shell
