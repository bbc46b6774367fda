import CredoAssistant.Shell.Token

/-!
The grammar of shell scripts. A script is read one complete command at a time, so that the commands
before a fault have run when it shows.
-/
namespace CredoAssistant.Shell

/-- How a list of commands is read: at the top, where a line end closes it; in a body, which holds
at least one command; or where it may be empty. -/
inductive ListMode
  | top
  | body
  | loose
  deriving DecidableEq, Repr

/-- The readers of what stands inside a command. -/
structure Bodies where
  body : Parse Command
  loose : Parse Command
  closed : Parse Command
  command : Parse Command

namespace Parse

/-- A redirection of a simple command after its sign: its file, stream or here-document. -/
def redirection (inner : Inner) (stream : Nat) (kind : RedirectKind) : Parse Redirect := do
  let isDocument :=
    match kind with
    | .document _ => true
    | _ => false
  if isDocument then check { Checks.none with delimiter := true }
  match ← token inner with
  | .word w quoted =>
    match kind with
    | .file opening => pure (.file stream opening w)
    | .duplicate => pure (.duplicate stream w)
    | .document dropTabs => do
      let r ← get
      let delimiter := w.filterMap fun
        | .char c _ => some c
        | _ => none
      let waiting : PendingDocument := ⟨r.nextDocument, delimiter, dropTabs, quoted⟩
      set { r with nextDocument := r.nextDocument + 1, pending := r.pending ++ [waiting] }
      pure (.document stream r.nextDocument)
  | _ => unexpected none

/-- Reads the redirections behind a compound command. -/
def redirections (inner : Inner) : Nat → List Redirect → Parse (List Redirect)
  | 0, acc => pure acc.reverse
  | fuel + 1, acc => do
    match ← token inner with
    | .redirect stream kind => do
      let r ← redirection inner stream kind
      redirections inner fuel (r :: acc)
    | _ => do
      pushBack
      pure acc.reverse

/-- Steps over a token that must come next. -/
def expect (inner : Inner) (t : Token) (is : Token → Bool) : Parse Unit := do
  if is (← token inner) then pure () else unexpected (some t)

def expectKeyword (inner : Inner) (s : String) : Parse Unit :=
  expect inner (.keyword s) (Token.isKeyword s)

/-- A simple command so far. -/
structure SimpleCommand where
  assignments : List Word
  words : List Word
  redirects : List Redirect

/-- Reads a simple command, or a function when parentheses follow its first word. Aliases and
assignments stand before the first word of the command only. -/
def simpleFrom (bodies : Bodies) (inner : Inner) (line : Nat) : Nat → SimpleCommand → Parse Command
  | 0, c => pure (.simple line c.assignments c.words c.redirects)
  | fuel + 1, c => do
    if c.words.isEmpty then check { Checks.none with aliases := true } else check .none
    match ← token inner with
    | .word w _ =>
      if c.words.isEmpty && isAssignment w then
        simpleFrom bodies inner line fuel { c with assignments := c.assignments ++ [w] }
      else simpleFrom bodies inner line fuel { c with words := c.words ++ [w] }
    | .redirect stream kind => do
      let r ← redirection inner stream kind
      simpleFrom bodies inner line fuel { c with redirects := c.redirects ++ [r] }
    | t =>
      match t.isOperator "(", c.words, c.assignments, c.redirects with
      | true, [w], [], [] => do
        expect inner (.operator ")") (Token.isOperator ")")
        let name := (plainText? w).getD []
        if !isName name || specialBuiltins.contains (String.ofList name) then fail .badFunctionName
        else do
          check .nextCommand
          let body ← bodies.command
          pure (.define (String.ofList name) body)
      | _, _, _, _ => do
        pushBack
        pure (.simple line c.assignments c.words c.redirects)

def simple (bodies : Bodies) (inner : Inner) : Parse Command := do
  let line := (← get).line
  simpleFrom bodies inner line (← bound) ⟨[], [], []⟩

/-- Reads the branches of a conditional after its first word. -/
def branches (bodies : Bodies) (inner : Inner) : Nat → Parse Command
  | 0 => unexpected none
  | fuel + 1 => do
    let test ← bodies.body
    expectKeyword inner "then"
    let yes ← bodies.body
    let t ← token inner
    if t.isKeyword "elif" then do
      let no ← branches bodies inner fuel
      pure (.conditional test yes no)
    else if t.isKeyword "else" then do
      let no ← bodies.body
      pure (.conditional test yes no)
    else do
      pushBack
      pure (.conditional test yes .nothing)

/-- Reads words up to another token, which is given back. -/
def words (inner : Inner) : Nat → List Word → Parse (List Word × Token)
  | 0, acc => pure (acc.reverse, .endOfFile)
  | fuel + 1, acc => do
    match ← token inner with
    | .word w _ => words inner fuel (w :: acc)
    | t => pure (acc.reverse, t)

/-- The positional parameters, each a word of its own. -/
def allArguments : Word := [.mark, .parameter "@" .value false [] true, .mark]

/-- Reads a loop over words after its first word. -/
def each (bodies : Bodies) (inner : Inner) (line : Nat) : Parse Command := do
  let name ←
    match ← token inner with
    | .word w false => pure ((plainText? w).getD [])
    | _ => pure []
  if !isName name then fail .badLoopVariable
  else do
    check .nextCommand
    let t ← token inner
    let ws ←
      if t.isKeyword "in" then do
        let (ws, t) ← words inner (← bound) []
        let ends :=
          match t with
          | .newline => true
          | t => t.isOperator ";"
        if ends then pure ws else unexpected none
      else do
        if !t.isOperator ";" then pushBack
        pure [allArguments]
    check .nextCommand
    expectKeyword inner "do"
    let body ← bodies.body
    expectKeyword inner "done"
    pure (.each line (String.ofList name) ws body)

/-- A pattern of a case; words of the language are plain words here. Another token goes for a
pattern too, but none can follow it. -/
def patternOf (t : Token) : Word :=
  match t with
  | .word w _ => w
  | .keyword s => s.toList.map fun c => Piece.char c false
  | _ => []

/-- Reads the patterns of a case, the first of which is `t`. -/
def patterns (inner : Inner) : Nat → Token → List Word → Parse (List Word)
  | 0, _, acc => pure acc.reverse
  | fuel + 1, t, acc => do
    let w := patternOf t
    let next ← token inner
    if next.isOperator "|" then patterns inner fuel (← token inner) (w :: acc)
    else if next.isOperator ")" then pure (w :: acc).reverse
    else unexpected (some (.operator ")"))

/-- Reads the cases of a choice up to its end. -/
def cases (bodies : Bodies) (inner : Inner) : Nat → List Case → Parse (List Case)
  | 0, acc => pure acc.reverse
  | fuel + 1, acc => do
    let between : Checks := { Checks.nextCommand with aliases := false }
    check between
    let t ← token inner
    if t.isKeyword "esac" then pure acc.reverse
    else do
      let first ← if t.isOperator "(" then token inner else pure t
      let ps ← patterns inner (← bound) first []
      let body ← bodies.loose
      let acc := Case.mk ps body :: acc
      check between
      let t ← token inner
      if t.isKeyword "esac" then pure acc.reverse
      else if t.isOperator ";;" then cases bodies inner fuel acc
      else unexpected (some (.operator ";;"))

/-- Reads a choice after its first word. -/
def choice (bodies : Bodies) (inner : Inner) (line : Nat) : Parse Command := do
  match ← token inner with
  | .word w _ => do
    check .nextCommand
    expectKeyword inner "in"
    let cs ← cases bodies inner (← bound) []
    pure (.choice line w cs)
  | _ => unexpected (some (.word [] false))

/-- Reads one command with the redirections behind it. -/
def command (bodies : Bodies) (inner : Inner) : Parse Command := do
  let line := (← get).line
  let behind (c : Command) : Parse Command := do
    check .command
    let rs ← redirections inner (← bound) []
    if rs.isEmpty then pure c
    else
      match c with
      | .subshell line body _ => pure (.subshell line body rs)
      | c => pure (.redirected line c rs)
  let loop (whileTrue : Bool) : Parse Command := do
    let test ← bodies.body
    expectKeyword inner "do"
    let body ← bodies.body
    expectKeyword inner "done"
    behind (.loop whileTrue test body)
  match ← token inner with
  | .word _ _ => do
    pushBack
    simple bodies inner
  | .redirect _ _ => do
    pushBack
    simple bodies inner
  | .keyword "if" => do
    let c ← branches bodies inner (← bound)
    expectKeyword inner "fi"
    behind c
  | .keyword "while" => loop true
  | .keyword "until" => loop false
  | .keyword "for" => do behind (← each bodies inner line)
  | .keyword "case" => do behind (← choice bodies inner line)
  | .keyword "\x7b" => do
    let c ← bodies.body
    expectKeyword inner "\x7d"
    behind c
  | .operator "(" => do
    let c ← bodies.body
    expect inner (.operator ")") (Token.isOperator ")")
    behind (.subshell line c [])
  | _ => unexpected none

/-- Reads the commands behind a pipe sign. -/
def pipeFrom (bodies : Bodies) (inner : Inner) : Nat → List Command → Parse (List Command)
  | 0, acc => pure acc.reverse
  | fuel + 1, acc => do
    if (← token inner).isOperator "|" then do
      check .nextCommand
      let c ← command bodies inner
      pipeFrom bodies inner fuel (c :: acc)
    else do
      pushBack
      pure acc.reverse

/-- Reads commands between pipe signs, whose status may be negated. -/
def pipeline (bodies : Bodies) (inner : Inner) : Parse Command := do
  let negated := (← token inner).isKeyword "!"
  if negated then check .command else pushBack
  let first ← command bodies inner
  let parts ← pipeFrom bodies inner (← bound) [first]
  let c :=
    match parts with
    | [c] => c
    | parts => .pipe parts
  pure (if negated then .negate c else c)

/-- Reads pipelines between `&&` and `||`, which group to the left. -/
def conditionFrom (bodies : Bodies) (inner : Inner) : Nat → Command → Parse Command
  | 0, a => pure a
  | fuel + 1, a => do
    let t ← token inner
    let next : Parse Command := do
      check .nextCommand
      pipeline bodies inner
    if t.isOperator "&&" then do conditionFrom bodies inner fuel (.both a (← next))
    else if t.isOperator "||" then do conditionFrom bodies inner fuel (.either a (← next))
    else do
      pushBack
      pure a

/-- A command that runs behind the others. -/
def inBackground : Command → Command
  | .redirected line body rs => .background line body rs
  | c => .background 1 c []

/-- Commands in turn, the last one first. -/
def inTurn : List Command → Command
  | [] => .nothing
  | [c] => c
  | cs => .sequence cs.reverse

/-- Reads a list of commands; `acc` holds those before, the last one first. At the top there is none
at the end of the text. -/
def listFrom (bodies : Bodies) (inner : Inner) (mode : ListMode) :
    Nat → List Command → Parse (Option Command)
  | 0, acc => pure (some (inTurn acc))
  | fuel + 1, acc => do
    check (if mode = .top then .command else .nextCommand)
    let t ← token inner
    let ends := t.isEnding && (mode == .loose || (mode == .body && !acc.isEmpty))
    match t, ends with
    | .newline, _ => do
      pendingDocuments inner
      pure (some (inTurn acc))
    | .endOfFile, _ => do
      pendingDocuments inner
      pushBack
      pure (if acc.isEmpty && mode == .top then none else some (inTurn acc))
    | _, true => do
      pushBack
      pure (some (inTurn acc))
    | _, false => do
      pushBack
      let first ← pipeline bodies inner
      let c ← conditionFrom bodies inner (← bound) first
      let t ← token inner
      let acc := (if t.isOperator "&" then inBackground c else c) :: acc
      match t with
      | .newline => do
        pushBack
        listFrom bodies inner mode fuel acc
      | .endOfFile => do
        pushBack
        listFrom bodies inner mode fuel acc
      | t =>
        if t.isOperator "&" || t.isOperator ";" then listFrom bodies inner mode fuel acc
        else if mode = .top then unexpected none
        else do
          pushBack
          pure (some (inTurn acc))

/-- Reads a list of commands. -/
def list (bodies : Bodies) (mode : ListMode) : Parse (Option Command) := do
  listFrom bodies ⟨bodies.loose, bodies.closed⟩ mode (← bound) []

/-- The readers of commands that hold others up to a depth. -/
def bodiesTo : Nat → Bodies
  | 0 => ⟨unexpected none, unexpected none, unexpected none, unexpected none⟩
  | depth + 1 =>
    let bodies := bodiesTo depth
    let inner : Inner := ⟨bodies.loose, bodies.closed⟩
    let readList (mode : ListMode) : Parse Command := do
      return (← list bodies mode).getD .nothing
    { body := readList .body
      loose := readList .loose
      closed := do
        let c ← readList .loose
        expect inner (.operator ")") (Token.isOperator ")")
        pure c
      command := command bodies inner }

/-- How deep commands may stand in each other. -/
def depth : Nat := 200

/-- Reads the commands of the next complete line; none at the end of the text. -/
def line : Parse (Option Command) := do
  modify fun r => { r with pushed := false, checks := .none, pending := [] }
  list (bodiesTo depth) .top

/-- Reads a whole text in which parameters and outputs of commands are replaced. A text holds no
null character, which would end it. -/
def template : Parse Word := do
  let bodies := bodiesTo depth
  let context := Context.document ['\x00'] false false
  return (← pieces ⟨bodies.loose, bodies.closed⟩ false (← bound) context []).reverse

end Parse

/-- A text from its first line on. Here-documents are numbered from `nextDocument`. -/
def Reader.ofChars (cs : List Char) (aliases : Entries String String) (nextDocument : Nat) :
    Reader :=
  ⟨cs, 1, .newline, false, .none, [], [], nextDocument, aliases, []⟩

end CredoAssistant.Shell
