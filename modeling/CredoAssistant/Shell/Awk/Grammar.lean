import CredoAssistant.Shell.Awk.Token

/-!
The grammar of programs for records.

Concatenation has no sign of its own and binds weaker than sums; in what is printed, a greater-than
sign outside parentheses names a file. A name is a table or a single value in the whole program.
-/
namespace CredoAssistant.Shell.Awk

/-- What is wrong with a program, and the line at which this shows. -/
inductive Flaw
  | token (message : String)
  | unexpected (t : Token) (line : Nat)
  | missing (close : String) (t : Token) (line : Nat)
  | excess (close : String) (line : Nat)
  | misused (message : String) (line : Nat)
  deriving Repr, Inhabited

/-- A flaw in words. -/
def Flaw.message : Flaw → String
  | token message => message
  | unexpected t line => s!"line {line}: syntax error at or near {t.shown}"
  | missing close t line => s!"line {line}: missing {close} near {t.shown}"
  | excess close line => s!"line {line}: extra '{close}'"
  | misused message line => s!"line {line}: {message}"

namespace Grammar

/-- What a name stands for. -/
inductive Kind
  | single
  | table
  deriving DecidableEq, Repr

/-- What is left of the tokens, what the names that were seen stand for, the function at work with
its arguments, how many loops are around, how many ranges of records there are, and the functions
and calls so far. -/
structure State where
  rest : List Placed
  kinds : Entries String Kind
  function : Option (String × List String)
  loops : Nat
  ranges : Nat
  functions : List String
  calls : List (String × Nat × Nat)
  inAction : Bool

abbrev Reader := ExceptT Flaw (StateM State)

def peek : Reader Placed := do return (← get).rest.headD ⟨.ending, 0, 0⟩

def skip : Reader Unit := modify fun s => { s with rest := s.rest.tail }

/-- Whether a statement is over before a token. -/
def endsStatement : Token → Bool
  | .lineEnd => true
  | .supplied => true
  | .sign s => s == ";" || s == "\x7d"
  | .ending => true
  | _ => false

/-- Complains about the next token. -/
def refuse {α : Type} : Reader α := do
  let p ← peek
  match p.token with
  | .flaw message => throw (.token message)
  | .ending => throw (.missing "\x7d" p.token p.line)
  | t =>
    if 0 < p.parens && endsStatement t then throw (.missing ")" t p.line)
    else throw (.unexpected t p.line)

def misuse {α : Type} (message : String) : Reader α := do
  throw (.misused message (← peek).line)

def isSign (s : String) : Token → Bool
  | .sign t => t == s
  | _ => false

def isWord (s : String) : Token → Bool
  | .word t => t == s
  | _ => false

/-- Whether the next token is a sign. -/
def atSign (s : String) : Reader Bool := do return isSign s (← peek).token

def atWord (s : String) : Reader Bool := do return isWord s (← peek).token

/-- Takes a sign if it is the next token. -/
def takeSign (s : String) : Reader Bool := do
  if ← atSign s then do
    skip
    pure true
  else pure false

def expectSign (s : String) : Reader Unit := do
  if ← takeSign s then pure () else refuse

/-- Passes over ends of lines. -/
def skipLines : Reader Unit :=
  modify fun s =>
    let isEnd (p : Placed) : Bool :=
      match p.token with
      | .lineEnd => true
      | _ => false
    { s with rest := s.rest.dropWhile isEnd }

/-- Takes the end of a statement. -/
def endStatement : Reader Unit := do
  match (← peek).token with
  | .lineEnd => skip
  | .supplied => skip
  | .sign ";" => skip
  | _ => refuse

/-- Notes what a name stands for. -/
def use (kind : Kind) (name : String) : Reader Unit := do
  let s ← get
  let isOwn := s.function.any fun f => f.2.contains name
  if isOwn then pure ()
  else
    match Entries.get? name s.kinds with
    | none => set { s with kinds := Entries.set name kind s.kinds }
    | some k =>
      if k = kind then pure ()
      else if k = .table then misuse s!"illegal reference to array {name}"
      else misuse s!"illegal reference to variable {name}"

/-- The name that comes next. -/
def expectName : Reader String := do
  match (← peek).token with
  | .name s => do
    skip
    pure s
  | _ => refuse

def assignments : List (String × Option Operator) :=
  [("=", none), ("+=", some .add), ("-=", some .subtract), ("*=", some .multiply),
    ("/=", some .divide), ("%=", some .remainder), ("^=", some .power)]

/-- The operators between operands by their ranks; those of a higher rank bind stronger. Keys are
looked for in tables at rank 2, and rank 5 holds what is assigned or written without a sign. -/
def joiners : List (String × Nat × (Expr → Expr → Expr)) :=
  [("||", 0, .either), ("&&", 1, .both), ("~", 3, .fits false), ("!~", 3, .fits true),
    ("<", 4, .binary .less), ("<=", 4, .binary .atMost), ("==", 4, .binary .equal),
    ("!=", 4, .binary .unequal), (">", 4, .binary .more), (">=", 4, .binary .atLeast),
    ("+", 6, .binary .add), ("-", 6, .binary .subtract), ("*", 7, .binary .multiply),
    ("/", 7, .binary .divide), ("%", 7, .binary .remainder)]

/-- What a token makes of the operands around it at a rank. -/
def joiner? (plain : Bool) (rank : Nat) : Token → Option (Expr → Expr → Expr)
  | .sign s =>
    if plain && (s == ">" || s == ">=") then none
    else (joiners.find? fun j => j.1 == s && j.2.1 == rank).map fun j => j.2.2
  | _ => none

/-- An expression for a regular expression between slashes. -/
def pattern (source : String) : Reader Expr := do
  match Regular.read source with
  | .ok r => pure (.pattern r source)
  | .error flaw =>
    misuse s!"regular expression compile failed ({flaw.reason})\n{source}"

/-- Checks a text that is used as an expression. -/
def checkPattern : Expr → Reader Unit
  | .text s => do
    let _ ← pattern s
  | _ => pure ()

/-- What the next token stands for, if it is a sign of a list. -/
def signIn {α : Type} (signs : List (String × α)) : Reader (Option α) := do
  match (← peek).token with
  | .sign s => return (signs.find? fun e => e.1 == s).map Prod.snd
  | _ => pure none

def isTarget : Expr → Bool
  | .name _ => true
  | .field _ => true
  | .element _ _ => true
  | _ => false

/-- Whether an operand can start with a token that follows another operand. -/
def startsOperand : Token → Bool
  | .number _ _ => true
  | .text _ => true
  | .pattern _ => true
  | .name _ => true
  | .callee _ => true
  | .builtin _ _ => true
  | .word s => s == "getline"
  | .sign s => ["(", "$", "!", "-", "+", "++", "--"].contains s
  | _ => false

/-- How many arguments a function takes. -/
def arity : Builtin → Nat × Nat
  | .length => (0, 1)
  | .index => (2, 2)
  | .substr => (2, 3)
  | .split => (2, 3)
  | .sub => (2, 3)
  | .gsub => (2, 3)
  | .matchIn => (2, 2)
  | .sprintf => (1, 255)
  | .flush => (0, 1)
  | .atan2 => (2, 2)
  | .rand => (0, 0)
  | .srand => (0, 1)
  | .time => (0, 0)
  | .timeText => (0, 3)
  | _ => (1, 1)

mutual

/-- Reads an expression. In a plain one nothing is compared by a greater-than sign. -/
def expression : Nat → Bool → Reader Expr
  | 0, _ => refuse
  | fuel + 1, plain => do
    let test ← chain fuel 0 plain
    if ← takeSign "?" then do
      let yes ← expression fuel plain
      expectSign ":"
      let no ← expression fuel plain
      pure (.choose test yes no)
    else pure test

/-- Reads operands of a rank with its signs between them. -/
def chain : Nat → Nat → Bool → Reader Expr
  | 0, _, _ => refuse
  | fuel + 1, rank, plain =>
    match rank with
    | 5 => assignment fuel plain
    | 8 => signed fuel
    | rank => do
      let first ← chain fuel (rank + 1) plain
      chainFrom fuel rank plain first

/-- Reads what follows the first operands of a chain. -/
def chainFrom : Nat → Nat → Bool → Expr → Reader Expr
  | 0, _, _, _ => refuse
  | fuel + 1, rank, plain, first => do
    let t := (← peek).token
    if rank = 2 && isWord "in" t then do
      skip
      let table ← expectName
      use .table table
      chainFrom fuel rank plain (.isIn [first] table)
    else
      match joiner? plain rank t with
      | some join => do
        skip
        let second ← chain fuel (rank + 1) plain
        if rank = 3 then checkPattern second
        chainFrom fuel rank plain (join first second)
      | none => pure first

/-- Reads an operand of comparisons, which can be an assignment. -/
def assignment : Nat → Bool → Reader Expr
  | 0, _ => refuse
  | fuel + 1, plain => do
    let first ← chain fuel 6 plain
    let joined ← concatenation fuel first
    if isTarget joined then
      match ← signIn assignments with
      | some op => do
        skip
        let value ← expression fuel plain
        pure (.assign op joined value)
      | none => pure joined
    else pure joined

def concatenation : Nat → Expr → Reader Expr
  | 0, _ => refuse
  | fuel + 1, first => do
    if startsOperand (← peek).token then do
      let second ← chain fuel 6 false
      concatenation fuel (.binary .join first second)
    else pure first

def signed : Nat → Reader Expr
  | 0 => refuse
  | fuel + 1 => do
    match ← signIn [("!", Sign.not), ("-", Sign.minus), ("+", Sign.plus)] with
    | some s => do
      skip
      let e ← signed fuel
      pure (.signed s e)
    | none => do
      let e ← power fuel
      asked fuel e

/-- Reads lines that are asked for from the output of a command. -/
def asked : Nat → Expr → Reader Expr
  | 0, _ => refuse
  | fuel + 1, command => do
    match (← get).rest.map Placed.token with
    | .sign "|" :: .word "getline" :: _ => do
      skip
      skip
      let target ← place fuel
      asked fuel (.getline .command (some command) target)
    | _ => pure command

def power : Nat → Reader Expr
  | 0 => refuse
  | fuel + 1 => do
    let base ← operand fuel
    if ← takeSign "^" then do
      let isSigned := (← signIn [("!", ()), ("-", ()), ("+", ())]).isSome
      let e ← if isSigned then signed fuel else power fuel
      pure (.binary .power base e)
    else pure base

/-- Reads where a line goes that is asked for, if that is said. -/
def place : Nat → Reader (Option Expr)
  | 0 => refuse
  | fuel + 1 => do
    match (← peek).token with
    | .name _ => return some (← target fuel)
    | .sign "$" => return some (← target fuel)
    | _ => pure none

/-- Reads something that can be assigned to. -/
def target : Nat → Reader Expr
  | 0 => refuse
  | fuel + 1 => do
    match (← peek).token with
    | .name s => do
      skip
      if (← get).functions.contains s then refuse
      else if ← takeSign "[" then do
        use .table s
        let keys ← values fuel
        expectSign "]"
        pure (.element s keys)
      else do
        use .single s
        pure (.name s)
    | .sign "$" => do
      skip
      match ← signIn [("!", ()), ("-", ()), ("+", ())], ← signIn [("++", ()), ("--", ())] with
      | some _, _ => return .field (← signed fuel)
      | none, some _ => return .field (← operand fuel)
      | none, none => return .field (← bare fuel)
    | _ => refuse

/-- Reads expressions with commas between them. -/
def values : Nat → Reader (List Expr)
  | 0 => refuse
  | fuel + 1 => do
    let e ← expression fuel false
    if ← takeSign "," then return e :: (← values fuel) else pure [e]

/-- Reads an argument of a function. A mere name may be one of a table. -/
def argument : Nat → Reader Expr
  | 0 => refuse
  | fuel + 1 => do
    match (← get).rest.map Placed.token with
    | .name s :: next :: _ =>
      if isSign "," next || isSign ")" next then do
        skip
        pure (.name s)
      else expression fuel false
    | _ => expression fuel false

/-- Reads the arguments of a function up to the closing parenthesis. -/
def arguments : Nat → Reader (List Expr)
  | 0 => refuse
  | fuel + 1 => do
    if ← takeSign ")" then pure []
    else do
      let e ← argument fuel
      if ← takeSign "," then
        if ← atSign ")" then refuse else return e :: (← arguments fuel)
      else do
        expectSign ")"
        pure [e]

/-- Reads an operand with steps up or down behind or before it. -/
def operand : Nat → Reader Expr
  | 0 => refuse
  | fuel + 1 => do
    match ← signIn [("++", true), ("--", false)] with
    | some up => do
      skip
      let t ← target fuel
      pure (.step true up t)
    | none => do
      let e ← bare fuel
      match isTarget e, ← signIn [("++", true), ("--", false)] with
      | true, some up => do
        skip
        pure (.step false up e)
      | _, _ => pure e

/-- Reads an operand. -/
def bare : Nat → Reader Expr
  | 0 => refuse
  | fuel + 1 => do
    match (← peek).token with
    | .number x _ => do
      skip
      pure (.number x)
    | .text s => do
      skip
      pure (.text s)
    | .pattern s => do
      let e ← pattern s
      skip
      pure e
    | .name s =>
      if (← get).functions.contains s then do
        skip
        expectSign "("
        let args ← arguments fuel
        pure (.call s args)
      else target fuel
    | .sign "$" => target fuel
    | .sign "(" => do
      skip
      let es ← values fuel
      expectSign ")"
      match es, ← atWord "in" with
      | [e], _ => pure (.group [e])
      | _, true => do
        skip
        let table ← expectName
        use .table table
        pure (.isIn es table)
      | _, false => do
        let isAlone := match (← peek).token with
          | .sign s => [">", ">>", "|"].contains s || endsStatement (.sign s)
          | t => endsStatement t
        if isAlone then pure (.group es) else refuse
    | .callee s => do
      let line := (← peek).line
      skip
      skip
      let args ← arguments fuel
      modify fun st => { st with calls := (s, args.length, line) :: st.calls }
      pure (.call s args)
    | .builtin f s => do
      skip
      if ← takeSign "(" then do
        let args ← arguments fuel
        let (least, most) := arity f
        if f = .sprintf && args.isEmpty then misuse "no arguments in call to sprintf"
        else if args.length < least || most < args.length then
          misuse s!"wrong number of arguments in call to {s}"
        else do
          match f, args with
          | .split, _ :: .name t :: _ => use .table t
          | .split, _ => refuse
          | .length, _ => pure ()
          | _, _ => args.forM fun
            | .name t => use .single t
            | _ => pure ()
          match f, args with
          | .matchIn, [_, r] => checkPattern r
          | .sub, r :: _ => checkPattern r
          | .gsub, r :: _ => checkPattern r
          | .split, [_, _, .text r] => if 1 < r.length then checkPattern (.text r)
          | _, _ => pure ()
          pure (.builtin f args)
      else if f = .length then pure (.builtin f [])
      else refuse
    | .word "getline" => do
      skip
      let t ← place fuel
      if ← takeSign "<" then do
        let file ← operand fuel
        pure (.getline .file (some file) t)
      else pure (.getline .records none t)
    | _ => refuse

end

/-- Reads where output goes to. -/
def outlet (fuel : Nat) : Reader (Outlet × Option Expr) := do
  match ← signIn [(">", Outlet.file), (">>", .append), ("|", .command)] with
  | some o => do
    skip
    let e ← expression fuel false
    pure (o, some e)
  | none => do
    if ← atSign ">=" then throw (.unexpected (.sign "=") (← peek).line)
    else pure (.standard, none)

/-- Reads what is printed, up to the end of the statement. -/
def output (fuel : Nat) (format : Bool) : Reader Stmt := do
  let isEnd := fun (t : Token) => endsStatement t || [">", ">>", "|"].any fun s => isSign s t
  let rec list : Nat → Reader (List Expr)
    | 0 => refuse
    | n + 1 => do
      let e ← expression fuel true
      match e with
      | .group (_ :: _ :: _) => pure [e]
      | _ => if ← takeSign "," then return e :: (← list n) else pure [e]
  let isEmpty ← match (← get).rest.map Placed.token with
    | .sign "(" :: .sign ")" :: next :: _ => do
      if isEnd next then do
        skip
        skip
        pure true
      else pure false
    | _ => pure (isEnd (← peek).token)
  let args ← if isEmpty then pure [] else list fuel
  let args := match args with
    | [.group es] => es
    | _ => args
  if format && args.isEmpty then misuse "no arguments in call to printf"
  let (o, target) ← outlet fuel
  pure (.print format args o target)

/-- Whether the next tokens are the head of a loop over a table: the names in it. -/
def overTable? : List Token → Option (String × String)
  | .sign "(" :: .name k :: .word "in" :: .name t :: .sign ")" :: _ => some (k, t)
  | _ => none

mutual

/-- Reads a statement with its end. -/
def statement : Nat → Reader Stmt
  | 0 => refuse
  | fuel + 1 => do
    let finish (s : Stmt) : Reader Stmt := do
      endStatement
      pure s
    let inLoop (body : Reader Stmt) : Reader Stmt := do
      modify fun s => { s with loops := s.loops + 1 }
      let b ← body
      modify fun s => { s with loops := s.loops - 1 }
      pure b
    let upTo (close : String) : Reader (Option Expr) := do
      if ← takeSign close then pure none
      else do
        let e ← expression fuel false
        expectSign close
        pure (some e)
    let orNone : Reader (Option Expr) := do
      if endsStatement (← peek).token then pure none else return some (← expression fuel false)
    match (← peek).token with
    | .sign "\x7b" => block fuel
    | .sign ";" => finish (.block [])
    | .lineEnd => finish (.block [])
    | .supplied => finish (.block [])
    | .word "if" => do
      skip
      expectSign "("
      let e ← expression fuel false
      expectSign ")"
      skipLines
      let yes ← statement fuel
      if ← atWord "else" then do
        skip
        let no ← statement fuel
        pure (.test e yes (some no))
      else pure (.test e yes none)
    | .word "while" => do
      skip
      expectSign "("
      let e ← expression fuel false
      expectSign ")"
      let isEmpty := endsStatement (← peek).token
      if isEmpty && !(← atSign ";") then skipLines
      let body ← inLoop (statement fuel)
      pure (.loop e body)
    | .word "do" => do
      skip
      let body ← inLoop (statement fuel)
      if ← atWord "while" then do
        skip
        expectSign "("
        let e ← expression fuel false
        expectSign ")"
        finish (.loopBehind body e)
      else refuse
    | .word "for" => do
      skip
      match overTable? ((← get).rest.map Placed.token) with
      | some (k, t) => do
        modify fun s => { s with rest := s.rest.drop 5 }
        use .single k
        use .table t
        skipLines
        let body ← inLoop (statement fuel)
        pure (.each k t body)
      | none => do
        expectSign "("
        let first ← upTo ";"
        let test ← upTo ";"
        let next ← upTo ")"
        if !(← atSign ";") then skipLines
        let body ← inLoop (statement fuel)
        pure (.count first test next body)
    | .word "break" => do
      skip
      if (← get).loops = 0 then misuse "break statement outside of loop" else finish .leave
    | .word "continue" => do
      skip
      if (← get).loops = 0 then misuse "continue statement outside of loop" else finish .again
    | .word "next" => do
      skip
      if (← get).inAction then finish .next else misuse "improper use of next"
    | .word "nextfile" => do
      skip
      if (← get).inAction then finish .nextFile else misuse "improper use of nextfile"
    | .word "exit" => do
      skip
      let e ← orNone
      finish (.exit e)
    | .word "return" => do
      skip
      if (← get).function.isNone then misuse "return outside function body"
      let e ← orNone
      finish (.result e)
    | .word "delete" => do
      skip
      let t ← expectName
      use .table t
      if ← takeSign "[" then do
        let keys ← values fuel
        expectSign "]"
        finish (.delete t keys)
      else finish (.delete t [])
    | .word "print" => do
      skip
      let s ← output fuel false
      finish s
    | .word "printf" => do
      skip
      let s ← output fuel true
      finish s
    | _ => do
      let e ← expression fuel false
      finish (.eval e)

/-- Reads statements between braces. -/
def block : Nat → Reader Stmt
  | 0 => refuse
  | fuel + 1 => do
    expectSign "\x7b"
    let ss ← statements fuel
    expectSign "\x7d"
    pure (.block ss)

def statements : Nat → Reader (List Stmt)
  | 0 => refuse
  | fuel + 1 => do
    if ← atSign "\x7d" then pure []
    else do
      let s ← statement fuel
      return s :: (← statements fuel)

end

/-- Reads the names of arguments up to the closing parenthesis. -/
def parameters : Nat → List String → Reader (List String)
  | 0, _ => refuse
  | fuel + 1, before => do
    let s ← expectName
    if before.contains s then misuse s!"{s} is duplicated in argument list"
    else if ← takeSign "," then parameters fuel (before ++ [s])
    else do
      expectSign ")"
      pure (before ++ [s])

def function (fuel : Nat) : Reader Function := do
  skip
  let name ← match (← peek).token with
    | .name s => pure s
    | .callee s => pure s
    | _ => refuse
  skip
  if (← get).functions.contains name then misuse s!"redefinition of {name}"
  modify fun s => { s with functions := name :: s.functions }
  expectSign "("
  let params ← if ← takeSign ")" then pure [] else parameters fuel []
  skipLines
  modify fun s => { s with function := some (name, params) }
  let body ← block fuel
  modify fun s => { s with function := none }
  pure ⟨name, params, body⟩

/-- Reads the action of a rule, or the end of its line. -/
def action (fuel : Nat) : Reader (Option Stmt) := do
  if ← atSign "\x7b" then return some (← block fuel)
  else
    match (← peek).token with
    | .ending => pure none
    | _ => do
      endStatement
      pure none

def rule (fuel : Nat) : Reader Rule := do
  match (← peek).token with
  | .word "BEGIN" => do
    skip
    let b ← block fuel
    pure ⟨.first, some b⟩
  | .word "END" => do
    skip
    let b ← block fuel
    pure ⟨.last, some b⟩
  | t => do
    modify fun s => { s with inAction := true }
    let r ←
      if isSign "\x7b" t then do
        let b ← block fuel
        pure (Rule.mk .always (some b))
      else do
        let start ← expression fuel false
        if ← takeSign "," then do
          let stop ← expression fuel false
          let number := (← get).ranges
          modify fun s => { s with ranges := number + 1 }
          let a ← action fuel
          pure ⟨.range number start stop, a⟩
        else do
          let a ← action fuel
          pure ⟨.fits start, a⟩
    modify fun s => { s with inAction := false }
    pure r

/-- Reads rules and functions up to the end. -/
def whole : Nat → Code → Reader Code
  | 0, _ => refuse
  | fuel + 1, code => do
    match (← peek).token with
    | .ending => pure code
    | .word "function" => do
      let f ← function fuel
      whole fuel { code with functions := code.functions ++ [f] }
    | _ => do
      let r ← rule fuel
      whole fuel { code with rules := code.rules ++ [r] }

/-- Whether all functions are there, and take as many arguments as they are called with. -/
def checked (code : Code) : Reader Code := do
  let s ← get
  let last := (← peek).line
  let wrong : List Flaw := s.calls.reverse.filterMap fun (name, count, line) =>
    match code.functions.find? fun f => f.name == name with
    | none => some (.misused s!"function {name} never defined" last)
    | some f =>
      if f.params.length < count then some (.misused s!"too many arguments in call to {name}" line)
      else none
  match wrong with
  | flaw :: _ => throw flaw
  | [] => pure code

/-- Reads a program, or tells what is wrong with it. -/
def read (cs : List Char) : Except (List Flaw) Code :=
  let tokens := Token.ofText cs
  let excess := tokens.filterMap fun p =>
    match p.token with
    | .excess close => some (Flaw.excess close p.line)
    | _ => none
  let kept := tokens.filter fun p =>
    match p.token with
    | .excess _ => false
    | _ => true
  let fuel := 40 * (kept.length + 1)
  let reader : Reader Code := do
    let code ← whole fuel ⟨[], []⟩
    checked code
  let (r, s) := reader.run ⟨kept, [], none, 0, 0, [], [], false⟩
  match r, excess with
  | .ok code, [] => .ok code
  | .ok _, _ => .error excess
  | .error flaw, _ =>
    let isCut := (s.rest.drop 1).head?.any fun p =>
      match p.token with
      | .ending => true
      | _ => false
    match flaw with
    | .missing ")" .lineEnd line =>
      .error (excess ++ flaw :: if isCut then [.missing "\x7d" .ending (line + 1)] else [])
    | _ => .error (excess ++ [flaw])

end Grammar

end CredoAssistant.Shell.Awk
