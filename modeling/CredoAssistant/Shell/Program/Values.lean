import CredoAssistant.Shell.Condition
import CredoAssistant.Shell.Lookup
import CredoAssistant.Shell.Program.Files
import CredoAssistant.Shell.Program.Search

/-!
Programs that compute or tell a value: parts of paths, expressions, texts, the surroundings of the
process, and bytes in other writings.
-/
namespace CredoAssistant.Shell.Program

/-! Parts of paths -/

def dropLastSlashes (s : String) : String :=
  let cs := (s.toList.reverse.dropWhile (· == '/')).reverse
  if cs.isEmpty && s != "" then "/" else String.ofList cs

def baseName (s : String) : String :=
  let t := dropLastSlashes s
  if t = "/" then "/" else String.ofList ((t.toList.reverse.takeWhile (· != '/')).reverse)

def dirName (s : String) : String :=
  let t := dropLastSlashes s
  if t = "/" then "/"
  else
    let front := (t.toList.reverse.dropWhile (· != '/'))
    if front.isEmpty then "."
    else dropLastSlashes (String.ofList front.reverse)

/-- A name without an ending, unless nothing else is in it. -/
def withoutEnding (ending s : String) : String :=
  if ending != "" && s != ending && s.endsWith ending then
    String.ofList (s.toList.take (s.length - ending.length))
  else s

def basename : Body := fun self args => do
  let spec := Spec.ofText "as:z" [("multiple", 'a'), ("suffix", 's'), ("zero", 'z')]
  let a ← arguments self { spec with strict := true } 1 args
  let close := if a.has 'z' then "\x00" else "\n"
  if a.has 'a' || a.has 's' then do
    if a.operands.isEmpty then misuse self "missing operand" 1
    let ending := (a.value? 's').getD ""
    a.operands.forM fun s => putText self (withoutEnding ending (baseName s) ++ close)
    pure 0
  else
    match a.operands with
    | [] => misuse self "missing operand" 1
    | [s] => do
      putText self (baseName s ++ close)
      pure 0
    | [s, ending] => do
      putText self (withoutEnding ending (baseName s) ++ close)
      pure 0
    | _ :: _ :: x :: _ => misuse self s!"extra operand {← named x}" 1

def dirname : Body := fun self args => do
  let spec := Spec.ofText "z" [("zero", 'z')]
  let a ← arguments self { spec with strict := true } 1 args
  if a.operands.isEmpty then misuse self "missing operand" 1
  a.operands.forM fun s => putText self (dirName s ++ if a.has 'z' then "\x00" else "\n")
  pure 0

/-! Expressions -/

namespace Expression

/-- Why an expression has no value. -/
inductive Flaw
  | missing (behind : String)
  | unexpected (found : String)
  | unclosed (behind : String)
  | notInteger
  | divisionByZero
  | badPattern (flaw : Regex.Flaw)
  deriving DecidableEq, Repr

/-- What is left of the arguments, and the last one that was taken. -/
structure Source where
  rest : List String
  last : String

abbrev Read := Except Flaw (String × Source)

def integer? (s : String) : Option Int :=
  match s.toList with
  | '-' :: ds =>
    if !ds.isEmpty && ds.all Char.isDigit then some (-(Nat.ofDigitChars 10 ds 0 : Int)) else none
  | ds => if !ds.isEmpty && ds.all Char.isDigit then some (Nat.ofDigitChars 10 ds 0 : Int) else none

/-- Whether a value counts as nothing: it is empty or zero. -/
def isNull (s : String) : Bool :=
  s == "" ||
    match s.toList with
    | '-' :: ds => !ds.isEmpty && ds.all (· == '0')
    | ds => ds.all (· == '0')

def truth (b : Bool) : String := if b then "1" else "0"

/-- What a pattern finds at the front of a text: its first group, or how long it is. -/
def matched (utf8 : Bool) (s pattern : String) : Except Flaw String :=
  let view (s : String) : List Char := charactersIn utf8 s.toList
  match Regex.read .comparing false utf8 (view pattern) with
  | .error flaw => .error (.badPattern flaw)
  | .ok (r, groups) =>
    let subject : Regex.Subject := ⟨(view s).toArray, utf8, false, false⟩
    match Regex.endAt? subject r 0 with
    | none => .ok (if groups = 0 then "0" else "")
    | some place =>
      if groups = 0 then .ok (toString place.position)
      else .ok (String.ofList (bytesIn utf8 (place.held subject 1)))

def take (s : Source) : Except Flaw (String × Source) :=
  match s.rest with
  | [] => .error (.missing s.last)
  | a :: rest => .ok (a, ⟨rest, a⟩)

/-- Reads a value: a text, a part of one, or an expression in parentheses. -/
def operand (utf8 : Bool) (whole : Source → Read) : Nat → Source → Read
  | 0, s => .error (.missing s.last)
  | fuel + 1, s => do
    let operand := operand utf8 whole fuel
    let (a, s) ← take s
    let chars (t : String) : List Char := charactersIn utf8 t.toList
    match a with
    | "+" => take s
    | "(" => do
      let (v, s) ← whole s
      match s.rest with
      | ")" :: rest => .ok (v, ⟨rest, ")"⟩)
      | [] => .error (.unclosed s.last)
      | x :: _ => .error (.unexpected x)
    | ")" => .error (.unexpected ")")
    | "length" => do
      let (v, s) ← operand s
      .ok (toString (chars v).length, s)
    | "match" => do
      let (v, s) ← operand s
      let (p, s) ← operand s
      .ok (← matched utf8 v p, s)
    | "index" => do
      let (v, s) ← operand s
      let (set, s) ← operand s
      let i := ((chars v).findIdx? (chars set).contains).map (· + 1)
      .ok (toString (i.getD 0), s)
    | "substr" => do
      let (v, s) ← operand s
      let (i, s) ← operand s
      let (n, s) ← operand s
      match integer? i, integer? n with
      | some i, some n =>
        if i ≤ 0 ∨ n ≤ 0 then .ok ("", s)
        else
          let cs := ((chars v).drop (i.toNat - 1)).take n.toNat
          .ok (String.ofList (bytesIn utf8 cs), s)
      | _, _ => .ok ("", s)
    | a => .ok (a, s)

/-- The rank of an operator; the lowest bind the weakest. -/
def rank? (s : String) : Option Nat :=
  if s = "|" then some 0
  else if s = "&" then some 1
  else if ["<", "<=", "=", "==", "!=", ">=", ">"].contains s then some 2
  else if s = "+" || s = "-" then some 3
  else if ["*", "/", "%"].contains s then some 4
  else if s = ":" then some 5
  else none

def apply (utf8 : Bool) (op a b : String) : Except Flaw String :=
  let numbers (f : Int → Int → Except Flaw Int) : Except Flaw String :=
    match integer? a, integer? b with
    | some x, some y => (f x y).map toString
    | _, _ => .error .notInteger
  let order : Ordering :=
    match integer? a, integer? b with
    | some x, some y => compare x y
    | _, _ => if a < b then .lt else if a = b then .eq else .gt
  match op with
  | "|" => .ok (if !isNull a then a else if isNull b then "0" else b)
  | "&" => .ok (if isNull a || isNull b then "0" else a)
  | "<" => .ok (truth (order == .lt))
  | "<=" => .ok (truth (order != .gt))
  | "=" => .ok (truth (order == .eq))
  | "==" => .ok (truth (order == .eq))
  | "!=" => .ok (truth (order != .eq))
  | ">=" => .ok (truth (order != .lt))
  | ">" => .ok (truth (order == .gt))
  | "+" => numbers fun x y => .ok (x + y)
  | "-" => numbers fun x y => .ok (x - y)
  | "*" => numbers fun x y => .ok (x * y)
  | "/" => numbers fun x y => if y = 0 then .error .divisionByZero else .ok (Int.tdiv x y)
  | "%" => numbers fun x y => if y = 0 then .error .divisionByZero else .ok (Int.tmod x y)
  | _ => matched utf8 a b

/-- Reads operators of a rank or a higher one behind a value. -/
def operators (utf8 : Bool) (value : Source → Read) : Nat → Nat → String → Source → Read
  | 0, _, a, s => .ok (a, s)
  | fuel + 1, low, a, s =>
    match s.rest with
    | [] => .ok (a, s)
    | op :: rest =>
      match rank? op with
      | none => .ok (a, s)
      | some n =>
        if n < low then .ok (a, s)
        else do
          let (b, s) ← value ⟨rest, op⟩
          let (b, s) ← operators utf8 value fuel (n + 1) b s
          let v ← apply utf8 op a b
          operators utf8 value fuel low v s

/-- Reads a whole expression, in which others stand to a depth. -/
def whole (utf8 : Bool) : Nat → Source → Read
  | 0, s => .error (.missing s.last)
  | depth + 1, s => do
    let value := operand utf8 (whole utf8 depth) (s.rest.length + 1)
    let (a, left) ← value s
    operators utf8 value (s.rest.length + 1) 0 a left

end Expression

def expr : Body := fun self args => do
  let args := if args.head? == some "--" then args.tail else args
  if args.isEmpty then misuse self "missing operand" 2
  let utf8 ← usesUtf8
  let complainAbout (f : Expression.Flaw) : Run String := do
    match f with
    | .missing s => return s!"syntax error: missing argument after {← named s}"
    | .unexpected s => return s!"syntax error: unexpected argument {← named s}"
    | .unclosed s => return s!"syntax error: expecting ')' after {← named s}"
    | .notInteger => pure "non-integer argument"
    | .divisionByZero => pure "division by zero"
    | .badPattern flaw => pure flaw.reason
  match Expression.whole utf8 (args.length + 1) ⟨args, ""⟩ with
  | .error f => do
    complain self (← complainAbout f)
    pure 2
  | .ok (v, s) =>
    match s.rest with
    | x :: _ => do
      complain self (← complainAbout (.unexpected x))
      pure 2
    | [] => do
      putText self (v ++ "\n")
      pure (if Expression.isNull v then 1 else 0)

/-! Texts -/

/-- How much a program writes that never stops by itself. -/
def yes : Body := fun self args => do
  let line := (" ".intercalate (if args.isEmpty then ["y"] else args)).toList ++ ['\n']
  let block := (List.replicate (65536 / line.length + 1) line).flatten
  let count := if (← Run.outputPipe?).isSome then 1000 else 40
  (List.range count).forM fun _ => put self block
  Run.forever

/-! The surroundings -/

def printenv : Body := fun self args => do
  let spec := Spec.ofText "0" [("null", '0')]
  let a ← arguments self { spec with strict := true } 2 args
  let close := if a.has '0' then "\x00" else "\n"
  let m ← get
  if a.operands.isEmpty then do
    m.vars.forM fun e => putText self (e.1 ++ "=" ++ (e.2.value.getD "") ++ close)
    pure 0
  else
    a.operands.foldlM
      (fun status name => do
        match ← Run.value? name with
        | some v => do
          putText self (v ++ close)
          pure status
        | none => pure 1)
      0

def idOf : Body := fun self args => do
  let a ← arguments self
    (.ofText "agGnruzZ" [("user", 'u'), ("group", 'g'), ("groups", 'G'), ("name", 'n')]) 1 args
  if a.has 'u' || a.has 'g' || a.has 'G' then putText self (if a.has 'n' then "root\n" else "0\n")
  else putText self "uid=0(root) gid=0(root) groups=0(root)\n"
  pure 0

def uname : Body := fun self args => do
  let a ← arguments self (.ofText "asnrvmpio" [("kernel-name", 's'), ("machine", 'm')]) 1 args
  let parts :=
    (if a.options.isEmpty || a.has 's' then ["Linux"] else [])
      ++ (if a.has 'm' then ["x86_64"] else []) ++ if a.has 'o' then ["GNU/Linux"] else []
  putText self (" ".intercalate parts ++ "\n")
  pure 0

def which : Body := fun self args => do
  let a ← arguments self (.ofText "as" []) 2 args
  let path ← Run.searchPath
  if a.operands.isEmpty then pure 1
  else
    a.operands.foldlM
      (fun status name => do
        match ← Run.programPath name path with
        | .error _ => pure 1
        | .ok file =>
          match ← Run.runnable file with
          | .ok _ => do
            putText self (file ++ "\n")
            pure status
          | .error _ => pure 1)
      0

end CredoAssistant.Shell.Program
