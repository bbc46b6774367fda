import CredoAssistant.Shell.Regex.Basic

/-!
Regular expressions of programs for records, in which bytes stand for themselves, a backslash makes
a sign plain, and lines have edges wherever these are asked for.
-/
namespace CredoAssistant.Shell.Awk

namespace Regular

/-- Why a text is no expression. -/
inductive Flaw
  | missingOperand
  | openGroup
  | badSet
  deriving DecidableEq, Repr

def Flaw.reason : Flaw → String
  | missingOperand => "missing operand"
  | openGroup => "missing ')'"
  | badSet => "bad class -- [], [^] or ["

/-- Letters behind a backslash that stand for other characters. -/
def letters : List (Char × Char) :=
  [('a', '\x07'), ('b', '\x08'), ('f', '\x0c'), ('n', '\n'), ('r', '\r'), ('t', '\t'),
    ('v', '\x0b')]

/-- The number of a digit in base sixteen. -/
def digit? (c : Char) : Option Nat := "0123456789abcdef".toList.idxOf? c.toLower

/-- The character of an escape behind its backslash, if it is a known one. -/
def escape? (cs : List Char) : Option (Char × List Char) :=
  let octal := (cs.take 3).takeWhile fun c => '0' ≤ c && c ≤ '7'
  if !octal.isEmpty then
    some (Char.ofNat (Nat.ofDigitChars 8 octal 0 % 256), cs.drop octal.length)
  else
    match cs with
    | 'x' :: rest =>
      let ds := (rest.take 2).takeWhile fun c => (digit? c).isSome
      if ds.isEmpty then none
      else
        some (Char.ofNat (ds.foldl (fun n c => n * 16 + (digit? c).getD 0) 0), rest.drop ds.length)
    | c :: rest => (letters.find? fun l => l.1 == c).map fun l => (l.2, rest)
    | [] => none

/-- The character of an escape; an unknown one stands for itself, and a backslash at the end too. -/
def escape (cs : List Char) : Char × List Char :=
  match escape? cs, cs with
  | some r, _ => r
  | none, c :: rest => (c, rest)
  | none, [] => ('\\', [])

/-- The name of a class between its marks, and what follows. -/
def className? (cs : List Char) : Option (String × List Char) :=
  let name := cs.takeWhile Char.isAlpha
  match cs.drop name.length with
  | ':' :: ']' :: rest => some (String.ofList name, rest)
  | _ => none

def classNames : List String :=
  ["alnum", "alpha", "blank", "cntrl", "digit", "graph", "lower", "print", "punct", "space",
    "upper", "xdigit"]

/-- Reads the members of a set up to its end. -/
def members : Nat → Bool → List Char → Except Flaw (List Member × List Char)
  | 0, _, _ => .error .badSet
  | fuel + 1, isFirst, cs =>
    let single (c : Char) (rest : List Char) : Except Flaw (List Member × List Char) :=
      match rest with
      | '-' :: d :: more =>
        if d = ']' then do
          let (ms, rest) ← members fuel false rest
          .ok (.range c c :: ms, rest)
        else
          let (high, more) := if d = '\\' then escape more else (d, more)
          if c ≤ high then do
            let (ms, rest) ← members fuel false more
            .ok (.range c high :: ms, rest)
          else do
            let (ms, rest) ← members fuel false more
            .ok ([.range c c, .range '-' '-', .range high high] ++ ms, rest)
      | _ => do
        let (ms, rest) ← members fuel false rest
        .ok (.range c c :: ms, rest)
    match cs with
    | [] => .error .badSet
    | ']' :: rest => if isFirst then single ']' rest else .ok ([], rest)
    | '\\' :: rest =>
      let (c, rest) := escape rest
      single c rest
    | '[' :: ':' :: rest =>
      match className? rest with
      | some (name, rest) =>
        if classNames.contains name then do
          let (ms, rest) ← members fuel false rest
          .ok (.named name :: ms, rest)
        else .error .badSet
      | none => single '[' (':' :: rest)
    | c :: rest => single c rest

/-- Bounds of a repetition behind an opening brace, if these are some. From two on, no more than the
lower bound are taken. -/
def bounds? (cs : List Char) : Option (Nat × Option Nat × List Char) :=
  let low := cs.takeWhile Char.isDigit
  let n := Nat.ofDigitChars 10 low 0
  let upTo (high : Option Nat) : Option Nat := if 2 ≤ n then some n else high
  match cs.drop low.length with
  | '\x7d' :: rest => if low.isEmpty then none else some (n, some n, rest)
  | ',' :: more =>
    let high := more.takeWhile Char.isDigit
    match more.drop high.length with
    | '\x7d' :: rest =>
      if high.isEmpty then if low.isEmpty then none else some (n, upTo none, rest)
      else some (n, upTo (some (Nat.ofDigitChars 10 high 0)), rest)
    | _ => none
  | _ => none

/-- Repetitions of an expression behind it. -/
def repetitions : Nat → Regex → List Char → Regex × List Char
  | 0, r, cs => (r, cs)
  | fuel + 1, r, cs =>
    match cs with
    | '*' :: rest => repetitions fuel (.repeated r 0 none false) rest
    | '+' :: rest => repetitions fuel (.repeated r 1 none false) rest
    | '?' :: rest => repetitions fuel (.repeated r 0 (some 1) false) rest
    | '\x7b' :: rest =>
      match bounds? rest with
      | some (low, high, rest) => repetitions fuel (.repeated r low high false) rest
      | none => (r, cs)
    | _ => (r, cs)

mutual

/-- Reads branches, up to the end of a group if they stand in one. -/
def choice : Nat → Bool → List Char → Except Flaw (Regex × List Char)
  | 0, _, _ => .error .missingOperand
  | fuel + 1, nested, cs => do
    let (r, rest) ← branch fuel nested cs none
    match rest with
    | '|' :: rest => do
      let (r', rest) ← choice fuel nested rest
      .ok (.either r r', rest)
    | _ => .ok (r, rest)

/-- Reads one branch; `before` is the part of it that was read. -/
def branch : Nat → Bool → List Char → Option Regex → Except Flaw (Regex × List Char)
  | 0, _, _, _ => .error .missingOperand
  | fuel + 1, nested, cs, before => do
    let ending : Except Flaw (Regex × List Char) :=
      match before with
      | some r => .ok (r, cs)
      | none => .error .missingOperand
    let goOn (r : Regex) (rest : List Char) : Except Flaw (Regex × List Char) :=
      let (r, rest) := repetitions (rest.length + 1) r rest
      branch fuel nested rest (some ((before.map fun b => Regex.concat b r).getD r))
    match cs with
    | [] => if nested then .error .openGroup else ending
    | '|' :: _ => ending
    | ')' :: rest => if nested then ending else goOn (.char false ')') rest
    | '(' :: rest => do
      let (r, rest) ← choice fuel true rest
      match rest with
      | ')' :: rest => goOn r rest
      | _ => .error .openGroup
    | '[' :: '^' :: rest => do
      let (ms, rest) ← members (rest.length + 1) true rest
      goOn (.set false true ms) rest
    | '[' :: rest => do
      let (ms, rest) ← members (rest.length + 1) true rest
      goOn (.set false false ms) rest
    | '.' :: rest => goOn (.any true) rest
    | '^' :: rest => goOn (.edge .textStart) rest
    | '$' :: rest => goOn (.edge .textEnd) rest
    | '*' :: _ => if before.isNone then .error .missingOperand else ending
    | '+' :: _ => if before.isNone then .error .missingOperand else ending
    | '?' :: _ => if before.isNone then .error .missingOperand else ending
    | '\\' :: rest =>
      let (c, rest) := escape rest
      goOn (.char false c) rest
    | c :: rest => goOn (.char false c) rest

end

/-- Reads an expression. An empty text fits everywhere. -/
def read (s : String) : Except Flaw Regex :=
  let cs := s.toList
  if cs.isEmpty then .ok .empty else (choice (2 * cs.length + 4) false cs).map Prod.fst

end Regular

end CredoAssistant.Shell.Awk
