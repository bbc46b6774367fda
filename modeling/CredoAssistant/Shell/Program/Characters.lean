import CredoAssistant.Shell.Format
import CredoAssistant.Shell.Pattern
import CredoAssistant.Shell.Program.Common

/-!
Characters that are replaced, left out or drawn together, one by one.
-/
namespace CredoAssistant.Shell.Program

namespace Translation

/-- A part of a set of characters, in the order in which it is written. A repetition without a
number fills what is left. -/
inductive Part
  | one (c : Char)
  | range (first last : Char)
  | named (name : String)
  | same (c : Char)
  | repeated (c : Char) (count : Nat)
  deriving DecidableEq, Repr

/-- A character, and whether an escape keeps it from having a meaning of its own. -/
abbrev Written := Char × Bool

/-- A warning about how a set is written. -/
inductive Warning
  | octal (a b c : Char)
  | backslash
  deriving DecidableEq, Repr

def Warning.text : Warning → String
  | octal a b c =>
    let digits := String.ofList [a, b, c]
    let two := String.ofList ['0', a, b]
    s!"warning: the ambiguous octal escape \\{digits} is being\n" ++
      s!"\tinterpreted as the 2-byte sequence \\{two}, {c}"
  | backslash => "warning: an unescaped backslash at end of string is not portable"

/-- Reads escapes. -/
def unescape : Nat → List Char → List Written × List Warning
  | 0, _ => ([], [])
  | _ + 1, [] => ([], [])
  | fuel + 1, '\\' :: rest =>
    let go (w : Written) (warnings : List Warning) (rest : List Char) :
        List Written × List Warning :=
      let (more, others) := unescape fuel rest
      (w :: more, warnings ++ others)
    match rest with
    | [] => ([('\\', false)], [.backslash])
    | c :: behind =>
      let digits := (rest.take 3).takeWhile Escape.isOctal
      if digits.isEmpty then go (((Escape.letter? c).getD c), true) [] behind
      else if Arithmetic.ofDigits 8 digits < 256 then
        go (Escape.byte digits, true) [] (rest.drop digits.length)
      else
        let two := digits.take 2
        let warning : Warning :=
          .octal (digits.headD '0') ((digits[1]?).getD '0') ((digits[2]?).getD '0')
        go (Escape.byte two, true) [warning] (rest.drop 2)
  | fuel + 1, c :: rest =>
    let (more, warnings) := unescape fuel rest
    ((c, false) :: more, warnings)

/-- A character that can be shown, or its number. -/
def printable (backslash : Bool) (c : Char) : String :=
  if backslash && c == '\\' then "\\\\"
  else if ' ' ≤ c && c ≤ '~' then String.singleton c
  else
    let ds := Nat.toDigits 8 c.toNat
    String.ofList ('\\' :: List.replicate (3 - ds.length) '0' ++ ds)

def printableText (ws : List Written) : String :=
  String.join (ws.map fun w => printable true w.1)

/-- Why a text is no set of characters. Some complaints quote a part of it. -/
inductive Flaw
  | plain (message : String)
  | quoting (front quoted behind : String)
  deriving DecidableEq, Repr

/-- Where a class or an equivalence that `mark` opens is closed: what stands in it, and what
follows. -/
def closing? (mark : Char) : List Written → Option (List Written × List Written)
  | (c, a) :: (d, b) :: rest =>
    if c == mark && d == ']' && !a && !b then some ([], rest)
    else (closing? mark ((d, b) :: rest)).map fun (inner, rest) => ((c, a) :: inner, rest)
  | _ => none

/-- Whether an asterisk with digits and a bracket behind it comes next. -/
def isCount : List Written → Bool
  | ('*', false) :: rest =>
    match rest.dropWhile fun w => w.1.isDigit with
    | (']', false) :: _ => true
    | _ => false
  | _ => false

/-- Reads a repetition behind its bracket, if there is one. -/
def repetition? : List Written → Option (Except Flaw (Part × List Written))
  | (c, _) :: ('*', false) :: rest =>
    let body := rest.takeWhile fun w => !w.2 && w.1 != ']'
    match rest.drop body.length with
    | (']', false) :: behind =>
      let text := body.map Prod.fst
      let base := if text.head? = some '0' then 8 else 10
      let isRight := text.all fun c => c.isDigit && (base = 10 || Escape.isOctal c)
      let count := Arithmetic.ofDigits base text
      if isRight && count < 2 ^ 63 then some (.ok (.repeated c count, behind))
      else
        some (.error (.quoting "invalid repeat count " (printableText body) " in [c*n] construct"))
    | _ => none
  | _ => none

/-- Reads a class or an equivalence, if there is one. -/
def bracket? (ws : List Written) : Option (Except Flaw (Part × List Written)) :=
  match ws with
  | (mark, false) :: rest =>
    if mark != ':' && mark != '=' then none
    else
      match closing? mark rest with
      | none => none
      | some ([], _) =>
        some (.error (.plain (if mark = ':' then "missing character class name '[::]'"
          else "missing equivalence class character '[==]'")))
      | some (inner, behind) =>
        let name := String.ofList (inner.map Prod.fst)
        if mark = ':' then
          if Member.classNames.contains name then some (.ok (.named name, behind))
          else if isCount rest then none
          else some (.error (.quoting "invalid character class " (printableText inner) ""))
        else
          match inner with
          | [w] => some (.ok (.same w.1, behind))
          | _ =>
            if isCount rest then none
            else
              some (.error (.plain
                (printableText inner ++ ": equivalence class operand must be a single character")))
  | _ => none

/-- Reads the parts of a set. -/
def parts : Nat → List Written → Except Flaw (List Part)
  | 0, _ => .ok []
  | fuel + 1, ws =>
    if ws.length ≤ 2 then .ok (ws.map fun w => .one w.1)
    else
      let special : Option (Except Flaw (Part × List Written)) :=
        match ws with
        | ('[', false) :: rest => (bracket? rest).orElse fun _ => repetition? rest
        | _ => none
      match special, ws with
      | some (.error flaw), _ => .error flaw
      | some (.ok (part, rest)), _ => (parts fuel rest).map (part :: ·)
      | none, (a, _) :: ('-', false) :: (b, _) :: rest =>
        if b < a then
          let ends := printable false a ++ "-" ++ printable false b
          .error (.plain s!"range-endpoints of '{ends}' are in reverse collating sequence order")
        else (parts fuel rest).map (.range a b :: ·)
      | none, (a, _) :: rest => (parts fuel rest).map (.one a :: ·)
      | none, [] => .ok []

/-- The characters of a class in order. -/
def members (name : String) : List Char :=
  ((List.range 256).map Char.ofNat).filter (Member.inClass false name)

/-- The characters of a part; a repetition without a number has none. -/
def Part.chars : Part → List Char
  | one c => [c]
  | range a b => (List.range (b.toNat + 1 - a.toNat)).map fun n => Char.ofNat (a.toNat + n)
  | named name => members name
  | same c => [c]
  | repeated c count => List.replicate count c

def chars (ps : List Part) : List Char := ps.flatMap Part.chars

def isOpen : Part → Bool
  | .repeated _ 0 => true
  | _ => false

def isNamed : Part → Bool
  | .named _ => true
  | _ => false

def isSame : Part → Bool
  | .same _ => true
  | _ => false

def isCase : Part → Bool
  | .named "upper" => true
  | .named "lower" => true
  | _ => false

/-- A table of what characters become. The last entry for a character counts. -/
abbrev Table := List (Char × Char)

/-- Pairs the characters of two sets. A class of case in the second one changes the case of that in
the first one, and has to stand at the same place. -/
def pairs : Nat → List Part → List Part → Except Flaw Table
  | 0, _, _ => .ok []
  | fuel + 1, p :: ps, q :: qs =>
    if isCase q then
      if !isCase p then
        if p.chars.isEmpty then pairs fuel ps (q :: qs)
        else .error (.plain "misaligned [:upper:] and/or [:lower:] construct")
      else
        let table : Table :=
          if p = .named "lower" ∧ q = .named "upper" then
            (members "lower").map fun c => (c, c.toUpper)
          else if p = .named "upper" ∧ q = .named "lower" then
            (members "upper").map fun c => (c, c.toLower)
          else []
        (pairs fuel ps qs).map (table ++ ·)
    else
      let xs := p.chars
      let ys := q.chars
      let n := min xs.length ys.length
      if n = 0 then
        if xs.isEmpty then pairs fuel ps (q :: qs) else pairs fuel (p :: ps) qs
      else
        (pairs fuel ((xs.drop n).map .one ++ ps) ((ys.drop n).map .one ++ qs)).map (xs.zip ys ++ ·)
  | _ + 1, [], q :: _ =>
    if isCase q then .error (.plain "misaligned [:upper:] and/or [:lower:] construct") else .ok []
  | _ + 1, _, [] => .ok []

/-- How many characters count in two sets, when each class of case counts as one where both have
it. -/
def discounted (ps qs : List Part) : Nat × Nat :=
  let cut := min (ps.countP isCase) (qs.countP isCase) * 25
  ((chars ps).length - cut, (chars qs).length - cut)

/-- Fills the open repetition of a set up to a length. -/
def filled (length : Nat) (ps : List Part) : List Part :=
  let missing := length - (chars ps).length
  ps.map fun p =>
    match p with
    | .repeated c 0 => .repeated c missing
    | p => p

/-- The last character of a set that goes on, or a complaint. -/
def lastOf (ps : List Part) : Except Flaw Char :=
  match ps.getLast? with
  | some (.named _) =>
    .error (.plain ("when translating with string1 longer than string2,\n" ++
      "the latter string must not end with a character class"))
  | some (.repeated c _) => .ok c
  | some p => .ok (p.chars.getLastD '\x00')
  | none => .ok '\x00'

/-- What a program does with the characters of its sets. -/
structure Task where
  complement : Bool
  deletes : Bool
  squeezes : Bool
  truncates : Bool

/-- The characters that are in none of the parts. -/
def others (ps : List Part) : List Char :=
  let inside := chars ps
  ((List.range 256).map Char.ofNat).filter fun c => !inside.contains c

/-- The table of a translation from one set to another, and the second set filled up. -/
def table (t : Task) (ps qs : List Part) : Except Flaw (Table × List Part) := do
  let length := if t.complement then (others ps).length else (chars ps).length
  let qs := filled length qs
  if qs.any isSame then
    .error (.plain "[=c=] expressions may not appear in string2 when translating")
  if qs.any fun q => isNamed q && !isCase q then
    .error (.plain ("when translating, the only character classes that may appear in\n" ++
      "string2 are 'upper' and 'lower'"))
  let aligns := !t.complement && qs.any isNamed
  if aligns then discard (pairs (length + 600) ps qs)
  let (m, n) :=
    if aligns then discounted ps qs else (length, (chars qs).length)
  let qs ←
    if n < m && !t.truncates then
      if qs.all (fun q => q.chars.isEmpty) then
        .error (.plain "when not truncating set1, string2 must be non-empty")
      else do
        let c ← lastOf qs
        .ok (qs ++ [.repeated c (m - n)])
    else .ok qs
  if t.complement && ps.any isNamed && !((chars qs).all fun c => some c == (chars qs).head?) then
    .error (.plain ("when translating with complemented character classes,\n" ++
      "string2 must map all characters in the domain to one"))
  let table ←
    if t.complement then .ok ((others ps).zip (chars qs)) else pairs (2 * length + 600) ps qs
  .ok (table, qs)

/-- Draws equal neighbours of a set together. -/
def squeeze (isIn : Char → Bool) (cs : List Char) : List Char :=
  (cs.foldl
    (fun acc c => if acc.head? == some c && isIn c then acc else c :: acc)
    []).reverse

/-- What a task makes of a text. -/
def run (t : Task) (ps : List Part) (qs : Option (List Part)) :
    Except Flaw (List Char → List Char) := do
  if ps.any isOpen then
    .error (.plain "the [c*] repeat construct may not appear in string1")
  let inside := chars ps
  let isFirst (c : Char) : Bool := inside.contains c != t.complement
  match qs with
  | none =>
    .ok (if t.squeezes && !t.deletes then squeeze isFirst else List.filter fun c => !isFirst c)
  | some qs => do
    if 1 < qs.countP isOpen then
      .error (.plain "only one [c*] repeat construct may appear in string2")
    let isSecond (qs : List Part) : Char → Bool :=
      let second := chars qs
      fun c => second.contains c
    if t.deletes then
      if qs.any isOpen then
        .error (.plain "the [c*] construct may appear in string2 only when translating")
      .ok fun cs => squeeze (isSecond qs) (cs.filter fun c => !isFirst c)
    else do
      let (table, qs) ← table t ps qs
      let entries := table.reverse
      let images := ((List.range 256).map fun n =>
        ((entries.find? fun e => e.1 == Char.ofNat n).map Prod.snd).getD (Char.ofNat n)).toArray
      let translated (c : Char) : Char := (images[c.toNat]?).getD c
      .ok fun cs =>
        let mapped := cs.map translated
        if t.squeezes then squeeze (isSecond qs) mapped else mapped

/-- Reads a set, with warnings and complaints about how it is written. -/
def setOf (self s : String) : Run (List Part) := do
  let (written, warnings) := unescape (s.length + 1) s.toList
  warnings.forM fun w => complain self w.text
  match parts (written.length + 1) written with
  | .ok ps => pure ps
  | .error flaw => refuse self flaw
where
  /-- Complains about a set and ends the program. -/
  refuse {α : Type} (self : String) (flaw : Flaw) : Run α := do
    match flaw with
    | .plain message => complain self message
    | .quoting front quoted behind => complain self (front ++ (← Program.named quoted) ++ behind)
    quit 1

end Translation

open Translation in
def tr : Body := fun self args => do
  let spec := Spec.ofText "AcCdst"
    [("complement", 'c'), ("delete", 'd'), ("squeeze-repeats", 's'), ("truncate-set1", 't')]
  let a ← arguments self { spec with strict := true } 1 args
  let t : Task := ⟨a.has 'c' || a.has 'C', a.has 'd', a.has 's', a.has 't'⟩
  let least := if t.deletes == t.squeezes then 2 else 1
  let most := if t.deletes && !t.squeezes then 1 else 2
  let wrong (message explanation : String) : Run Unit := do
    complain self message
    if explanation != "" then Run.say 2 (explanation ++ "\n")
    hint self 1
  if a.operands.length < least then
    match args.getLast?, a.operands with
    | some x, _ :: _ =>
      wrong ("missing operand after " ++ (← Program.named x))
        (if t.squeezes then "Two strings must be given when both deleting and squeezing repeats."
          else "Two strings must be given when translating.")
    | _, _ => wrong "missing operand" ""
  match a.operands[most]? with
  | some x =>
    wrong ("extra operand " ++ (← Program.named x))
      (if a.operands.length = 2 then
        "Only one string may be given when deleting without squeezing repeats." else "")
  | none => pure ()
  let ps ← setOf self (a.operands.headD "")
  let qs ← (a.operands[1]?).mapM (setOf self)
  match Translation.run t ps qs with
  | .error flaw => setOf.refuse self flaw
  | .ok f => do
    match ← contents "-" with
    | .ok cs => put self (f cs)
    | .error fault => do
      complain self s!"read error: {fault.reason}"
      quit 1
    pure 0

end CredoAssistant.Shell.Program
