import CredoAssistant.Shell.Program.Launch
import CredoAssistant.Shell.Regex.Notation

/-!
Walking through files and looking for those that meet conditions.
-/
namespace CredoAssistant.Shell.Program

/-- A number that a value must be below, equal to, or above. -/
structure Bound where
  relation : Ordering
  number : Nat
  deriving DecidableEq, Repr

/-- Reads a bound: a plus sign stands for more, a minus sign for less. -/
def bound? (s : String) : Option Bound :=
  match s.toList with
  | '+' :: _ => (digits? (s.drop 1).toString).map (⟨.gt, ·⟩)
  | '-' :: _ => (digits? (s.drop 1).toString).map (⟨.lt, ·⟩)
  | _ => (digits? s).map (⟨.eq, ·⟩)

def Bound.holds (b : Bound) (n : Int) : Bool := compare n b.number == b.relation

/-- What is looked for among files. -/
inductive Sought
  | name (pattern : String) (folds : Bool)
  | path (pattern : String) (folds : Bool)
  | target (pattern : String) (folds : Bool)
  | regex (r : Regex)
  | kind (letters : List Char) (follows : Bool)
  | empty
  | size (b : Bound) (unit : Nat)
  | links (b : Bound)
  | age (b : Bound) (unit : Nat) (accessed : Bool)
  | newer (time : Int) (accessed : Bool)
  | mode (relation : Char) (bits : Nat)
  | owner (n : Nat)
  | group (n : Nat)
  | same (n : Nat)
  | runs
  | always (b : Bool)
  | print (close : Char)
  | tell (format : String)
  | list
  | delete
  | prune
  | quit
  | run (argv : List String) (asks inPlace : Bool)
  | collect (argv : List String) (inPlace : Bool)
  | not (s : Sought)
  | both (s t : Sought)
  | either (s t : Sought)
  | after (s t : Sought)
  deriving Inhabited

namespace Sought

/-- Whether something is done to the files that are found. -/
def acts : Sought → Bool
  | print _ => true
  | tell _ => true
  | list => true
  | delete => true
  | run .. => true
  | collect .. => true
  | not s => s.acts
  | both s t => s.acts || t.acts
  | either s t => s.acts || t.acts
  | after s t => s.acts || t.acts
  | _ => false

end Sought

/-- How files are walked through: from which level down to which, those inside first, and which
links are followed. -/
structure Walking where
  low : Nat
  high : Nat
  inner : Bool
  follows : Bool
  followsOperands : Bool

/-- What a word of a condition becomes: a condition, or another way to walk. -/
inductive Clause
  | sought (s : Sought)
  | walking (f : Walking → Walking)

/-- The words with a condition that takes no argument. -/
def plainClause? (word : String) : Option Clause :=
  match word with
  | "-empty" => some (.sought .empty)
  | "-true" => some (.sought (.always true))
  | "-false" => some (.sought (.always false))
  | "-print" => some (.sought (.print '\n'))
  | "-print0" => some (.sought (.print '\x00'))
  | "-delete" => some (.sought .delete)
  | "-prune" => some (.sought .prune)
  | "-quit" => some (.sought .quit)
  | "-ls" => some (.sought .list)
  | "-readable" => some (.sought (.always true))
  | "-writable" => some (.sought (.always true))
  | "-executable" => some (.sought .runs)
  | "-nouser" => some (.sought (.always false))
  | "-nogroup" => some (.sought (.always false))
  | "-depth" => some (.walking fun w => { w with inner := true })
  | "-d" => some (.walking fun w => { w with inner := true })
  | "-follow" => some (.walking fun w => { w with follows := true, followsOperands := true })
  | "-mount" => some (.walking id)
  | "-xdev" => some (.walking id)
  | "-noleaf" => some (.walking id)
  | "-warn" => some (.walking id)
  | "-nowarn" => some (.walking id)
  | "-daystart" => some (.walking id)
  | "-ignore_readdir_race" => some (.walking id)
  | "-noignore_readdir_race" => some (.walking id)
  | _ => none

/-- The words with a condition that takes an argument. -/
def valueWords : List String :=
  ["-name", "-iname", "-path", "-ipath", "-wholename", "-iwholename", "-lname", "-ilname", "-regex",
    "-iregex", "-regextype", "-type", "-xtype", "-size", "-links", "-mtime", "-mmin", "-atime",
    "-amin", "-ctime", "-cmin", "-newer", "-anewer", "-cnewer", "-newermt", "-newerat", "-newerct",
    "-newermm", "-perm", "-user", "-group", "-uid", "-gid", "-samefile", "-inum", "-maxdepth",
    "-mindepth", "-printf", "-used"]

/-- Words that run a program. -/
def runWords : List String := ["-exec", "-execdir", "-ok", "-okdir"]

def dashedWord (s : String) : Bool := s.startsWith "-" && 1 < s.length

/-- The number of bytes in a unit of sizes. -/
def sizeUnit? (s : String) : Option (Bound × Nat) :=
  let cs := s.toList
  let unit : Option Nat :=
    match cs.getLast? with
    | some 'b' => some 512
    | some 'c' => some 1
    | some 'w' => some 2
    | some 'k' => some 1024
    | some 'M' => some (1024 ^ 2)
    | some 'G' => some (1024 ^ 3)
    | _ => none
  match unit with
  | some u => (bound? (String.ofList cs.dropLast)).map fun b => (b, u)
  | none => (bound? s).map fun b => (b, 512)

/-- Why a condition is refused; some refusals name the text in the quotation marks of the locale. -/
inductive Refusal
  | said (message : String)
  | quoted (before text after : String)
  | missing (file : String) (fault : Fault)
  deriving Repr

/-- What is needed to read a condition: the files that it names, the time, and the dialect of
regular expressions. -/
structure Reading where
  disk : Disk
  place : Nat
  now : Int
  calendar : Calendar
  dialect : String

/-- Reads the value behind a word. -/
def valueClause (k : Reading) (word value : String) : Except Refusal Clause := do
  let sought (s : Sought) : Except Refusal Clause := .ok (.sought s)
  let invalid : Except Refusal Clause := .error (.said s!"invalid argument `{value}' to `{word}'")
  let number : Except Refusal Bound :=
    match bound? value with
    | some b => .ok b
    | none => .error (.said s!"invalid argument `{value}' to `{word}'")
  let file : Except Refusal (Nat × Inode) :=
    match k.disk.resolve true k.place value with
    | .error e => .error (.missing value e)
    | .ok s =>
      match s.found.bind fun n => (k.disk.get? n).map fun i => (n, i) with
      | some e => .ok e
      | none => .error (.missing value .missing)
  let level (f : Nat → Walking → Walking) : Except Refusal Clause :=
    match digits? value with
    | some n => .ok (.walking (f n))
    | none =>
      .error (.quoted s!"Expected a positive decimal integer argument to {word}, but got " value "")
  let since (accessed : Bool) : Except Refusal Clause :=
    match DateText.read? k.calendar value with
    | some t => sought (.newer t accessed)
    | none => .error (.quoted "I cannot figure out how to interpret " value " as a date or time")
  match word with
  | "-name" => sought (.name value false)
  | "-iname" => sought (.name value true)
  | "-path" => sought (.path value false)
  | "-wholename" => sought (.path value false)
  | "-ipath" => sought (.path value true)
  | "-iwholename" => sought (.path value true)
  | "-lname" => sought (.target value false)
  | "-ilname" => sought (.target value true)
  | "-type" => kinds false
  | "-xtype" => kinds true
  | "-size" =>
    match sizeUnit? value with
    | some (b, u) => sought (.size b u)
    | none => .error (.said s!"Invalid argument `{value}' to -size")
  | "-links" => do sought (.links (← number))
  | "-mtime" => do sought (.age (← number) 86400 false)
  | "-ctime" => do sought (.age (← number) 86400 false)
  | "-atime" => do sought (.age (← number) 86400 true)
  | "-mmin" => do sought (.age (← number) 60 false)
  | "-cmin" => do sought (.age (← number) 60 false)
  | "-amin" => do sought (.age (← number) 60 true)
  | "-newer" => do sought (.newer (← file).2.changed false)
  | "-newermm" => do sought (.newer (← file).2.changed false)
  | "-cnewer" => do sought (.newer (← file).2.changed false)
  | "-anewer" => do sought (.newer (← file).2.changed true)
  | "-newermt" => since false
  | "-newerct" => since false
  | "-newerat" => since true
  | "-perm" =>
    let relation := if value.startsWith "-" then '-' else if value.startsWith "/" then '/' else '='
    let text := if relation = '=' then value else (value.drop 1).toString
    match Mode.parse? text with
    | some changes => sought (.mode relation (Mode.apply false 0 changes 0))
    | none => .error (.quoted "invalid mode " value "")
  | "-user" =>
    match accountNumber? false value with
    | some n => sought (.owner n)
    | none => .error (.quoted "" value " is not the name of a known user")
  | "-group" =>
    match accountNumber? true value with
    | some n => sought (.group n)
    | none => .error (.quoted "" value " is not the name of an existing group")
  | "-uid" => do sought (.owner (← number).number)
  | "-gid" => do sought (.group (← number).number)
  | "-samefile" => do sought (.same (← file).1)
  | "-inum" => do sought (.same ((← number).number - 1000))
  | "-maxdepth" => level fun n w => { w with high := n }
  | "-mindepth" => level fun n w => { w with low := n }
  | "-printf" => sought (.tell value)
  | _ => invalid
where
  kinds (follows : Bool) : Except Refusal Clause :=
    let parts := value.splitOn ","
    let letters := parts.flatMap String.toList
    if value = "" then
      .error (.said s!"Arguments to {word} should contain at least one letter")
    else if parts.any fun p => 1 < p.length then
      .error (.said s!"Must separate multiple arguments to {word} using: ','")
    else if parts.any fun p => p = "" then
      .error (.said (s!"Last file type in list argument to {word} is missing, " ++
        "i.e., list is ending on: ','"))
    else
      match letters.find? fun c => !("bcdpflsD".toList.contains c) with
      | some c => .error (.said s!"Unknown argument to {word}: {c}")
      | none => .ok (.sought (.kind letters follows))

/-- What is left of a condition while it is read, with the way to walk. -/
structure Condition where
  rest : List String
  walking : Walking
  dialect : String

/-- Reads one condition; `whole` reads those in parentheses. -/
def primarySought (k : Reading) (regex : String → Bool → String → Except String Regex)
    (whole : Condition → Except Refusal (Sought × Condition)) :
    Nat → Condition → Except Refusal (Sought × Condition)
  | 0, _ => .error (.said "invalid expression")
  | fuel + 1, c => do
    match c.rest with
    | [] => .error (.said "invalid expression")
    | "(" :: rest => do
      if rest.head? = some ")" then
        .error (.said "invalid expression; empty parentheses are not allowed.")
      else
        let (s, c) ← whole { c with rest }
        match c.rest with
        | ")" :: rest => .ok (s, { c with rest })
        | _ =>
          .error (.said ("invalid expression; " ++
            "I was expecting to find a ')' somewhere but did not see one."))
    | ")" :: _ => .error (.said "invalid expression; you have too many ')'")
    | "!" :: rest => negated { c with rest } fuel "!"
    | "-not" :: rest => negated { c with rest } fuel "-not"
    | word :: rest =>
      if ["-o", "-or", "-a", "-and", ","].contains word then
        .error (.said
          s!"invalid expression; you have used a binary operator '{word}' with nothing before it.")
      else
        match plainClause? word with
        | some (.sought s) =>
          let walking := if s matches .delete then { c.walking with inner := true } else c.walking
          .ok (s, { c with rest, walking })
        | some (.walking f) => .ok (.always true, { c with rest, walking := f c.walking })
        | none =>
          if valueWords.contains word then
            match rest with
            | [] => .error (.said s!"missing argument to `{word}'")
            | value :: rest =>
              if word = "-regextype" then
                match regex value false "" with
                | .ok _ => .ok (.always true, { c with rest, dialect := value })
                | .error message => .error (.said message)
              else if word = "-regex" || word = "-iregex" then
                match regex c.dialect (word == "-iregex") value with
                | .ok r => .ok (.regex r, { c with rest })
                | .error message =>
                  .error (.said s!"failed to compile regular expression '{value}': {message}")
              else do
                match ← valueClause k word value with
                | .sought s => .ok (s, { c with rest })
                | .walking f => .ok (.always true, { c with rest, walking := f c.walking })
          else if runWords.contains word then
            let isEnd (before : List String) (s : String) : Bool :=
              s = ";" || (s = "+" && before.getLast? == some "\x7b\x7d")
            let front := (rest.foldl
              (fun (acc : List String × Bool) s =>
                if acc.2 || isEnd acc.1 s then (acc.1, true) else (acc.1 ++ [s], false))
              ([], false)).1
            let inPlace := word = "-execdir" || word = "-okdir"
            match rest.drop front.length with
            | ";" :: rest =>
              if front.isEmpty then .error (.said s!"invalid argument `;' to `{word}'")
              else .ok (.run front (word.startsWith "-ok") inPlace, { c with rest })
            | "+" :: rest => .ok (.collect front.dropLast inPlace, { c with rest })
            | _ => .error (.said s!"missing argument to `{word}'")
          else if dashedWord word then .error (.said s!"unknown predicate `{word}'")
          else .error (.said s!"paths must precede expression: `{word}'")
where
  negated (c : Condition) (fuel : Nat) (word : String) : Except Refusal (Sought × Condition) := do
    if c.rest.isEmpty then .error (.said s!"expected an expression after '{word}'")
    else
      let (s, c) ← primarySought k regex whole fuel c
      .ok (.not s, c)

/-- Reads conditions that must all hold, one behind the other. -/
def conjunctionSought (primary : Condition → Except Refusal (Sought × Condition)) :
    Nat → Sought → Condition → Except Refusal (Sought × Condition)
  | 0, s, c => .ok (s, c)
  | fuel + 1, s, c =>
    let next (c : Condition) : Except Refusal (Sought × Condition) := do
      let (t, c) ← primary c
      conjunctionSought primary fuel (.both s t) c
    match c.rest with
    | [] => .ok (s, c)
    | a :: rest =>
      if a = "-a" || a = "-and" then
        if rest.isEmpty then .error (.said s!"expected an expression after '{a}'")
        else next { c with rest }
      else if ["-o", "-or", ")", ","].contains a then .ok (s, c)
      else next c

/-- Reads conditions of which one must hold, or that are seen to in turn, in parentheses to a
depth. -/
def wholeSought (k : Reading) (regex : String → Bool → String → Except String Regex) :
    Nat → Condition → Except Refusal (Sought × Condition)
  | 0, _ => .error (.said "invalid expression")
  | fuel + 1, c => do
    let primary (c : Condition) : Except Refusal (Sought × Condition) :=
      primarySought k regex (wholeSought k regex fuel) (c.rest.length + 1) c
    let (s, c) ← primary c
    let (s, c) ← conjunctionSought primary (c.rest.length + 1) s c
    match c.rest with
    | [] => .ok (s, c)
    | a :: rest =>
      if a = "-o" || a = "-or" || a = "," then do
        if rest.isEmpty then .error (.said s!"expected an expression after '{a}'")
        else
          let (t, c) ← wholeSought k regex fuel { c with rest }
          .ok (if a = "," then .after s t else .either s t, c)
      else .ok (s, c)

/-! Walking -/

/-- What was met on the way through files: those that are collected for one program, whether
something went wrong, whether the way ends here, and whether it ends at all. -/
structure Walk where
  collected : List (List String × List String)
  failed : Bool
  pruned : Bool
  stopped : Bool

/-- A file on the way. -/
structure Met where
  path : String
  operand : String
  level : Nat
  number : Nat
  inode : Inode

/-- What a letter of a format tells about a file on the way. -/
def metFact (zone : Zone) (d : Disk) (m : Met) (c : Char) : String :=
  let i := m.inode
  let time (t : Int) : String :=
    (Calendar.ofNanoseconds zone.offset t).formatText zone.name "%a %b %d %T.%N0 %Y"
  let below := (m.path.drop m.operand.length).toString
  let below := if below.startsWith "/" then (below.drop 1).toString else below
  if c = 'p' then m.path
  else if c = 'f' then (if m.path = "/" then "/" else lastPart m.path)
  else if c = 'h' then
    (if m.path.toList.contains '/' then leadingPart m.path else ".")
  else if c = 'P' then below
  else if c = 'H' then m.operand
  else if c = 's' then toString i.size
  else if c = 'd' then toString m.level
  else if c = 'y' then (let k := kindLetter i; if k = '-' then "f" else String.singleton k)
  else if c = 'Y' then
    match d.resolve true Disk.root m.path with
    | _ => (let k := kindLetter i; if k = '-' then "f" else String.singleton k)
  else if c = 'm' then Mode.octal i.mode
  else if c = 'M' then modeText i
  else if c = 'n' then toString (d.linkCount m.number)
  else if c = 'u' then Account.ownerName i.owner
  else if c = 'U' then toString i.owner
  else if c = 'g' then Account.groupName i.group
  else if c = 'G' then toString i.group
  else if c = 'i' then toString (1000 + m.number)
  else if c = 'k' then toString (blocksOf i / 2)
  else if c = 'b' then toString (blocksOf i)
  else if c = 'l' then
    match i.content with
    | .link target => target
    | _ => ""
  else if c = 'a' then time i.accessed
  else if c = 't' || c = 'c' then time i.changed
  else if c = 'D' then "2049"
  else if c = 'F' then "ext4"
  else if c = 'S' then "1"
  else ""

/-- Tells of a file on the way in a format; whether the output stops there. -/
def tellMet (zone : Zone) (d : Disk) (m : Met) : Nat → List Char → List Char
  | 0, _ => []
  | _ + 1, [] => []
  | fuel + 1, c :: rest =>
    let go := tellMet zone d m fuel
    if c = '\\' then
      match rest with
      | 'c' :: _ => []
      | [] => ['\\']
      | e :: more =>
        let digits := (rest.take 3).takeWhile Escape.isOctal
        if !digits.isEmpty then Escape.byte digits :: go (rest.drop digits.length)
        else
          match Escape.letter? e with
          | some ch => ch :: go more
          | none => '\\' :: e :: go more
    else if c = '%' then
      let flags := rest.takeWhile fun f => "#-+ 0".toList.contains f
      let behind := rest.drop flags.length
      let digits := behind.takeWhile Char.isDigit
      let behind := behind.drop digits.length
      let (precision, behind) :=
        match behind with
        | '.' :: more =>
          let ds := more.takeWhile Char.isDigit
          (some (Decimal.value ds), more.drop ds.length)
        | behind => (none, behind)
      let layout : Layout := ⟨flags, Decimal.value digits, precision⟩
      match behind with
      | '%' :: more => '%' :: go more
      | t :: letter :: more =>
        if t = 'T' || t = 'A' || t = 'C' then
          let time := if t = 'A' then m.inode.accessed else m.inode.changed
          let calendar := Calendar.ofNanoseconds zone.offset time
          let fraction := String.ofList (Decimal.padded 9 calendar.nano) ++ "0"
          let text :=
            if letter = '@' then s!"{calendar.seconds}.{fraction}"
            else if letter = 'S' then calendar.formatText zone.name "%S" ++ "." ++ fraction
            else if letter = 'T' || letter = 'X' then
              calendar.formatText zone.name "%T" ++ "." ++ fraction
            else if letter = '+' then
              calendar.formatText zone.name "%Y-%m-%d+%T" ++ "." ++ fraction
            else calendar.formatText zone.name ("%" ++ String.singleton letter)
          layout.text text.toList ++ go more
        else layout.text (metFact zone d m t).toList ++ go (letter :: more)
      | [t] => layout.text (metFact zone d m t).toList
      | [] => ['%']
    else c :: go rest

/-- Runs a program for files. -/
def runFor (e : Evaluator) (self : String) (place : Option Nat) (argv : List String) : Run Nat := do
  let (_, ending) ← Run.fork do
    match place with
    | some place => modify fun m => { m with place }
    | none => pure ()
    let r ← become e argv
    complain self ((← named (argv.headD "")) ++ ": " ++ r.reason)
    Run.setStatus 1
  pure ending.status

/-- Whether a file is one that is looked for; what is to be done to it is done. -/
def seek (e : Evaluator) (self : String) (m : Met) : Sought → Walk → Run (Bool × Walk)
  | s, w => do
    let d ← Run.disk
    let i := m.inode
    let lower (s : String) : String := String.ofList (s.toList.map Char.toLower)
    let stands (pattern text : String) (folds : Bool) : Bool :=
      if folds then fits (lower pattern) (lower text) else fits pattern text
    let now := (← Run.getSystem).now
    match s with
    | .name p folds => pure (stands p (lastPart m.path) folds, w)
    | .path p folds => pure (stands p m.path folds, w)
    | .target p folds =>
      match i.content with
      | .link target => pure (stands p target folds, w)
      | _ => pure (false, w)
    | .regex r => do
      let utf8 ← usesUtf8
      let subject : Regex.Subject :=
        ⟨(charactersIn utf8 m.path.toList).toArray, utf8, true, false⟩
      pure (Regex.isWhole subject r, w)
    | .kind letters follows => do
      let target ← Run.node follows m.path
      let i := (target.toOption.map Prod.snd).getD i
      let letter := if kindLetter i = '-' then 'f' else kindLetter i
      pure (letters.contains letter, w)
    | .empty =>
      match i.content with
      | .directory _ names => pure (names.isEmpty, w)
      | c => pure (c.isFile && i.size == 0, w)
    | .size b unit => pure (b.holds ((i.size + unit - 1) / unit : Nat), w)
    | .links b => pure (b.holds (d.linkCount m.number), w)
    | .age b unit accessed =>
      let t := if accessed then i.accessed else i.changed
      let units := Int.fdiv (now - t) (unit * 10 ^ 9)
      pure (if unit = 60 && b.relation == .eq then b.holds (units + 1) else b.holds units, w)
    | .newer time accessed =>
      pure (decide (time < (if accessed then i.accessed else i.changed)), w)
    | .mode relation bits =>
      pure (if relation = '-' then i.mode &&& bits == bits
        else if relation = '/' then bits == 0 || i.mode &&& bits != 0
        else i.mode == bits, w)
    | .owner n => pure (i.owner == n, w)
    | .group n => pure (i.group == n, w)
    | .same n => pure (m.number == n, w)
    | .runs => pure (i.isDirectory || i.runs, w)
    | .always b => pure (b, w)
    | .print close => do
      putText self (m.path ++ String.singleton close)
      pure (true, w)
    | .tell format => do
      let zone ← zoneOf
      put self (tellMet zone d m (format.length + 1) format.toList)
      pure (true, w)
    | .list => do
      let zone ← zoneOf
      let time := (Calendar.ofNanoseconds zone.offset i.changed).formatText zone.name "%b %e %H:%M"
      let number := rightAt 9 (toString (1000 + m.number))
      let blocks := rightAt 6 (toString (blocksOf i / 2))
      let links := rightAt 3 (toString (d.linkCount m.number))
      let owner := leftAt 8 (Account.ownerName i.owner)
      let group := leftAt 8 (Account.groupName i.group)
      let size := rightAt 8 (toString i.size)
      putText self
        s!"{number} {blocks} {modeText i} {links} {owner} {group} {size} {time} {m.path}\n"
      pure (true, w)
    | .delete => do
      if m.path = "." then pure (true, w)
      else
        match ← Run.spot false m.path with
        | .error _ => pure (false, w)
        | .ok s =>
          if !((d.names m.number).isEmpty) && i.isDirectory then do
            complain self s!"cannot delete {← named m.path}: {Fault.notEmpty.reason}"
            pure (false, { w with failed := true })
          else do
            dropSpot s
            pure (true, w)
    | .prune => pure (true, { w with pruned := true })
    | .quit => pure (true, { w with stopped := true })
    | .run argv asks inPlace => do
      let name := if inPlace then "./" ++ lastPart m.path else m.path
      let argv := argv.map fun a => a.replace "\x7b\x7d" name
      let yes ←
        if asks then confirm ("< " ++ argv.headD "" ++ s!" ... {m.path} > ? ") else pure true
      if !yes then pure (false, w)
      else do
        let place ←
          if inPlace then
            return ← inside argv (leadingPart m.path) w
          else pure none
        return ((← runFor e self place argv) == 0, w)
    | .collect argv inPlace =>
      let name := if inPlace then "./" ++ lastPart m.path else m.path
      let old := ((w.collected.find? fun c => c.1 == argv).map Prod.snd).getD []
      pure (true, { w with collected := Entries.set argv (old ++ [name]) w.collected })
    | .not s => do
      let (b, w) ← seek e self m s w
      pure (!b, w)
    | .both s t => do
      let (b, w) ← seek e self m s w
      if b && !w.stopped then seek e self m t w else pure (b && false, w)
    | .either s t => do
      let (b, w) ← seek e self m s w
      if b || w.stopped then pure (true, w) else seek e self m t w
    | .after s t => do
      let (_, w) ← seek e self m s w
      if w.stopped then pure (true, w) else seek e self m t w
where
  inside (argv : List String) (dir : String) (w : Walk) : Run (Bool × Walk) := do
    let place := (← Run.node true dir).toOption.map Prod.fst
    return ((← runFor e self place argv) == 0, w)

/-- Walks through a file and all below it, down to a level. -/
def walkFiles (e : Evaluator) (self : String) (s : Sought) (k : Walking) (operand : String) :
    Nat → Nat → String → Walk → Run Walk
  | 0, _, _, w => pure w
  | fuel + 1, level, path, w => do
    if w.stopped then return w
    let follows := k.follows || (k.followsOperands && level == 0)
    let found ←
      match ← Run.node follows path with
      | .ok e => pure (Except.ok e)
      | .error _ => Run.node false path
    match found with
    | .error fault => do
      complain self s!"{← named path}: {fault.reason}"
      pure { w with failed := true }
    | .ok (n, i) => do
      let here (w : Walk) : Run Walk := do
        if level < k.low || w.stopped then pure w
        else return (← seek e self ⟨path, operand, level, n, i⟩ s w).2
      let down (w : Walk) : Run Walk := do
        if !i.isDirectory || k.high ≤ level then pure w
        else
          ((← Run.disk).children n).foldlM
            (fun w name => walkFiles e self s k operand fuel (level + 1) (under path name) w) w
      if k.inner then here (← down w)
      else do
        let w ← here { w with pruned := false }
        if w.pruned then pure { w with pruned := false } else down w

/-- The notations of regular expressions by their names. -/
def regexDialects : List (String × Regex.Dialect) :=
  let awk : Regex.Dialect :=
    { Regex.Dialect.extended with
      intervals := false, faultsRepetitions := false, skipsRepetitions := false, looseGroups := true
      escapesInSets := true }
  let egrep := Regex.Dialect.searchingExtended
  [("findutils-default", { Regex.Dialect.editing with lineEnds := true }), ("ed", .basic),
    ("emacs", .editing), ("gnu-awk", { awk with intervals := true, skipsRepetitions := true }),
    ("grep", .searching), ("posix-awk", { awk with intervals := true, faultsRepetitions := true }),
    ("awk", awk), ("posix-basic", .basic), ("posix-egrep", egrep), ("egrep", egrep),
    ("posix-extended", { Regex.Dialect.extended with looseGroups := true }),
    ("posix-minimal-basic", .basic), ("sed", .basic)]

/-- Reads a regular expression in one of the notations. -/
def findRegex (utf8 : Bool) (name : String) (folds : Bool) (text : String) : Except String Regex :=
  match regexDialects.find? fun d => d.1 == name with
  | none =>
    let names := ", ".intercalate (regexDialects.map fun d => quotedIn utf8 d.1)
    .error s!"Unknown regular expression type {quotedIn utf8 name}; valid types are {names}."
  | some (_, dialect) =>
    match Regex.read dialect folds utf8 (charactersIn utf8 text.toList) with
    | .ok (r, _) => .ok r
    | .error flaw => .error flaw.reason

def find (e : Evaluator) : Body := fun self args => do
  let isOption (s : String) : Bool := ["-H", "-L", "-P"].contains s || s.startsWith "-O" || s = "--"
  let options := args.takeWhile isOption
  let args := args.drop options.length
  let isPath (s : String) : Bool :=
    !dashedWord s && !(["(", ")", "!", ","].contains s)
  let paths := args.takeWhile isPath
  let rest := args.drop paths.length
  let paths := if paths.isEmpty then ["."] else paths
  let followsAll := (options.filter fun o => o != "--").getLast? == some "-L"
  let followsOperands := followsAll || (options.filter fun o => o != "--").getLast? == some "-H"
  let walking : Walking := ⟨0, 1000, false, followsAll, followsOperands⟩
  let m ← get
  let zone ← zoneOf
  let now := m.system.now
  let k : Reading :=
    ⟨m.system.disk, m.place, now, Calendar.ofNanoseconds zone.offset now, "findutils-default"⟩
  let start : Condition := ⟨rest, walking, "findutils-default"⟩
  let utf8 ← usesUtf8
  let parsed : Except Refusal (Sought × Condition) :=
    if rest.isEmpty then .ok (.always true, start)
    else wholeSought k (findRegex utf8) (rest.length + 1) start
  match parsed with
  | .error (.said message) => do
    complain self message
    pure 1
  | .error (.quoted before text after) => do
    complain self (before ++ (← named text) ++ after)
    pure 1
  | .error (.missing file fault) => do
    complain self s!"{← named file}: {fault.reason}"
    pure 1
  | .ok (s, c) => do
    match c.rest with
    | a :: _ => do
      if a = ")" then complain self "invalid expression; you have too many ')'"
      else complain self s!"paths must precede expression: `{a}'"
      pure 1
    | [] => do
      let s := if s.acts then s else .both s (.print '\n')
      let w ← paths.foldlM
        (fun (w : Walk) path => do
          if w.stopped then pure w
          else if path = "" then do
            complain self s!"{← named path}: {Fault.missing.reason}"
            pure { w with failed := true }
          else walkFiles e self s c.walking path 1000 0 path w)
        (⟨[], false, false, false⟩ : Walk)
      let failed ← w.collected.foldlM
        (fun failed (argv, files) => do
          return (← runFor e self none (argv ++ files)) != 0 || failed)
        w.failed
      pure (statusOf failed)

end CredoAssistant.Shell.Program
