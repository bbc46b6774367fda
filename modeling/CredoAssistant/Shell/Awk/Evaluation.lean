import CredoAssistant.Shell.Awk.Streams
import CredoAssistant.Shell.Calendar

/-!
Expressions and statements at work.

The fuel of an evaluation bounds both how deep expressions stand in each other and how many rounds
loops have; a program that needs more makes no end.
-/
namespace CredoAssistant.Shell.Awk

/-- Where a value can be put. -/
inductive Place
  | variable (name : String)
  | field (index : Nat)
  | element (table : Nat) (key : Key)
  deriving Repr

/-- How a statement ended. -/
inductive Flow
  | onward
  | leave
  | again
  | result (v : Cell)
  deriving Repr

namespace Act

def endless {α : Type} : Act α := run (Run.forever)

/-! Places -/

def load : Place → Act Cell
  | .variable name => value name
  | .field i => field i
  | .element n key => do
    let (v, t) := (← table n).access true key id
    setTable n t
    pure (v.getD .none)

def store (v : Cell) : Place → Act Unit
  | .variable name => setValue name v
  | .field i => setField i v
  | .element n key => do setTable n ((← table n).access true key fun _ => v).2

/-! Operators -/

/-- Which way round two values stand: by numbers, unless one of them is a text. -/
def compare (op : Operator) (a b : Cell) : Act Bool := do
  if a.isNumber && b.isNumber then
    let x := a.toNumber
    let y := b.toNumber
    pure (match op with
      | .less => Numbers.isLess x y
      | .more => Numbers.isLess y x
      | .atMost => Numbers.isLess x y || Numbers.isEqual x y
      | .atLeast => Numbers.isLess y x || Numbers.isEqual x y
      | .equal => Numbers.isEqual x y
      | _ => !Numbers.isEqual x y)
  else do
    let s ← textOf a
    let t ← textOf b
    pure (match op with
      | .less => s < t
      | .more => t < s
      | .atMost => !(t < s)
      | .atLeast => !(s < t)
      | .equal => s == t
      | _ => s != t)

/-- What an operator between numbers does. -/
def arithmetic? : Operator → Option (Floating → Floating → Floating)
  | .add => some Numbers.add
  | .subtract => some Numbers.subtract
  | .multiply => some Numbers.multiply
  | .divide => some Numbers.divide
  | .remainder => some Numbers.remainder
  | .power => some Numbers.power
  | _ => none

def operate (op : Operator) (a b : Cell) : Act Cell := do
  match arithmetic? op with
  | some f => pure (.number (f a.toNumber b.toNumber))
  | none =>
    if op = .join then return .text ((← textOf a) ++ (← textOf b))
    else return .ofBool (← compare op a b)

/-! Functions -/

/-- A part of a text from a position on, of some length. What is asked for before its beginning is
made up for behind it. -/
def part (s : String) (first : Floating) (length : Option Floating) : String :=
  let bound : Int := 2 ^ 53
  let start := Numbers.clamped (-bound) bound first
  let n : Int := ((length.map (Numbers.clamped (-bound) bound))).getD (2 * bound)
  let (start, n) := if start < 1 then (1, n - start) else (start, n)
  String.ofList ((s.toList.drop (start - 1).toNat).take n.toNat)

/-- The position of a text in another one, from one on. Nothing at all is found at once. -/
def position (s t : String) : Nat :=
  let cs := s.toList
  let ds := t.toList
  if ds.isEmpty then 1
  else
    ((List.range cs.length).find? fun i => ds.isPrefixOf (cs.drop i)).elim 0 (· + 1)

/-- The time in a format. -/
def timeText (format : String) (seconds : Int) : String :=
  let moment := Calendar.ofNanoseconds 0 (seconds * Calendar.nanosecondsPerSecond)
  Calendar.formatText "UTC" moment format

/-- The time that six numbers stand for. -/
def timeOf (s : String) : Int :=
  match (s.splitOn " ").filterMap String.toInt? with
  | [year, month, day, hour, minute, second] =>
    let days := Calendar.dayNumber year month.toNat 1 + day - 1
    days * 86400 + hour * 3600 + minute * 60 + second
  | _ => -1

/-- The next number of a sequence between zero and one, whatever the seed is. -/
def draw : Act Floating := do
  let s ← get
  let n := (s.drawn * 1103515245 + 12345) % 2 ^ 31
  set { s with drawn := n }
  pure (Numbers.divide (Numbers.ofNat n) (Numbers.ofNat (2 ^ 31)))

/-- Why a format could not be filled. -/
def misfit {α : Type} (name format : String) : Misfit → Act α
  | .tooFew => fault s!"not enough arguments passed to {name}(\"{format}\")"
  | .improper n => fault s!"improper conversion(number {n}) in {name}(\"{format}\")"

/-- How much room calls can take in each other. -/
def mostDepth : Nat := 1020

variable (e : Evaluator)

/-- A function of values. -/
def plain (f : Builtin) (vs : List Cell) : Act Cell := do
  let first := vs.headD .none
  let second := (vs.tail).headD .none
  let x := first.toNumber
  let numeric (y : Floating) : Act Cell := pure (.number y)
  match f with
  | .index => return .ofNat (position (← textOf first) (← textOf second))
  | .substr => do
    let length := (vs.drop 2).head?.map Cell.toNumber
    return .text (part (← textOf first) second.toNumber length)
  | .sprintf => do
    let format ← textOf first
    let (cs, wrong) := formatted (← convfmt) format vs.tail
    match wrong with
    | some w => misfit "sprintf" format w
    | none => pure (.text (String.ofList cs))
  | .lower => return .text (String.ofList ((← textOf first).toList.map Char.toLower))
  | .upper => return .text (String.ofList ((← textOf first).toList.map Char.toUpper))
  | .system => return .ofInt (← system e (← textOf first))
  | .close => return .ofInt (← close e (← textOf first))
  | .flush => do
    let name ← textOf first
    return .ofInt (← flush (if vs.isEmpty then none else some name))
  | .sin => numeric (Numbers.through Float.sin x)
  | .cos => numeric (Numbers.through Float.cos x)
  | .atan2 => numeric (Numbers.throughBoth Float.atan2 x second.toNumber)
  | .exp => numeric (Numbers.through Float.exp x)
  | .log => numeric (Numbers.through Float.log x)
  | .sqrt => numeric (Numbers.through Float.sqrt x)
  | .int => numeric (Numbers.truncated x)
  | .rand => numeric (← draw)
  | .srand => do
    let s ← get
    let seed : Cell := if vs.isEmpty then .ofInt System.start else first
    set { s with seed }
    pure s.seed
  | .time => do
    let s ← run Run.getSystem
    return .ofInt (System.start + (s.clock / 1000000 : Nat))
  | .timeText => do
    let s ← run Run.getSystem
    let format ← if vs.isEmpty then pure "%c" else textOf first
    let now : Int := System.start + (s.clock / 1000000 : Nat)
    let seconds := if vs.length < 2 then now else Numbers.toInteger second.toNumber
    pure (.text (timeText format seconds))
  | .timeOf => return .ofInt (timeOf (← textOf first))
  | _ => pure .none

mutual

/-- The value of an expression. -/
def eval : Nat → Expr → Act Cell
  | 0, _ => endless
  | fuel + 1, x => do
    match x with
    | .number n => pure (.number n)
    | .text s => pure (.text s)
    | .pattern r _ => return .ofBool (fitsIn r (← get).record)
    | .name s => value s
    | .field _ => load (← place fuel x)
    | .element _ _ => load (← place fuel x)
    | .group es =>
      match es with
      | [e] => eval fuel e
      | _ => pure .none
    | .assign op target v => do
      let p ← place fuel target
      let v ← eval fuel v
      let v ← match op with
        | none => pure v
        | some op => operate op (← load p) v
      store v p
      pure v
    | .step isBefore up target => do
      let p ← place fuel target
      let old := (← load p).toNumber
      let one := Numbers.ofInt (if up then 1 else -1)
      let new := Numbers.add old one
      store (.number new) p
      pure (.number (if isBefore then new else old))
    | .signed s v => do
      let v ← eval fuel v
      match s with
      | .not => pure (.ofBool (!v.isTrue))
      | .minus => pure (.number (Numbers.negate v.toNumber))
      | .plus => pure (.number v.toNumber)
    | .binary op a b => do
      let a ← eval fuel a
      let b ← eval fuel b
      operate op a b
    | .both a b => do
      let a ← eval fuel a
      if a.isTrue then do
        let b ← eval fuel b
        pure (.ofBool b.isTrue)
      else pure (.ofBool false)
    | .either a b => do
      let a ← eval fuel a
      if a.isTrue then pure (.ofBool true)
      else do
        let b ← eval fuel b
        pure (.ofBool b.isTrue)
    | .choose test yes no => do
      let t ← eval fuel test
      if t.isTrue then eval fuel yes else eval fuel no
    | .fits negated a b => do
      let s ← textOf (← eval fuel a)
      let r ← pattern fuel b
      pure (.ofBool (fitsIn r s != negated))
    | .isIn keys array => do
      let vs ← evalAll fuel keys
      let n ← tableNumber array
      let key ← keyOf vs
      let (found, t) := (← table n).access false key id
      setTable n t
      pure (.ofBool found.isSome)
    | .call name args => call fuel name args
    | .builtin f args => builtin fuel f args
    | .getline origin source target => do
      let p ← match target with
        | none => pure none
        | some t => do
          let p ← place fuel t
          pure (some p)
      let keep (s : String) : Act Cell := do
        match p with
        | none => setRecord s
        | some p => store (.ofInput s) p
        pure (.ofNat 1)
      match source with
      | none => do
        match ← nextRecord mostFiles with
        | some s => keep s
        | none => pure (.ofNat 0)
      | some x => do
        let name ← textOf (← eval fuel x)
        match ← nextOf e (origin = .command) name with
        | .ok s => keep s
        | .error n => pure (.ofInt n)

def evalAll : Nat → List Expr → Act (List Cell)
  | 0, _ => endless
  | _ + 1, [] => pure []
  | fuel + 1, x :: rest => do
    let v ← eval fuel x
    let vs ← evalAll fuel rest
    pure (v :: vs)

/-- The place that an expression stands for. An element is there from then on. -/
def place : Nat → Expr → Act Place
  | 0, _ => endless
  | fuel + 1, x => do
    match x with
    | .name s => pure (.variable s)
    | .field i => do
      let v ← eval fuel i
      let n ← checkIndex (Numbers.toInteger v.toNumber)
      pure (.field n)
    | .element array keys => do
      let vs ← evalAll fuel keys
      let n ← tableNumber array
      let key ← keyOf vs
      setTable n ((← table n).access true key id).2
      pure (.element n key)
    | .group [x] => place fuel x
    | _ => pure (.variable "")

/-- The regular expression that an expression stands for. -/
def pattern : Nat → Expr → Act Regex
  | 0, _ => endless
  | fuel + 1, x => do
    match x with
    | .pattern r _ => pure r
    | .group [x] => pattern fuel x
    | x => do
      let s ← textOf (← eval fuel x)
      match Regular.read s with
      | .ok r => pure r
      | .error flaw => badPattern flaw s

/-- What an expression puts between the parts of a text. -/
def separator : Nat → Expr → Act Separator
  | 0, _ => endless
  | fuel + 1, x => do
    match x with
    | .pattern r source => pure (if source = "" then .nothing else .regex r)
    | x => do
      let s ← textOf (← eval fuel x)
      separatorOf s

/-- A function that is always there. -/
def builtin : Nat → Builtin → List Expr → Act Cell
  | 0, _, _ => endless
  | fuel + 1, f, args => do
    match f, args with
    | .length, [] => return .ofNat (← get).record.length
    | .length, [.name s] => do
      let number : Option Nat ←
        match ← slot? s with
        | some (.table n) => pure (some n)
        | some (.unused n) => pure (some n)
        | some (.value _) => pure none
        | none => pure (Entries.get? s (← get).arrays)
      match number with
      | some n => return .ofNat (← table n).size
      | none => do
        let text ← textOf (← value s)
        pure (.ofNat text.length)
    | .length, x :: _ => do
      let text ← textOf (← eval fuel x)
      pure (.ofNat text.length)
    | .matchIn, [x, r] => do
      let s ← textOf (← eval fuel x)
      let r ← pattern fuel r
      let (start, length) : Int × Int :=
        match firstFit (subjectOf s.toList) r 0 with
        | some (i, n) => (i + 1, n)
        | none => (0, -1)
      setGlobal "RSTART" (.ofInt start)
      setGlobal "RLENGTH" (.ofInt length)
      pure (.ofInt start)
    | .split, x :: .name array :: rest => do
      let s ← textOf (← eval fuel x)
      let n ← tableNumber array
      let sep ← match rest with
        | [] => do separatorOf (← globalText "FS")
        | y :: _ => separator fuel y
      let parts := sep.fields false s
      setTable n (Table.ofList (parts.map Cell.ofInput))
      pure (.ofNat parts.length)
    | .sub, r :: new :: rest => substitute fuel false r new rest
    | .gsub, r :: new :: rest => substitute fuel true r new rest
    | f, args => do
      let vs ← evalAll fuel args
      plain e f vs

/-- Puts a text in the place of what an expression fits: how often that was. -/
def substitute : Nat → Bool → Expr → Expr → List Expr → Act Cell
  | 0, _, _, _, _ => endless
  | fuel + 1, everywhere, r, new, rest => do
    let r ← pattern fuel r
    let new ← textOf (← eval fuel new)
    let target := rest.headD (.field (.number Numbers.zero))
    let p : Option Place ←
      match target with
      | .name _ => do
        let p ← place fuel target
        pure (some p)
      | .field _ => do
        let p ← place fuel target
        pure (some p)
      | .element _ _ => do
        let p ← place fuel target
        pure (some p)
      | _ => pure none
    let old ← match p with
      | some p => load p
      | none => eval fuel target
    let (text, count) := Piece.replace everywhere r (Piece.ofText new.toList) (← textOf old)
    match p with
    | some p => if 0 < count then store (.text text) p
    | none => pure ()
    pure (.ofNat count)

/-- What is handed to a function. -/
def hand : Nat → List Expr → Act (List Slot)
  | 0, _ => endless
  | _ + 1, [] => pure []
  | fuel + 1, x :: rest => do
    let slot ← match x with
      | .name s => handed s
      | x => do
        let v ← eval fuel x
        pure (.value v)
    let slots ← hand fuel rest
    pure (slot :: slots)

/-- Calls a function of the program. -/
def call : Nat → String → List Expr → Act Cell
  | 0, _, _ => endless
  | fuel + 1, name, args => do
    match (← get).code.functions.find? fun f => f.name == name with
    | none => fault s!"function {name} never defined"
    | some f => do
      let slots ← hand fuel args
      let own ← (f.params.drop slots.length).mapM fun _ => do return Slot.unused (← newTable)
      let frame := f.params.zip (slots ++ own)
      let depth := (← get).depth
      let room := depth + f.params.length + 1
      if mostDepth < room then fatal s!"program limit exceeded: eval stack size=1024"
      modify fun s => { s with frames := frame :: s.frames, depth := room }
      let flow ← exec fuel f.body
      modify fun s => { s with frames := s.frames.tail, depth }
      match flow with
      | .result v => pure v
      | _ => pure .none

/-- Carries out a statement. -/
def exec : Nat → Stmt → Act Flow
  | 0, _ => endless
  | fuel + 1, s => do
    match s with
    | .block ss => execAll fuel ss
    | .eval x => do
      let _ ← eval fuel x
      pure .onward
    | .print format args o target => do
      let vs ← evalAll fuel args
      let name ← match target with
        | none => pure ""
        | some t => do
          let v ← eval fuel t
          textOf v
      if format then do
        let text ← textOf (vs.headD .none)
        let (cs, wrong) := formatted (← convfmt) text vs.tail
        emit o name cs
        match wrong with
        | some w => misfit "printf" text w
        | none => pure .onward
      else do
        let numbers := (← global "OFMT").toText "%.6g"
        let close ← globalText "ORS"
        let between ← globalText "OFS"
        let record := (← get).record
        let text :=
          if args.isEmpty then record else between.intercalate (vs.map (Cell.toText numbers))
        emit o name (text ++ close).toList
        pure .onward
    | .test x yes no => do
      let v ← eval fuel x
      if v.isTrue then exec fuel yes
      else
        match no with
        | some no => exec fuel no
        | none => pure .onward
    | .loop x body => do
      let v ← eval fuel x
      if v.isTrue then do
        match ← exec fuel body with
        | .leave => pure .onward
        | .result v => pure (.result v)
        | _ => exec fuel s
      else pure .onward
    | .loopBehind body x => do
      match ← exec fuel body with
      | .leave => pure .onward
      | .result v => pure (.result v)
      | _ => do
        let v ← eval fuel x
        if v.isTrue then exec fuel s else pure .onward
    | .count first test next body => do
      match first with
      | some x => do let _ ← eval fuel x
      | none => pure ()
      let isOn ← match test with
        | some x => do
          let v ← eval fuel x
          pure v.isTrue
        | none => pure true
      if isOn then do
        match ← exec fuel body with
        | .leave => pure .onward
        | .result v => pure (.result v)
        | _ => exec fuel (.count next test next body)
      else pure .onward
    | .each name array body => do
      let n ← tableNumber array
      let (keys, t) := (← table n).keys
      setTable n t
      overKeys fuel name body keys
    | .delete array keys => do
      let n ← tableNumber array
      if keys.isEmpty then setTable n .empty
      else do
        let vs ← evalAll fuel keys
        let key ← keyOf vs
        setTable n ((← table n).remove key)
      pure .onward
    | .next => throw .next
    | .nextFile => throw .nextFile
    | .exit x => do
      match x with
      | some x => do
        let v ← eval fuel x
        let n := Numbers.toInteger v.toNumber
        modify fun s => { s with status := (n % 256).toNat }
      | none => pure ()
      throw .exit
    | .result x => do
      match x with
      | some x => do
        let v ← eval fuel x
        pure (.result v)
      | none => pure (.result .none)
    | .leave => pure .leave
    | .again => pure .again

/-- Carries out statements in turn. -/
def execAll : Nat → List Stmt → Act Flow
  | 0, _ => endless
  | _ + 1, [] => pure .onward
  | fuel + 1, s :: rest => do
    match ← exec fuel s with
    | .onward => execAll fuel rest
    | flow => pure flow

/-- Carries out a statement for each of some keys. -/
def overKeys : Nat → String → Stmt → List String → Act Flow
  | 0, _, _, _ => endless
  | _ + 1, _, _, [] => pure .onward
  | fuel + 1, name, body, k :: rest => do
    setValue name (.text k)
    match ← exec fuel body with
    | .leave => pure .onward
    | .result v => pure (.result v)
    | _ => overKeys fuel name body rest

end

/-! Rules -/

/-- How much an evaluation can do. -/
def effort : Nat := 300000

/-- Carries out an action. Without one the record is shown. -/
def act (action : Option Stmt) : Act Unit := do
  match action with
  | some s => do let _ ← exec e effort s
  | none => do let _ ← exec e effort (.print false [] .standard none)

def isTrue (x : Expr) : Act Bool := do return (← eval e effort x).isTrue

/-- Whether a rule applies to the record. A range of records is left with the one that ends it. -/
def applies : Occasion → Act Bool
  | .first => pure false
  | .last => pure false
  | .always => pure true
  | .fits x => isTrue e x
  | .range n start stop => do
    let isActive ← if (← get).active.contains n then pure true else isTrue e start
    if isActive then do
      let isLast ← isTrue e stop
      modify fun s =>
        let others := s.active.filter (· != n)
        { s with active := if isLast then others else n :: others }
      pure true
    else pure false

/-- Does something that a departure may end. -/
def caught (step : Act Unit) : Act (Option Departure) := do
  let r ← ExceptT.lift (ExceptT.run step)
  match r with
  | .ok () => pure none
  | .error d => pure (some d)

/-- Applies the rules to all records. -/
def records (rules : List Rule) : Nat → Act Unit
  | 0 => endless
  | n + 1 => do
    match ← nextRecord mostFiles with
    | none => pure ()
    | some text => do
      setRecord text
      let step : Act Unit := rules.forM fun r => do
        if ← applies e r.occasion then act e r.action
      match ← caught step with
      | none => records rules n
      | some .next => records rules n
      | some .nextFile => do
        modify fun s => { s with unread := none }
        records rules n
      | some d => throw d

/-- Applies the rules of one occasion. -/
def atOccasion (holds : Occasion → Bool) : Act Unit := do
  (← get).code.rules.forM fun r => do if holds r.occasion then act e r.action

def isFirst : Occasion → Bool
  | .first => true
  | _ => false

def isLast : Occasion → Bool
  | .last => true
  | _ => false

/-- Runs a program: what comes first, the records, and what comes last. -/
def whole : Act Unit := do
  let rules := (← get).code.rules
  let readsRecords := rules.any fun r => !isFirst r.occasion
  let main : Act Unit := do
    atOccasion e isFirst
    let own := rules.filter fun r => !isFirst r.occasion && !isLast r.occasion
    if readsRecords then records e own effort
  match ← caught main with
  | none => pure ()
  | some .fatal => throw .fatal
  | some _ => pure ()
  if rules.any fun r => isLast r.occasion then
    match ← caught (atOccasion e isLast) with
    | some .fatal => throw .fatal
    | _ => pure ()

/-- Runs a program and closes what it leaves open. -/
def complete : Act Unit := do
  let _ ← caught (whole e)
  closeAll e

end Act

end CredoAssistant.Shell.Awk
