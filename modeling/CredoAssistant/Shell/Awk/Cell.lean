import CredoAssistant.Shell.Awk.Numbers

/-!
Values of programs for records, tables of them, and values in a format.

The order in which a table is gone through is the order of its lists, in which a key is found by a
hash of its text; a key that was looked for stands at the front of its list afterwards.
-/
namespace CredoAssistant.Shell.Awk

/-- A value: nothing yet, a number, a text, or a text from outside that is a number too. -/
inductive Cell
  | none
  | number (x : Floating)
  | text (s : String)
  | numeric (s : String) (x : Floating)
  deriving DecidableEq, Repr, Inhabited

namespace Cell

/-- A text from outside. -/
def ofInput (s : String) : Cell :=
  match Numbers.ofInput? s with
  | some x => numeric s x
  | Option.none => text s

def ofNat (n : Nat) : Cell := number (Numbers.ofNat n)

def ofInt (n : Int) : Cell := number (Numbers.ofInt n)

def ofBool (b : Bool) : Cell := number (Numbers.ofBool b)

def toNumber : Cell → Floating
  | none => Numbers.zero
  | number x => x
  | text s => Numbers.ofText s
  | numeric _ x => x

/-- A value as text; numbers that are no integers stand in a format. -/
def toText (format : String) : Cell → String
  | none => ""
  | number x => Numbers.text format x
  | text s => s
  | numeric s _ => s

/-- Whether a value counts as true. -/
def isTrue : Cell → Bool
  | none => false
  | number x => !Numbers.isZero x
  | text s => s != ""
  | numeric _ x => !Numbers.isZero x

/-- Whether a value counts as a number when it is compared. -/
def isNumber : Cell → Bool
  | text _ => false
  | _ => true

end Cell

/-- A key of a table: an integer, or a text. -/
inductive Key
  | whole (n : Int)
  | text (s : String)
  deriving DecidableEq, Repr

/-- An entry of a table; `isWhole` says that it is known by an integer too. -/
structure Entry where
  key : String
  isWhole : Bool
  value : Cell
  deriving Repr

/-- A table. As long as only integers are keys, its lists follow these; afterwards they follow
texts. -/
structure Table where
  wholes : Array (List (Int × Cell))
  entries : Array (List Entry)
  hasTexts : Bool
  size : Nat
  deriving Repr

namespace Table

/-- How many lists there are at first, and how many entries come on each before there are more. -/
def startSize : Nat := 64
def mostLength : Nat := 12

def empty : Table := ⟨Array.replicate startSize [], Array.replicate startSize [], false, 0⟩

instance : Inhabited Table := ⟨empty⟩

/-- The hash of a text. -/
def hash (s : String) : Nat :=
  (s.toList.foldl (fun (h : UInt32) c => (h ^^^ UInt32.ofNat c.toNat) * 16777619) 2166136261).toNat

/-- Puts an entry at the front of its list. -/
def push (lists : Array (List Entry)) (e : Entry) : Array (List Entry) :=
  lists.modify (hash e.key % lists.size) fun l => e :: l

/-- Lets the lists follow texts. -/
def withTexts (t : Table) : Table :=
  if t.hasTexts then t
  else
    let all := t.wholes.toList.flatten
    let entries := all.foldl (fun lists (n, v) => push lists ⟨toString n, true, v⟩) t.entries
    { t with wholes := Array.replicate t.wholes.size [], entries, hasTexts := true }

/-- The list that an integer is on. -/
def place (t : Table) (n : Int) : Nat := (n % (t.wholes.size : Int)).toNat

/-- Twice as many lists. -/
def grown (t : Table) : Table :=
  let size := 2 * t.wholes.size
  let wholes := (t.wholes.toList.flatten).foldr
    (fun (n, v) (lists : Array (List (Int × Cell))) =>
      lists.modify (n % (size : Int)).toNat fun l => (n, v) :: l)
    (Array.replicate size [])
  let entries :=
    (t.entries.toList.flatten).foldr (fun e lists => push lists e) (Array.replicate size [])
  { t with wholes, entries }

/-- Takes the first member out of a list for which something holds. -/
def takeOut {α : Type} (holds : α → Bool) : List α → Option (α × List α)
  | [] => none
  | x :: rest =>
    if holds x then some (x, rest) else (takeOut holds rest).map fun (y, more) => (y, x :: more)

/-- Changes the entry of a key, with nothing in it if it is new. A key that is only looked for,
without `create`, is not added. -/
def access (t : Table) (create : Bool) (k : Key) (f : Cell → Cell) : Option Cell × Table :=
  if t.size = 0 && !create then (none, t)
  else
    let room (t : Table) : Table :=
      let t := { t with size := t.size + 1 }
      if t.wholes.size * mostLength < t.size then t.grown else t
    let byText (t : Table) (s : String) (isWhole : Bool) : Option Cell × Table :=
      let i := hash s % t.entries.size
      match takeOut (fun e => e.key == s) (t.entries.getD i []) with
      | some (e, rest) =>
        let e := { e with value := f e.value, isWhole := e.isWhole || isWhole }
        (some e.value, { t with entries := t.entries.set! i (e :: rest) })
      | none =>
        if create then
          let t := room t
          let v := f .none
          (some v, { t with entries := push t.entries ⟨s, isWhole, v⟩ })
        else (none, t)
    match k with
    | .text s => byText t.withTexts s false
    | .whole n =>
      if t.hasTexts then
        let s := toString n
        let i := hash s % t.entries.size
        let list := t.entries.getD i []
        if list.any fun e => e.key == s && e.isWhole then
          let list := list.map fun e => if e.key == s then { e with value := f e.value } else e
          ((list.find? fun e => e.key == s).map Entry.value,
            { t with entries := t.entries.set! i list })
        else byText t s true
      else
        let i := t.place n
        match takeOut (fun (e : Int × Cell) => e.1 == n) (t.wholes.getD i []) with
        | some (e, rest) =>
          let v := f e.2
          (some v, { t with wholes := t.wholes.set! i ((n, v) :: rest) })
        | none =>
          if create then
            let t := room t
            let v := f .none
            (some v, { t with wholes := t.wholes.modify (t.place n) fun l => (n, v) :: l })
          else (none, t)

/-- Takes a key out of a table. -/
def remove (t : Table) (k : Key) : Table :=
  match t.access false k id with
  | (none, t) => t
  | (some _, t) =>
    if t.size = 1 then empty
    else
      let s :=
        match k with
        | .whole n => toString n
        | .text s => s
      { t with
        size := t.size - 1
        wholes :=
          match k with
          | .whole n => t.wholes.modify (t.place n) fun l => l.filter fun e => e.1 != n
          | .text _ => t.wholes
        entries :=
          t.entries.modify (hash s % t.entries.size) fun l => l.filter fun e => e.key != s }

/-- The keys in the order in which a table is gone through. -/
def keys (t : Table) : List String × Table :=
  let t := t.withTexts
  ((t.entries.toList.flatten).map Entry.key, t)

/-- A table of values by the numbers from one on. -/
def ofList (vs : List Cell) : Table :=
  (vs.zipIdx).foldl (fun t (v, i) => (t.access true (.whole (i + 1)) fun _ => v).2) empty

end Table

/-! ### Values in a format -/

/-- Why a format cannot be filled. -/
inductive Misfit
  | tooFew
  | improper (number : Nat)
  deriving DecidableEq, Repr

namespace Printing

/-- What is left of a format and of the values that fill it, and how many conversions there were. -/
structure State where
  rest : List Char
  args : List Cell
  count : Nat

abbrev Filler := ExceptT Misfit (StateM State)

/-- The next value. -/
def take : Filler Cell := do
  match (← get).args with
  | [] => throw .tooFew
  | v :: rest => do
    modify fun s => { s with args := rest }
    pure v

/-- Characters at the front of the format. -/
def takeWhile (holds : Char → Bool) : Filler (List Char) := do
  let front := (← get).rest.takeWhile holds
  modify fun s => { s with rest := s.rest.drop front.length }
  pure front

/-- A width in the format or among the values, if there is one. -/
def measure : Filler (Option Int) := do
  match (← get).rest with
  | '*' :: rest => do
    modify fun s => { s with rest }
    let v ← take
    return some (Numbers.toInteger v.toNumber)
  | _ => do
    let ds ← takeWhile Char.isDigit
    pure (if ds.isEmpty then none else some (Nat.ofDigitChars 10 ds 0 : Nat))

/-- A number as a machine's word. What is below all of them counts as one. -/
def word (x : Floating) : Nat :=
  match x, Numbers.truncated? x with
  | _, some n =>
    if n < -2 ^ 63 then 1 else if n < 0 then (n + 2 ^ 64).toNat else min n.toNat (2 ^ 64 - 1)
  | .infinite s, none => if s then 1 else 2 ^ 64 - 1
  | _, none => 2 ^ 63

/-- A number as an integer that is written with a sign, if it has one. -/
def integer (x : Floating) : Int :=
  match x, Numbers.truncated? x with
  | _, some n => if n < -2 ^ 63 then -(2 ^ 63 - 1) else min n (2 ^ 64 - 1)
  | .infinite s, none => if s then -(2 ^ 63 - 1) else 2 ^ 64 - 1
  | _, none => -2 ^ 63

/-- The character of a value: that of its number, or the first one of its text. -/
def character (v : Cell) : Char :=
  match v with
  | .number x => Char.ofNat (Numbers.toInteger x % 256).toNat
  | .numeric _ x => Char.ofNat (Numbers.toInteger x % 256).toNat
  | .text s => s.toList.headD '\x00'
  | .none => '\x00'

/-- Fills one conversion behind its sign. -/
def conversion (convfmt : String) : Filler (List Char) := do
  let flags ← takeWhile fun c => "-+ #0".toList.contains c
  let width ← measure
  let precision : Option Int ←
    match (← get).rest with
    | '.' :: rest => do
      modify fun s => { s with rest }
      let n ← measure
      pure (some (n.getD 0))
    | _ => pure none
  let _ ← takeWhile fun c => "hlLqjzt".toList.contains c
  modify fun s => { s with count := s.count + 1 }
  let n := width.getD 0
  let flags := if n < 0 then '-' :: flags else flags
  let l : Layout := ⟨flags, n.natAbs, (precision.filter fun p => 0 ≤ p).map Int.toNat⟩
  let number := (← get).count
  match (← get).rest with
  | c :: rest => do
    let v ← take
    modify fun s => { s with rest }
    if c = 'd' then pure (l.signed (integer v.toNumber))
    else if c = 'i' then pure (l.signed (Numbers.toInteger v.toNumber))
    else if "ouxX".toList.contains c then pure (l.unsigned c (word v.toNumber))
    else if "eEfFgGaA".toList.contains c then pure (l.float .double c v.toNumber)
    else if c = 'c' then pure (l.pad [character v])
    else if c = 's' then pure (l.text (v.toText convfmt).toList)
    else throw (.improper number)
  | [] => do
    let _ ← take
    throw (.improper number)

/-- Fills a format up: what comes out, up to a misfit if there is one. -/
def fill (convfmt : String) : Nat → State → List Char → List Char × Option Misfit
  | 0, _, acc => (acc.reverse, none)
  | fuel + 1, s, acc =>
    match s.rest with
    | [] => (acc.reverse, none)
    | '%' :: '%' :: rest => fill convfmt fuel { s with rest } ('%' :: acc)
    | '%' :: rest =>
      match (conversion convfmt).run { s with rest } with
      | (.ok cs, s) => fill convfmt fuel s (cs.reverse ++ acc)
      | (.error misfit, _) => (acc.reverse, some misfit)
    | c :: rest => fill convfmt fuel { s with rest } (c :: acc)

end Printing

/-- A format with values in it, up to a misfit if there is one. -/
def formatted (convfmt format : String) (args : List Cell) : List Char × Option Misfit :=
  Printing.fill convfmt (format.length + 1) ⟨format.toList, args, 0⟩ []

end CredoAssistant.Shell.Awk
