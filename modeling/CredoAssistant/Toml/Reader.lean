import CredoAssistant.Toml.Scalar

/-!
Reading TOML documents. Tables may be opened by headers, by dotted keys and in line; the marks of a
document remember which of them a later statement may still extend. Values within values take room
on the stack.
-/
namespace CredoAssistant.Toml

/-- Which tables are closed to later statements. An explicit table may not be declared again; a
frozen one, with everything below it, may not change at all. -/
structure Marks where
  explicit : List Key
  frozen : List Key
  deriving Repr

namespace Marks

def isExplicit (m : Marks) (key : Key) : Bool := m.explicit.contains key

def isFrozen (m : Marks) (key : Key) : Bool := m.frozen.any fun k => k.isPrefixOf key

def addExplicit (m : Marks) (key : Key) : Marks := { m with explicit := key :: m.explicit }

def addFrozen (m : Marks) (key : Key) : Marks := { m with frozen := key :: m.frozen }

/-- Forgets everything about `key` and below it. -/
def release (m : Marks) (key : Key) : Marks :=
  { explicit := m.explicit.filter fun k => !key.isPrefixOf k
    frozen := m.frozen.filter fun k => !key.isPrefixOf k }

end Marks

/-- Changes the table at `key`, which is created when it is missing. With `entering`, the last table
of an array of tables stands for the array. -/
def within (entering : Bool) (f : Members → Except Cause Members) :
    Key → Members → Except Cause Members
  | [], ms => f ms
  | k :: ks, ms =>
    match Entries.get? k ms with
    | none => do
      let inner ← within entering f ks []
      .ok (Entries.set k (.object inner) ms)
    | some (.object inner) => do
      let inner ← within entering f ks inner
      .ok (Entries.set k (.object inner) ms)
    | some (.list items) =>
      match entering, items.getLast? with
      | true, some (.object inner) => do
        let inner ← within entering f ks inner
        .ok (Entries.set k (.list (items.dropLast ++ [.object inner])) ms)
      | _, _ => .error .overwritten
    | some _ => .error .overwritten

/-- Adds a member with a new name. -/
def addMember (clash : Cause) (k : String) (v : Value) (ms : Members) : Except Cause Members :=
  if Entries.has k ms then .error clash else .ok (Entries.set k v ms)

/-- Adds an empty table to the array of tables `k`, which is created when it is missing. -/
def addTable (k : String) (ms : Members) : Except Cause Members :=
  match Entries.get? k ms with
  | none => .ok (Entries.set k (.list [.object []]) ms)
  | some (.list items) => .ok (Entries.set k (.list (items ++ [.object []])) ms)
  | some _ => .error .overwritten

/-- A table or an array, which a later statement may not extend. -/
def isCompound : Value → Bool
  | .list _ => true
  | .object _ => true
  | _ => false

/-- The parent and the last part of a key. -/
def splitKey (key : Key) : Key × String := (key.dropLast, key.getLastD "")

/-- A cause that arises in front of `cs`. -/
def raiseAt {α : Type} (cs : List Char) : Except Cause α → Except Failure α
  | .ok a => .ok a
  | .error cause => failAt cause cs

/-- How many calls an array takes for the values inside of it. -/
def arrayCalls : Nat := 2

/-- How many calls an inline table takes for the values inside of it. -/
def inlineCalls : Nat := 3

/-- What room is left behind so many calls, if there is room for them. -/
def enter (taken room : Nat) : Except Failure Nat :=
  if taken ≤ room then .ok (room - taken) else .error .tooDeep

mutual

/-- Reads a value, with room for so many calls. `fuel` bounds the nesting and the members. -/
def readValue : Nat → Nat → List Char → Except Failure (Value × List Char)
  | 0, _, cs => failAt .value cs
  | fuel + 1, room, cs =>
    let textOf (step : Except Failure (List Char × List Char)) :
        Except Failure (Value × List Char) :=
      step.map fun p => (.text (String.ofList p.1), p.2)
    match cs with
    | '"' :: '"' :: '"' :: rest => textOf (readLongText rest)
    | '"' :: rest => textOf (readLineText rest)
    | '\'' :: '\'' :: '\'' :: rest => textOf (readLongLiteral rest)
    | '\'' :: rest => textOf (readLiteral rest)
    | 't' :: 'r' :: 'u' :: 'e' :: rest => .ok (.bool true, rest)
    | 'f' :: 'a' :: 'l' :: 's' :: 'e' :: rest => .ok (.bool false, rest)
    | '[' :: rest => do
      let room ← enter arrayCalls room
      let rest ← skipFiller (rest.length + 1) rest
      match rest with
      | ']' :: tail => .ok (.list [], tail)
      | _ => do
        let (items, rest) ← readItems fuel room [] rest
        .ok (.list items, rest)
    | '{' :: rest => do
      let room ← enter inlineCalls room
      match skipBlanks rest with
      | '}' :: tail => .ok (.object [], tail)
      | rest => do
        let (ms, rest) ← readInline fuel room [] [] rest
        .ok (.object ms, rest)
    | _ => readPlain cs

/-- Reads the items of an array up to its closing bracket. -/
def readItems : Nat → Nat → List Value → List Char → Except Failure (List Value × List Char)
  | 0, _, _, cs => failAt .array cs
  | fuel + 1, room, acc, cs => do
    let (v, rest) ← readValue fuel room cs
    let rest ← skipFiller (rest.length + 1) rest
    match rest with
    | ']' :: tail => .ok ((v :: acc).reverse, tail)
    | ',' :: tail => do
      let tail ← skipFiller (tail.length + 1) tail
      match tail with
      | ']' :: tail => .ok ((v :: acc).reverse, tail)
      | _ => readItems fuel room (v :: acc) tail
    | _ => failAt .array rest

/-- Reads a key, an equals sign and a value. -/
def readPair : Nat → Nat → List Char → Except Failure ((Key × Value) × List Char)
  | 0, _, cs => failAt .keyPart cs
  | fuel + 1, room, cs => do
    let (key, rest) ← readKey cs
    match rest with
    | '=' :: tail => do
      let (v, rest) ← readValue fuel room (skipBlanks tail)
      .ok ((key, v), rest)
    | _ => failAt .equals rest

/-- Reads the pairs of an inline table up to its closing brace. -/
def readInline : Nat → Nat → List Key → Members → List Char →
    Except Failure (Members × List Char)
  | 0, _, _, _, cs => failAt .inlineTable cs
  | fuel + 1, room, frozen, ms, cs => do
    let ((key, v), rest) ← readPair fuel room cs
    if frozen.any fun k => k.isPrefixOf key then failAt (.immutable key) rest
    else do
      let (parent, stem) := splitKey key
      let ms ← raiseAt rest (within false (addMember (.duplicate stem) stem v) parent ms)
      match skipBlanks rest with
      | '}' :: tail => .ok (ms, tail)
      | ',' :: tail =>
        let frozen := if isCompound v then key :: frozen else frozen
        readInline fuel room frozen ms (skipBlanks tail)
      | rest => failAt .inlineTable rest

end

/-- A document while it is read: its members, its marks, the tables that dotted keys opened since
the last header, and that header. -/
structure Draft where
  members : Members
  marks : Marks
  pending : List Key
  header : Key
  deriving Repr

namespace Draft

def empty : Draft := ⟨[], ⟨[], []⟩, [], []⟩

/-- Closes the tables that dotted keys opened. -/
def settle (d : Draft) : Draft :=
  { d with marks := d.pending.foldl Marks.addExplicit d.marks, pending := [] }

/-- The tables that a dotted key passes through. -/
def passed (d : Draft) (key : Key) : List Key :=
  (List.range (key.length - 1)).map fun i => d.header ++ key.take (i + 1)

/-- Adds a pair below the current header; `cs` is the text behind it. -/
def addPair (d : Draft) (key : Key) (v : Value) (cs : List Char) : Except Failure Draft :=
  let through := d.passed key
  let (parent, stem) := splitKey key
  match through.find? d.marks.isExplicit with
  | some k => failAt (.redefined k) cs
  | none =>
    if d.marks.isFrozen (d.header ++ parent) then failAt (.immutable (d.header ++ parent)) cs
    else do
      let add := within true (addMember .overwritten stem v) (d.header ++ parent)
      let ms ← raiseAt cs (add d.members)
      let marks := if isCompound v then d.marks.addFrozen (d.header ++ key) else d.marks
      .ok { d with members := ms, marks, pending := d.pending ++ through }

/-- Opens the table `key`; `cs` is the text behind it. -/
def openTable (d : Draft) (key : Key) (cs : List Char) : Except Failure Draft :=
  if d.marks.isExplicit key || d.marks.isFrozen key then failAt (.declaredTwice key) cs
  else do
    let ms ← raiseAt cs (within true .ok key d.members)
    .ok { d with members := ms, marks := d.marks.addExplicit key, header := key }

/-- Opens a new table in the array of tables `key`; `cs` is the text behind it. -/
def openArrayTable (d : Draft) (key : Key) (cs : List Char) : Except Failure Draft :=
  if d.marks.isFrozen key then failAt (.immutable key) cs
  else do
    let (parent, stem) := splitKey key
    let ms ← raiseAt cs (within true (addTable stem) parent d.members)
    .ok { d with members := ms, marks := (d.marks.release key).addExplicit key, header := key }

end Draft

/-- Reads a header after its first bracket. -/
def readHeader (d : Draft) (cs : List Char) : Except Failure (Draft × List Char) :=
  match cs with
  | '[' :: rest => do
    let (key, rest) ← readKey (skipBlanks rest)
    let d ← d.settle.openArrayTable key rest
    match rest with
    | ']' :: ']' :: tail => .ok (d, tail)
    | _ => failAt .arrayName rest
  | _ => do
    let (key, rest) ← readKey (skipBlanks cs)
    let d ← d.settle.openTable key rest
    match rest with
    | ']' :: tail => .ok (d, tail)
    | _ => failAt .tableName rest

/-- Reads the statement at the front of a line that is not empty. -/
def readStatement (room : Nat) (d : Draft) (cs : List Char) : Except Failure (Draft × List Char) :=
  match cs with
  | '[' :: rest => readHeader d rest
  | '#' :: _ => .ok (d, cs)
  | c :: _ =>
    if isBareKeyChar c || c == '"' || c == '\'' then do
      let ((key, v), rest) ← readPair (2 * cs.length + 2) room cs
      let d ← d.addPair key v rest
      .ok (d, rest)
    else failAt .statement cs
  | [] => .ok (d, [])

/-- Reads lines up to the end of the document. -/
def readLines (room : Nat) : Nat → Draft → List Char → Except Failure Draft
  | 0, d, _ => .ok d
  | fuel + 1, d, cs =>
    match skipBlanks cs with
    | [] => .ok d
    | '\n' :: rest => readLines room fuel d rest
    | line => do
      let (d, rest) ← readStatement room d line
      let rest ← skipComment (skipBlanks rest)
      match rest with
      | [] => .ok d
      | '\n' :: rest => readLines room fuel d rest
      | _ => failAt .endOfLine rest

/-- A carriage return before a line feed does not count. -/
def normalizeLineEnds : List Char → List Char
  | '\r' :: '\n' :: rest => '\n' :: normalizeLineEnds rest
  | c :: rest => c :: normalizeLineEnds rest
  | [] => []

/-- Reads a document whose line ends are normalized. -/
def read (stack : Stack) (cs : List Char) : Except Failure Members :=
  (readLines stack.calls (cs.length + 1) .empty cs).map Draft.members

end CredoAssistant.Toml
