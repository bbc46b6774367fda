import CredoAssistant.Shell.Program.Common

/-!
Names in an order in which each stands before those that come after it.
-/
namespace CredoAssistant.Shell.Program

namespace Precedence

/-- A name: how many names have yet to come before it, and those that come after it, the newest
first. `link` is the name from which a search for a loop came, or its own place in one. -/
structure Item where
  name : String
  count : Nat
  after : List String
  link : Option String
  isShown : Bool
  deriving Repr

/-- Names in alphabetical order. -/
abbrev Items := List Item

/-- Adds a name, unless it is known. -/
def add (name : String) : Items → Items
  | [] => [⟨name, 0, [], none, false⟩]
  | i :: rest =>
    if name < i.name then ⟨name, 0, [], none, false⟩ :: i :: rest
    else if name == i.name then i :: rest
    else i :: add name rest

def change (f : Item → Item) (name : String) (items : Items) : Items :=
  items.map fun i => if i.name == name then f i else i

def find? (items : Items) (name : String) : Option Item := items.find? fun i => i.name == name

/-- Notes that one name comes before another one. -/
def relate (items : Items) (first second : String) : Items :=
  let items := add second (add first items)
  if first = second then items
  else
    change (fun i => { i with after := second :: i.after }) first
      (change (fun i => { i with count := i.count + 1 }) second items)

/-- Pairs of names. -/
def relateAll : Items → List String → Option Items
  | items, a :: b :: rest => relateAll (relate items a b) rest
  | items, [] => some items
  | _, [_] => none

/-- Shows the names that nothing has to come before any more, in turn. -/
def release : Nat → Items → List String → List String × Items
  | 0, items, _ => ([], items)
  | _ + 1, items, [] => ([], items)
  | fuel + 1, items, name :: queue =>
    let after := ((find? items name).map Item.after).getD []
    let (items, free) := after.foldl
      (fun (acc : Items × List String) s =>
        let items := change (fun i => { i with count := i.count - 1 }) s acc.1
        let isFree := (find? items s).any fun i => i.count == 0
        (items, if isFree then acc.2 ++ [s] else acc.2))
      (change (fun i => { i with isShown := true }) name items, [])
    let (shown, items) := release fuel items (queue ++ free)
    (name :: shown, items)

/-- A search for a loop: the names, and the one at which it has arrived. -/
structure Search where
  items : Items
  head : Option String
  loop : Option (List String)

/-- Follows links from a name up to another one. -/
def chain (items : Items) (last : String) : Nat → String → List String
  | 0, _ => []
  | fuel + 1, name =>
    if name = last then [name]
    else
      match (find? items name).bind Item.link with
      | some next => name :: chain items last fuel next
      | none => [name]

/-- Takes one relation away. -/
def unrelate (first second : String) (items : Items) : Items :=
  change (fun i => { i with after := i.after.erase second }) first
    (change (fun i => { i with count := i.count - 1 }) second items)

/-- Goes on with a search at a name: it joins those that lead to the one at which the search has
arrived, or closes a loop if it was among them. -/
def Search.step (s : Search) (name : String) : Search :=
  match s.loop, find? s.items name with
  | some _, _ => s
  | none, none => s
  | none, some k =>
    if k.count = 0 then s
    else
      match s.head with
      | none => { s with head := some name }
      | some head =>
        if !k.after.contains head then s
        else if k.link.isSome then
          let found := chain s.items name (s.items.length + 1) head
          let items := (unrelate name head s.items).map fun i => { i with link := none }
          { items, head := none, loop := some found }
        else
          let items := change (fun i => { i with link := some head }) name s.items
          { s with items, head := some name }

/-- Finds a loop and takes one relation of it away. -/
def breakLoop : Nat → Search → Search
  | 0, s => s
  | fuel + 1, s =>
    let s := (s.items.map Item.name).foldl Search.step s
    if s.loop.isSome || s.head.isNone then s else breakLoop fuel s

/-- Shows all names; loops are complained about and broken. Whether there were none. -/
def showAll (self file : String) : Nat → Items → Run Bool
  | 0, _ => pure false
  | fuel + 1, items => do
    let free := (items.filter fun i => i.count == 0 && !i.isShown).map Item.name
    let (shown, items) := release (items.length + 1) items free
    putText self (String.join (shown.map (· ++ "\n")))
    if items.all Item.isShown then pure true
    else do
      complain self s!"{← shellName false file}: input contains a loop:"
      let s := breakLoop (items.length * items.length + 1) ⟨items, none, none⟩
      (s.loop.getD []).forM (complain self)
      let _ ← showAll self file fuel s.items
      pure false

end Precedence

open Precedence in
def tsort : Body := fun self args => do
  let a ← arguments self (.ofText "" []) 1 args
  match a.operands[1]? with
  | some x => misuse self s!"extra operand {← named x}" 1
  | none => pure ()
  let file := a.operands.headD "-"
  match ← contents file with
  | .error fault => do
    let name ← shellName false file
    let isRead := file = "-" || fault = .isDirectory
    complain self
      (if isRead then s!"{name}: read error: {fault.reason}" else s!"{name}: {fault.reason}")
    pure 1
  | .ok cs => do
    let isGap (c : Char) : Bool := c == ' ' || c == '\t' || c == '\n'
    let words := ((piecesBetween isGap cs).filter fun p => !p.isEmpty).map String.ofList
    match relateAll [] words with
    | none => do
      complain self s!"{← shellName false file}: input contains an odd number of tokens"
      pure 1
    | some items => do return statusOf (!(← showAll self file (words.length + 1) items))

end CredoAssistant.Shell.Program
