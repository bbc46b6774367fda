import CredoAssistant.Shell.Arithmetic
import CredoAssistant.Shell.Files
import CredoAssistant.Shell.Installation
import CredoAssistant.Shell.Pattern

/-!
Expansion of words: parameters, commands and arithmetic are replaced by their values, which are cut
into fields and matched against the names of files unless they are quoted.
-/
namespace CredoAssistant.Shell

/-- A part of an expanded word. A character may end a field when it came from an expansion; the
fields of all arguments are kept apart by a border. -/
inductive Atom
  | char (c : Char) (quoted splits : Bool)
  | mark
  | border
  deriving DecidableEq, Repr

/-- How words are expanded: into any number of fields, or into one text. -/
inductive Fielding
  | split
  | whole
  deriving DecidableEq, Repr

namespace Atom

def ofText (s : String) (quoted splits : Bool) : List Atom :=
  s.toList.map fun c => char c quoted splits

/-- The characters of atoms, and whether each was quoted. -/
def marked (as : List Atom) : List Marked := as.filterMap fun
  | char c quoted _ => some (c, quoted)
  | _ => none

def text (as : List Atom) : String := String.ofList ((marked as).map Prod.fst)

def isMark : Atom → Bool
  | mark => true
  | _ => false

/-- The characters of atoms, with a null character for each border. -/
def characters (as : List Atom) : List Char := as.filterMap fun
  | char c .. => some c
  | border => some '\x00'
  | mark => none

/-- Takes a part of what stands behind the mark in front of atoms. -/
def behindMark (part : List Atom → List Atom) (as : List Atom) : List Atom :=
  as.takeWhile isMark ++ part (as.dropWhile isMark)

end Atom

/-- The characters that separate fields unless a variable says otherwise. -/
def defaultSeparators : List Char := [' ', '\t', '\n']

/-- Fields on their way: those that are done and the current one, both the last part first. `blank`
says that blanks have just ended a field, and `bordered` that a border came last of all. -/
structure Fields where
  done : List (List Atom)
  current : List Atom
  blank : Bool
  bordered : Bool

namespace Fields

def empty : Fields := ⟨[], [], false, false⟩

def close (f : Fields) (blank bordered : Bool) : Fields :=
  ⟨f.current.reverse :: f.done, [], blank, bordered⟩

/-- Adds an atom. Blanks before a field are left out, and so is one other separator behind the
blanks that ended a field. -/
def add (separators : List Char) (f : Fields) (a : Atom) : Fields :=
  match a with
  | .border => f.close false true
  | .mark => { f with current := a :: f.current, blank := false }
  | .char c _ splits =>
    let isBlank := c == '\x00' || (separators.contains c && defaultSeparators.contains c)
    if !splits || !(isBlank || separators.contains c) then
      { f with current := a :: f.current, blank := false, bordered := f.bordered }
    else if f.blank then { f with blank := isBlank }
    else if isBlank then if f.current.isEmpty then f else f.close true false
    else f.close false false

/-- The fields of atoms. -/
def ofAtoms (separators : List Char) (as : List Atom) : List (List Atom) :=
  let f := as.foldl (add separators) empty
  let rest := if f.current.isEmpty && !f.bordered then [] else [f.current.reverse]
  f.done.reverse ++ rest

end Fields

/-- All arguments between quotation marks of their own lose the marks: without arguments there is no
field. -/
def dropMarks : Word → Word
  | .mark :: .parameter "@" .value false [] true :: .mark :: rest =>
    .parameter "@" .value false [] true :: dropMarks rest
  | p :: rest => p :: dropMarks rest
  | [] => []

namespace Run

/-- The home directory that a tilde with the letters behind it stands for. -/
def home? (user : String) : Run (Option String) := do
  if user = "" then value? "HOME" else pure ((Account.find? user).map Account.home)

/-- Replaces a tilde in front of a word by a home directory. -/
def tilde (assigned : Bool) (w : Word) : Run Word := do
  match w with
  | .char '~' false :: rest =>
    let name := rest.takeWhile fun
      | .char c _ => c != '/' && !(assigned && c == ':')
      | _ => true
    match plainText? name with
    | none => pure w
    | some user =>
      match ← home? (String.ofList user) with
      | none => pure w
      | some home =>
        pure ((home.toList.map fun c => Piece.char c true) ++ rest.drop name.length)
  | _ => pure w

/-- Replaces the tildes of an assigned value: in front of it and behind each colon. -/
def tildes : Nat → Word → Run Word
  | 0, w => pure w
  | fuel + 1, w => do
    match ← tilde true w with
    | [] => pure []
    | w =>
      let front := w.takeWhile fun
        | .char ':' false => false
        | _ => true
      match w.drop front.length with
      | [] => pure front
      | colon :: rest => do return front ++ colon :: (← tildes fuel rest)

/-- The separators of fields. -/
def separators : Run (List Char) := do
  return ((← value? "IFS").map String.toList).getD defaultSeparators

/-- The value of a parameter other than all arguments. -/
def parameter? (name : String) : Run (Option String) := do
  let m ← get
  if name = "?" then pure (some (toString m.status))
  else if name = "$" then pure (some (toString m.root))
  else if name = "!" then pure (m.lastJob.map toString)
  else if name = "#" then pure (some (toString m.args.length))
  else if name = "-" then pure (some (String.ofList (m.options.reverse.filter (' ' < ·))))
  else if name = "0" then pure (some m.name)
  else if name.toList.all Char.isDigit then
    pure m.args[(Arithmetic.ofDigits 10 name.toList) - 1]?
  else value? name

/-- All arguments as atoms. Between quotation marks an at sign keeps them apart; otherwise the first
separator joins them where fields are not cut. -/
def arguments (fielding : Fielding) (name : String) (quoted : Bool) : Run (List Atom) := do
  let m ← get
  let join (between : List Atom) : List Atom :=
    (m.args.map fun a => Atom.ofText a quoted (!quoted)).intersperse between |>.flatten
  if fielding = .split ∧ !quoted then pure (join [.char '\x00' false true])
  else if fielding = .split ∧ name = "@" then
    pure (if m.args.isEmpty then [] else .mark :: join [.border])
  else do
    let first := match ← value? "IFS" with
      | none => [' ']
      | some s => s.toList.take 1
    pure (join (first.map fun c => .char c true false))

/-- Complains about a parameter that is missing. -/
def missing {α : Type} (name : String) (message : Option String) (strict : Bool) : Run α := do
  match message with
  | some s => fail s!"{name}: {s}"
  | none => fail (name ++ ": parameter not set" ++ if strict then " or null" else "")

/-- Gives a parameter a value that it takes when it is missing. -/
def assignParameter (name value : String) : Run Unit := do
  if isName name.toList then setVariable name value else fail s!"{name}: bad variable name"

/-- Complains about a fault in an expression. -/
def arithmeticFault {α : Type} (text : String) (f : Arithmetic.Fault) : Run α :=
  fail s!"arithmetic expression: {f.message}: \"{text}\""

/-- The value of an expression. What has no value taken may still be broken. -/
def evaluate (text : String) : Arithmetic.Expr → Run Int
  | .number n => pure n
  | .variable name => lookUp name
  | .unary op a => do return op.apply (← evaluate text a)
  | .binary op a b => do
    let x ← evaluate text a
    let y ← evaluate text b
    combine op x y
  | .both a b => do
    if (← evaluate text a) = 0 then do
      pass b
      pure 0
    else return Arithmetic.truth ((← evaluate text b) != 0)
  | .either a b => do
    if (← evaluate text a) ≠ 0 then do
      pass b
      pure 1
    else return Arithmetic.truth ((← evaluate text b) != 0)
  | .choose test yes no => do
    if (← evaluate text test) ≠ 0 then do
      let x ← evaluate text yes
      pass no
      pure x
    else do
      pass yes
      evaluate text no
  | .assign name op a => do
    let x ← evaluate text a
    let x ←
      match op with
      | none => pure x
      | some op => do combine op (← lookUp name) x
    setVariable name (toString x)
    pure x
  | .broken before f => do
    let _ ← evaluate text before
    arithmeticFault text f
where
  lookUp (name : String) : Run Int := do
    let s := (← value? name).getD ""
    match Arithmetic.integer? true s with
    | some n => pure n
    | none => fail s!"Illegal number: {s}"
  combine (op : Arithmetic.Binary) (x y : Int) : Run Int := do
    if op.traps x y then throw (.killed 8)
    else
      match op.apply x y with
      | .ok n => pure n
      | .error f => arithmeticFault text f
  pass (e : Arithmetic.Expr) : Run Unit := do
    match e.fault? with
    | some f => arithmeticFault text f
    | none => pure ()

/-- The value of a text as an expression. -/
def arithmetic (s : String) : Run Int := evaluate s (Arithmetic.parse s.toList)

/-- Expands a word into atoms. `output` runs a command substitution and gives what it wrote, and
`inWord` says that the word stands for a parameter. Words in each other are expanded to a depth. -/
def atoms (output : Command → Run String) (fielding : Fielding) :
    Nat → Bool → Word → Run (List Atom)
  | 0, _, _ => forever
  | depth + 1, inWord, w => do
    let whole := atoms output .whole depth
    let atoms := atoms output fielding depth
    let parameter (name : String) (use : Use) (strict : Bool) (word : Word) (quoted : Bool) :
        Run (List Atom) := do
      if use = .unknown then fail "Bad substitution"
      else do
        let isAll := name = "@" ∨ name = "*"
        let found ← if isAll then pure none else parameter? name
        let all ← if isAll then arguments fielding name quoted else pure []
        let isMissing :=
          if isAll then strict && all.isEmpty else found.isNone || (strict && found == some "")
        let value : List Atom :=
          if isAll then all else Atom.ofText (found.getD "") quoted (!quoted)
        let unset : Run Unit := do
          if found.isNone ∧ !isAll ∧ (← hasOption 'u') then missing name none false
        -- The pattern behind a parameter that is not set is passed over.
        let pattern : Run (List Glob) := do
          if !isAll && found.isNone then return []
          return Glob.ofMarked (Atom.marked (← atoms false (← tilde false word)))
        let fallback : Run (List Atom) := do
          let as ← atoms true (← tilde false word)
          pure (if quoted then
            as.map fun
              | .char c _ _ => .char c true false
              | a => a
            else as)
        match use with
        | .value => do
          unset
          pure value
        | .length => do
          unset
          let n := if isAll then (Atom.marked all).length else (found.getD "").length
          pure (Atom.ofText (toString n) quoted (!quoted))
        | .whenMissing => if isMissing then fallback else pure value
        | .whenSet => if isMissing then pure [] else fallback
        | .assign =>
          if isMissing then do
            let new := Atom.text (← whole true (← tilde false word))
            assignParameter name new
            pure (Atom.ofText new quoted (!quoted))
          else pure value
        | .require =>
          if isMissing then do
            if word.isEmpty then missing name none strict
            else do
              let s := Atom.text (← whole true (← tilde false word))
              missing name (some s) strict
          else pure value
        | .trimStart longest => do
          unset
          let ps ← pattern
          match Glob.frontLength? longest ps (Atom.characters value) with
          | some n => pure (Atom.behindMark (List.drop n) value)
          | none => pure value
        | .trimEnd longest => do
          unset
          let ps ← pattern
          match Glob.endStart? longest ps (Atom.characters value) with
          | some n => pure (Atom.behindMark (List.take n) value)
          | none => pure value
        | .unknown => pure []
    let piece (p : Piece) : Run (List Atom) := do
      match p with
      | .char c quoted => pure [.char c quoted (inWord && !quoted)]
      | .mark => pure [.mark]
      | .parameter name use strict word quoted => parameter name use strict word quoted
      | .output script quoted => do
        return Atom.ofText (← output script) quoted (!quoted)
      | .arithmetic body quoted => do
        let s := Atom.text (← atoms false body)
        let n ← arithmetic s
        pure (Atom.ofText (toString n) quoted (!quoted))
    let reversed ← (dropMarks w).foldlM (fun acc p => do return (← piece p).reverse ++ acc) []
    pure reversed.reverse

/-- How deep words stand in each other. -/
def wordDepth : Nat := 100

/-- Expands a word into one text. -/
def expandText (output : Command → Run String) (w : Word) : Run String := do
  let as ← atoms output .whole wordDepth false (← tilde false w)
  pure (Atom.text as)

/-- Expands a word into a pattern. -/
def expandPattern (output : Command → Run String) (w : Word) : Run (List Glob) := do
  let as ← atoms output .whole wordDepth false (← tilde false w)
  pure (Glob.ofMarked (Atom.marked as))

/-- Expands an assignment: the name and the value. -/
def expandAssignment (output : Command → Run String) (w : Word) : Run (String × String) := do
  let name := w.takeWhile fun
    | .char c _ => c != '='
    | _ => true
  let value ← tildes (w.length + 1) (w.drop (name.length + 1))
  let as ← atoms output .whole wordDepth false value
  pure (String.ofList ((plainText? name).getD []), Atom.text as)

/-! Names of files -/

/-- A path with a pattern between each two of its slashes. -/
def components (cs : List Marked) : List (List Marked) :=
  let step (c : Marked) (acc : List (List Marked)) : List (List Marked) :=
    if c.1 = '/' then [] :: acc
    else
      match acc with
      | [] => [[c]]
      | part :: rest => (c :: part) :: rest
  cs.foldr step [[]]

/-- The paths that patterns stand for, below a path that is written already. -/
def matchPaths (written : String) : List (List Marked) → Run (List String)
  | [] => pure [written]
  | part :: rest => do
    let ps := Glob.ofMarked part
    let ending := if rest.isEmpty then "" else "/"
    if Glob.isActive ps then do
      let dir := if written = "" then "." else written
      match ← node true dir with
      | .error _ => pure []
      | .ok (place, _) => do
        let names := (← disk).children place
        let hidden := (part.head?.map Prod.fst) == some '.'
        let all := if hidden then [".", ".."] ++ names else names
        let fitting := all.filter fun s =>
          (hidden || !s.startsWith ".") && Glob.isMatch false ps s.toList
        fitting.foldlM
          (fun acc s => do
            if rest.isEmpty then pure (acc ++ [written ++ s])
            else if ← isDirectory (written ++ s) then
              return acc ++ (← matchPaths (written ++ s ++ ending) rest)
            else pure acc)
          []
    else do
      let path := written ++ String.ofList (part.map Prod.fst)
      if rest.isEmpty then
        match ← node false path with
        | .ok _ => pure [path]
        | .error _ => pure []
      else matchPaths (path ++ ending) rest

/-- Whether one text stands before another or beside it. -/
def inByteOrder (a b : String) : Bool := decide (a ≤ b)

/-- The names of files that a field stands for, or its own text when there is none. -/
def fileNames (field : List Atom) : Run (List String) := do
  let cs := Glob.unescape (Atom.marked field)
  if !Glob.isActive (Glob.ofMarked cs) || (← hasOption 'f') then pure [Atom.text field]
  else
    match ← matchPaths "" (components cs) with
    | [] => pure [Atom.text field]
    | names => pure (names.mergeSort inByteOrder)

/-- Expands a word into fields. -/
def expandFields (output : Command → Run String) (w : Word) : Run (List String) := do
  let as ← atoms output .split wordDepth false (← tilde false w)
  let fields := Fields.ofAtoms (← separators) as
  fields.foldlM (fun acc f => do return acc ++ (← fileNames f)) []

/-- Expands words in turn. -/
def expandAll (output : Command → Run String) (ws : List Word) : Run (List String) :=
  ws.foldlM (fun acc w => do return acc ++ (← expandFields output w)) []

end Run

end CredoAssistant.Shell
