import CredoAssistant.Shell.Layout
import CredoAssistant.Shell.Regex.Basic

/-!
Programs for records: patterns with actions, expressions and statements.
-/
namespace CredoAssistant.Shell.Awk

/-- Operators between two values. -/
inductive Operator
  | add
  | subtract
  | multiply
  | divide
  | remainder
  | power
  | join
  | less
  | atMost
  | equal
  | unequal
  | more
  | atLeast
  deriving DecidableEq, Repr, Inhabited

/-- Signs before a value. -/
inductive Sign
  | not
  | minus
  | plus
  deriving DecidableEq, Repr, Inhabited

/-- Functions that are always there. -/
inductive Builtin
  | length
  | index
  | substr
  | split
  | sub
  | gsub
  | matchIn
  | sprintf
  | lower
  | upper
  | system
  | close
  | flush
  | sin
  | cos
  | atan2
  | exp
  | log
  | sqrt
  | int
  | rand
  | srand
  | time
  | timeText
  | timeOf
  deriving DecidableEq, Repr, Inhabited

/-- Where lines are read from that are asked for: the records of the program, a file or a
command. -/
inductive Origin
  | records
  | file
  | command
  deriving DecidableEq, Repr, Inhabited

/-- Where output goes to. -/
inductive Outlet
  | standard
  | file
  | append
  | command
  deriving DecidableEq, Repr, Inhabited

/-- An expression. What stands in parentheses is marked, and several values in them too. -/
inductive Expr
  | number (x : Floating)
  | text (s : String)
  | pattern (r : Regex) (source : String)
  | name (s : String)
  | field (e : Expr)
  | element (array : String) (keys : List Expr)
  | group (es : List Expr)
  | assign (op : Option Operator) (target value : Expr)
  | step (isBefore up : Bool) (target : Expr)
  | signed (s : Sign) (e : Expr)
  | binary (op : Operator) (a b : Expr)
  | both (a b : Expr)
  | either (a b : Expr)
  | choose (test yes no : Expr)
  | fits (negated : Bool) (a b : Expr)
  | isIn (keys : List Expr) (array : String)
  | call (function : String) (args : List Expr)
  | builtin (f : Builtin) (args : List Expr)
  | getline (o : Origin) (source target : Option Expr)
  deriving Repr, Inhabited

/-- A statement. -/
inductive Stmt
  | block (ss : List Stmt)
  | eval (e : Expr)
  | print (format : Bool) (args : List Expr) (o : Outlet) (target : Option Expr)
  | test (e : Expr) (yes : Stmt) (no : Option Stmt)
  | loop (e : Expr) (body : Stmt)
  | loopBehind (body : Stmt) (e : Expr)
  | count (first : Option Expr) (test : Option Expr) (next : Option Expr) (body : Stmt)
  | each (name array : String) (body : Stmt)
  | delete (array : String) (keys : List Expr)
  | next
  | nextFile
  | exit (e : Option Expr)
  | result (e : Option Expr)
  | leave
  | again
  deriving Repr, Inhabited

/-- When an action is carried out. -/
inductive Occasion
  | first
  | last
  | always
  | fits (e : Expr)
  | range (number : Nat) (start stop : Expr)
  deriving Repr, Inhabited

/-- An action; without statements the record is shown. -/
structure Rule where
  occasion : Occasion
  action : Option Stmt
  deriving Repr, Inhabited

/-- A function: the names of its arguments, which its other variables follow, and what it does. -/
structure Function where
  name : String
  params : List String
  body : Stmt
  deriving Repr, Inhabited

/-- A whole program. -/
structure Code where
  rules : List Rule
  functions : List Function
  deriving Repr, Inhabited

end CredoAssistant.Shell.Awk
