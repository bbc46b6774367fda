import CredoAssistant.Number.Decimal
import CredoAssistant.Text.Quoted

/-!
Errors of the operating system, and the reasons for which a path leads nowhere.
-/
namespace CredoAssistant

/-- An error of the operating system, with its number when it is known. -/
structure SystemError where
  code : Option Int
  text : String
  deriving DecidableEq, Repr

def SystemError.message (e : SystemError) : String :=
  match e.code with
  | none => e.text
  | some n => s!"[Errno {Decimal.text n}] {e.text}"

/-- Why a path leads nowhere. -/
inductive LookupError
  | missing
  | notDirectory
  | nameTooLong
  deriving DecidableEq, Repr

namespace LookupError

/-- The number of the error. -/
def code : LookupError → Int
  | missing => 2
  | notDirectory => 20
  | nameTooLong => 36

/-- What the system says about it. -/
def reason : LookupError → String
  | missing => "No such file or directory"
  | notDirectory => "Not a directory"
  | nameTooLong => "File name too long"

/-- The error for a path with this text. -/
def toSystemError (path : String) (e : LookupError) : SystemError :=
  ⟨some e.code, e.reason ++ ": " ++ Text.quoted path⟩

end LookupError

end CredoAssistant
