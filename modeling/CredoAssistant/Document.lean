import CredoAssistant.Path
import CredoAssistant.Text.Utf8

/-!
Documents: the path under which a file was named, and the uri that identifies the file. In a uri the
bytes of unreserved characters and slashes stand for themselves, every other byte becomes a percent
sign and two hexadecimal digits.
-/
namespace CredoAssistant

/-! ### Percent encoding -/

namespace Percent

/-- Characters that stand for themselves. -/
def isUnreserved (c : Char) : Bool :=
  ('a' ≤ c && c ≤ 'z') || ('A' ≤ c && c ≤ 'Z') || ('0' ≤ c && c ≤ '9')
    || c == '_' || c == '.' || c == '-' || c == '~' || c == '/'

/-- An upper-case hexadecimal digit. -/
def hexDigit (n : Nat) : Char :=
  if n < 10 then Char.ofNat ('0'.toNat + n) else Char.ofNat ('A'.toNat + (n - 10))

def encodeByte (b : UInt8) : List Char :=
  let n := b.toNat
  if n < 0x80 && isUnreserved (Char.ofNat n) then [Char.ofNat n]
  else ['%', hexDigit (n / 16), hexDigit (n % 16)]

/-- The encoded form of a text. -/
def encode (s : String) : String :=
  String.ofList ((Utf8.encode s.toList).flatMap encodeByte)

end Percent

/-! ### Documents -/

/-- A file with its path and the uri that identifies it. -/
structure Document where
  path : String
  uri : String
  deriving DecidableEq, Repr, Inhabited

namespace Document

/-- The uri of an absolute place. -/
def uriOf (place : List String) : String :=
  "file:///" ++ Percent.encode ("/".intercalate place)

/-- The links of a system whose program and library directories lie below `/usr`. -/
def systemLinks : Links :=
  [(["bin"], ["usr", "bin"]), (["sbin"], ["usr", "sbin"]), (["lib"], ["usr", "lib"]),
    (["lib64"], ["usr", "lib64"]), (["var", "run"], ["run"]), (["var", "lock"], ["run", "lock"])]

/-- The document of a path, seen from the directory `root`. A path with a null character has
none. -/
def ofPath? (links : Links) (root : Path) (path : String) : Option Document :=
  let target := root.join (Path.ofText path)
  if target.hasNull then none
  else some ⟨path, uriOf (Path.resolve links target.parts)⟩

end Document

end CredoAssistant
