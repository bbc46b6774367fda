import CredoAssistant.Shell.Program.Amounts
import CredoAssistant.Shell.Program.Blocks
import CredoAssistant.Shell.Program.Characters
import CredoAssistant.Shell.Program.Checksums
import CredoAssistant.Shell.Program.Columns
import CredoAssistant.Shell.Program.Comparing
import CredoAssistant.Shell.Program.Concatenation
import CredoAssistant.Shell.Program.Copying
import CredoAssistant.Shell.Program.Counting
import CredoAssistant.Shell.Program.Dump
import CredoAssistant.Shell.Program.Edit
import CredoAssistant.Shell.Program.Encodings
import CredoAssistant.Shell.Program.Ends
import CredoAssistant.Shell.Program.Filling
import CredoAssistant.Shell.Program.Formatting
import CredoAssistant.Shell.Program.Launch
import CredoAssistant.Shell.Program.Merging
import CredoAssistant.Shell.Program.Numbering
import CredoAssistant.Shell.Program.Order
import CredoAssistant.Shell.Program.Precedence
import CredoAssistant.Shell.Program.Repetition
import CredoAssistant.Shell.Program.Sampling
import CredoAssistant.Shell.Program.Sections
import CredoAssistant.Shell.Program.Sequence
import CredoAssistant.Shell.Program.Spacing
import CredoAssistant.Shell.Program.Splitting
import CredoAssistant.Shell.Program.Testing
import CredoAssistant.Shell.Program.Values

/-!
The programs of the system that run no other one, by their names.
-/
namespace CredoAssistant.Shell.Program

/-- Programs on texts and bytes. -/
def textPrograms : List (String × Body) :=
  [("b2sum", checksumWith (some .blake2b)), ("base32", encodeWith (some .base32)),
    ("base64", encodeWith (some .base64)), ("basenc", encodeWith none), ("cat", cat),
    ("cksum", checksumWith none), ("cmp", cmp), ("comm", comm), ("csplit", csplit), ("cut", cut),
    ("dd", dd), ("diff", diff), ("egrep", grepWith .extended), ("expand", expand),
    ("fgrep", grepWith .fixed), ("fmt", fmt), ("fold", fold), ("grep", grep), ("head", head),
    ("join", join), ("md5sum", checksumWith (some .md5)), ("nl", nl), ("numfmt", numfmt),
    ("od", od), ("paste", paste), ("rev", rev), ("sed", sed),
    ("sha1sum", checksumWith (some .sha1)), ("sha224sum", checksumWith (some .sha224)),
    ("sha256sum", checksumWith (some .sha256)), ("sha384sum", checksumWith (some .sha384)),
    ("sha512sum", checksumWith (some .sha512)), ("shuf", shuf), ("sort", sort), ("split", split),
    ("sum", sum), ("tac", tac), ("tail", tail), ("tee", tee), ("tr", tr), ("tsort", tsort),
    ("unexpand", unexpand), ("uniq", uniq), ("wc", wc)]

/-- Programs on files and directories. -/
def filePrograms : List (String × Body) :=
  [("chgrp", chownWith true), ("chmod", chmod), ("chown", chownWith false), ("cp", cp), ("dir", ls),
    ("install", install), ("link", link), ("ln", ln), ("ls", ls), ("mkdir", mkdir),
    ("mkfifo", mkfifo), ("mktemp", mktemp), ("mv", mv), ("readlink", readlink),
    ("realpath", realpath), ("rm", rm), ("rmdir", rmdir), ("stat", stat),
    ("sync", fun _ _ => pure 0), ("touch", touch), ("truncate", truncate), ("unlink", unlink),
    ("vdir", ls)]

/-- Programs on values and on their surroundings. -/
def valuePrograms : List (String × Body) :=
  [("[", test true), ("basename", basename), ("date", date), ("dirname", dirname), ("echo", echo),
    ("expr", expr), ("factor", factor), ("false", fun _ _ => pure 1), ("id", idOf),
    ("printenv", printenv), ("printf", printf), ("pwd", pwd), ("seq", seq), ("sleep", sleep),
    ("test", test false), ("true", fun _ _ => pure 0),
    ("tty", fun self _ => do
      putText self "not a tty\n"
      pure 1),
    ("uname", uname), ("which.debianutils", which),
    ("whoami", fun self _ => do
      putText self "root\n"
      pure 0),
    ("yes", yes)]

/-- The program of a name. -/
def body? (name : String) : Option Body :=
  ((textPrograms ++ filePrograms ++ valuePrograms).find? fun b => b.1 == name).map Prod.snd

end CredoAssistant.Shell.Program
