import Courier.Text.Blank
import Courier.Text.LetterCase
/-!
The os-release file. A line that begins with a field's name and an equals sign gives the field; what
follows is its value, without the double quotes around it. The last such line counts.
-/

namespace Courier

structure OsRelease where
  id : Option String := none
  versionId : Option String := none
  deriving DecidableEq, Repr, Inhabited

namespace OsRelease

def addLine (release : OsRelease) (line : String) : OsRelease :=
  let line := Text.trim line
  match Text.after? "ID=" line with
  | some value => { release with id := some (Text.lower (Text.trimChar '"' value)) }
  | none =>
    match Text.after? "VERSION_ID=" line with
    | some value => { release with versionId := some (Text.trimChar '"' value) }
    | none => release

def parse (content : String) : OsRelease :=
  (Text.lines content).foldl addLine {}

end OsRelease

end Courier
