import Courier.Config.Read
import Courier.Config.Write
import Courier.Files.Access
/-!
Settings in a file. A file that is not there holds the initial settings.
-/

namespace Courier.Settings

variable {m : Type → Type} [Monad m] (files : FileAccess m) (places : Places)

def byteOrderMark : Char := '\uFEFF'

def dropMark (text : String) : String :=
  match text.toList with
  | first :: rest => if first = byteOrderMark then String.ofList rest else text
  | [] => text

def load (path : Path) : ExceptT ConfigFault m Settings := do
  if ← files.present path then
    match ← outcome (files.readText path) with
    | .ok text => MonadExcept.ofExcept (parse places (dropMark text))
    | .error fault => throw (.unreadable fault)
  else return initial places

def save (settings : Settings) (path : Path) : ExceptT ConfigFault m Unit := do
  if let some parent := path.parent? then
    if let .error fault ← outcome (files.makeDirectories parent) then throw (.noDirectory fault)
  match ← outcome (files.write path (Utf8.encode (settings.text places))) with
  | .ok () => return
  | .error fault => throw (.unwritable fault)

/-- Saves the initial settings, unless there is something at the path; returns whether it did. -/
def ensureExists (path : Path) : ExceptT ConfigFault m Bool := do
  if ← files.present path then return false
  (initial places).save files places path
  return true

end Courier.Settings
