import Courier.Failure
import Courier.Text.Utf8
/-!
Access to files as a program sees it: a record of primitive operations in some monad, and what is
built from them. The operations fail with a cause and never otherwise.
-/

namespace Courier

abbrev FileAction (m : Type → Type) (α : Type) := ExceptT IoFault m α

structure FileAccess (m : Type → Type) where
  present : Path → m Bool
  isDirectory : Path → m Bool
  read : Path → FileAction m Bytes
  makeDirectory : Path → FileAction m Unit
  /-- Makes an empty file, or empties the one that is there. -/
  create : Path → FileAction m Unit
  append : Path → Bytes → FileAction m Unit
  /-- Waits until what was written to the file is safe. -/
  sync : Path → FileAction m Unit
  /-- Moves a file onto another name in one step. -/
  rename : Path → Path → FileAction m Unit
  remove : Path → FileAction m Unit

namespace FileAccess

variable {m : Type → Type} [Monad m] (files : FileAccess m)

def readText (path : Path) : FileAction m String := do
  match Utf8.decode? (← files.read path) with
  | some text => return text
  | none => throw .notText

def write (path : Path) (bytes : Bytes) : FileAction m Unit := do
  files.create path
  files.append path bytes

/-- Makes the directory, or finds it there already. -/
def ensureDirectory (path : Path) : FileAction m Unit := do
  match ← outcome (files.makeDirectory path) with
  | .ok () => return
  | .error fault =>
    if ← files.isDirectory path then return else throw fault

/-- Makes the directory and at most `levels` directories above it. -/
def makeDirectoriesWithin : Nat → Path → FileAction m Unit
  | 0, _ => throw .noRootToStartFrom
  | levels + 1, path => do
    if path.isEmpty then return
    match ← outcome (files.makeDirectory path) with
    | .ok () => return
    | .error fault =>
      if fault.isNotFound then
        match path.parent? with
        | none => throw .noRootToStartFrom
        | some parent =>
          makeDirectoriesWithin levels parent
          files.ensureDirectory path
      else if ← files.isDirectory path then return
      else throw fault

def makeDirectories (path : Path) : FileAction m Unit :=
  files.makeDirectoriesWithin (path.components.length + 1) path

end FileAccess

end Courier
