import Courier.Files.Access
import Std.Data.ExtTreeMap
/-!
A file system as data: which places hold a file or a directory. A place is the list of names that
leads to it from the root, which is always a directory. Looking up a path walks over its pieces, and
every piece but the last must lead to a directory.
-/

namespace Courier

/-- The names that lead to a file or directory from the root. -/
abbrev Place := List String

inductive Node where
  | file (content : Bytes)
  | directory
  deriving DecidableEq, Repr, Inhabited

structure FileSystem where
  nodes : Std.ExtTreeMap Place Node := ∅
  workingDirectory : Place := []
  deriving DecidableEq, Inhabited

namespace FileSystem

/-- The longest name of a file, in bytes. -/
def nameLimit : Nat := 255

/-- The shortest path that is too long, in bytes. -/
def pathLimit : Nat := 4096

def node? (system : FileSystem) (place : Place) : Option Node :=
  if place.isEmpty then some .directory else system.nodes[place]?

def put (system : FileSystem) (place : Place) (node : Node) : FileSystem :=
  { system with nodes := system.nodes.insert place node }

def erase (system : FileSystem) (place : Place) : FileSystem :=
  { system with nodes := system.nodes.erase place }

/-- The directory above a place; the root is above itself. -/
def stepUp (system : FileSystem) (place : Place) : Except IoFault Place :=
  match system.node? place.dropLast with
  | none => .error .noEntry
  | some (.file _) => .error .notDirectory
  | some .directory => .ok place.dropLast

def step (system : FileSystem) (place : Place) (piece : List Char) : Except IoFault Place :=
  match system.node? place with
  | none => .error .noEntry
  | some (.file _) => .error .notDirectory
  | some .directory =>
    if piece.isEmpty || piece == ['.'] then .ok place
    else if piece == ['.', '.'] then system.stepUp place
    else
      let name := String.ofList piece
      if nameLimit < name.utf8ByteSize then .error .nameTooLong else .ok (place ++ [name])

/-- The place that the text of a path leads to. The place itself may be free. -/
def locate (system : FileSystem) (text : List Char) : Except IoFault Place :=
  if '\x00' ∈ text then .error .nulInPath
  else if text.isEmpty then .error .noEntry
  else if pathLimit ≤ (String.ofList text).utf8ByteSize then .error .nameTooLong
  else
    let start := if text.head? == some '/' then [] else system.workingDirectory
    (Text.pieces (· == '/') text).foldlM system.step start

def withoutSlashes (path : Path) : List Char :=
  match Text.dropBack (· == '/') path.text.toList with
  | [] => path.text.toList.take 1
  | text => text

def find (system : FileSystem) (path : Path) : Except IoFault Node := do
  match system.node? (← system.locate path.text.toList) with
  | some node => return node
  | none => throw .noEntry

def present (system : FileSystem) (path : Path) : Bool :=
  (system.find path).isOk

def isDirectory (system : FileSystem) (path : Path) : Bool :=
  match system.find path with
  | .ok .directory => true
  | _ => false

def read (system : FileSystem) (path : Path) : Except IoFault Bytes := do
  match ← system.find path with
  | .file content => return content
  | .directory => throw .isDirectory

def makeDirectory (system : FileSystem) (path : Path) : Except IoFault FileSystem := do
  let place ← system.locate (withoutSlashes path)
  match system.node? place with
  | some _ => throw .entryExists
  | none => return system.put place .directory

def create (system : FileSystem) (path : Path) : Except IoFault FileSystem := do
  let place ← system.locate (withoutSlashes path)
  if path.text.toList.getLast? == some '/' then throw .isDirectory
  match system.node? place with
  | some .directory => throw .isDirectory
  | _ => return system.put place (.file [])

def append (system : FileSystem) (path : Path) (bytes : Bytes) : Except IoFault FileSystem := do
  let place ← system.locate path.text.toList
  match system.node? place with
  | some (.file content) => return system.put place (.file (content ++ bytes))
  | some .directory => throw .isDirectory
  | none => throw .noEntry

/-- Moves a file onto a name that is free or that of a file. -/
def rename (system : FileSystem) (source target : Path) : Except IoFault FileSystem := do
  let origin ← system.locate source.text.toList
  let place ← system.locate target.text.toList
  match system.node? origin, system.node? place with
  | none, _ => throw .noEntry
  | some .directory, _ => throw .isDirectory
  | some (.file _), some .directory => throw .isDirectory
  | some (.file content), _ => return (system.erase origin).put place (.file content)

def remove (system : FileSystem) (path : Path) : Except IoFault FileSystem := do
  let place ← system.locate path.text.toList
  match system.node? place with
  | none => throw .noEntry
  | some .directory => throw .isDirectory
  | some (.file _) => return system.erase place

def below (system : FileSystem) (directory : Place) : List (Place × Node) :=
  system.nodes.toList.filterMap fun (place, node) =>
    if directory.isPrefixOf place && place != directory then
      some (place.drop directory.length, node)
    else none

end FileSystem

namespace FileSystem

variable {m : Type → Type} [Monad m] [MonadStateOf FileSystem m]

def ask {α : Type} (question : FileSystem → Except IoFault α) : FileAction m α := do
  let system : FileSystem ← ExceptT.lift MonadStateOf.get
  MonadExcept.ofExcept (question system)

/-- An operation on the state: if it fails, the state stays as it was. -/
def change (operation : FileSystem → Except IoFault FileSystem) : FileAction m Unit := do
  let system : FileSystem ← ask operation
  ExceptT.lift (MonadStateOf.set system)

def access : FileAccess m where
  present path := return (← getThe FileSystem).present path
  isDirectory path := return (← getThe FileSystem).isDirectory path
  read path := ask (·.read path)
  makeDirectory path := change (·.makeDirectory path)
  create path := change (·.create path)
  append path bytes := change (·.append path bytes)
  sync path := do
    let _ ← ask (·.find path)
  rename source target := change (·.rename source target)
  remove path := change (·.remove path)

end FileSystem

end Courier
