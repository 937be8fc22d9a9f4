import Courier.Proofs.Files.Nodes
import Mathlib.Logic.Function.Basic
/-!
A file system that several programs share. A program is a plan of operations, of which one at a time
is carried out; what it writes goes to the file that it has opened, wherever that file has been
moved since. Main statement: a program that has its file to itself writes to it as if it were alone.
-/

namespace Courier

inductive FileOperation where
  | makeDirectory (path : Path)
  | create (path : Path)
  | sync (path : Path)
  | rename (source target : Path)
  | remove (path : Path)
  deriving DecidableEq, Repr

/-- An action up to its next look at the files or its next operation on them, and how it goes on
with what comes of that. -/
inductive Plan (α : Type) where
  | done (value : α)
  | look (question : FileSystem → Bool) (goOn : Bool → Plan α)
  | read (path : Path) (goOn : Except IoFault Bytes → Plan α)
  | write (path : Path) (bytes : Bytes) (goOn : Except IoFault Unit → Plan α)
  | act (operation : FileOperation) (goOn : Except IoFault Unit → Plan α)

namespace Plan

variable {α β : Type}

def bind (next : α → Plan β) : Plan α → Plan β
  | .done value => next value
  | .look question goOn => .look question fun answer => bind next (goOn answer)
  | .read path goOn => .read path fun content => bind next (goOn content)
  | .write path bytes goOn => .write path bytes fun result => bind next (goOn result)
  | .act operation goOn => .act operation fun result => bind next (goOn result)

instance : Monad Plan where
  pure := .done
  bind plan next := plan.bind next

def access : FileAccess Plan where
  present path := .look (·.present path) .done
  isDirectory path := .look (·.isDirectory path) .done
  read path := .read path .done
  makeDirectory path := .act (.makeDirectory path) .done
  create path := .act (.create path) .done
  append path bytes := .write path bytes .done
  sync path := .act (.sync path) .done
  rename source target := .act (.rename source target) .done
  remove path := .act (.remove path) .done

end Plan

/-- A file that a program has opened, and how far the program has got in it. -/
structure Handle where
  place : Place
  position : Nat := 0
  deriving DecidableEq, Repr

/-- The files that programs share, and for each of them the file that it opened last, unless that
has lost its name. Some systems write at the end of a file and some where the program has got to. -/
structure Volume (ι : Type) where
  files : FileSystem
  handles : ι → Option Handle := fun _ => none
  atEnd : Bool

namespace Volume

variable {ι : Type}

/-- A file after a write. What lies between its end and the place of the write is filled up. -/
def written (volume : Volume ι) (content : Bytes) (position : Nat) (bytes : Bytes) : Bytes :=
  if volume.atEnd then content ++ bytes
  else content.take position ++ List.replicate (position - content.length) 0 ++ bytes ++
    content.drop (position + bytes.length)

def leads (volume : Volume ι) (path : Path) (place : Place) : Bool :=
  match volume.files.locate path.text.toList with
  | .ok found => found == place
  | .error _ => false

/-- A file keeps its identity when it is renamed, and loses its name to one that takes its place. -/
def follow (volume : Volume ι) (source target : Path) (handle : Handle) : Option Handle :=
  if volume.leads source handle.place then
    (volume.files.locate target.text.toList).toOption.map fun place => { handle with place }
  else if volume.leads target handle.place then none
  else some handle

variable [DecidableEq ι]

def write (volume : Volume ι) (program : ι) (bytes : Bytes) : Volume ι :=
  match volume.handles program with
  | none => volume
  | some handle =>
    match volume.files.node? handle.place with
    | some (.file content) =>
      let node := .file (volume.written content handle.position bytes)
      let further := { handle with position := handle.position + bytes.length }
      { volume with
        files := volume.files.put handle.place node
        handles := Function.update volume.handles program (some further) }
    | _ => volume

def change (files : FileSystem) : FileOperation → Except IoFault FileSystem
  | .makeDirectory path => files.makeDirectory path
  | .create path => files.create path
  | .rename source target => files.rename source target
  | .remove path => files.remove path
  | .sync _ => .ok files

def reopen (volume : Volume ι) (program : ι) (files : FileSystem) :
    FileOperation → ι → Option Handle
  | .create path =>
    Function.update volume.handles program
      ((files.locate path.text.toList).toOption.map fun place => { place })
  | .rename source target => fun other =>
    (volume.handles other).bind (volume.follow source target)
  | .remove path => fun other =>
    (volume.handles other).filter fun handle => !volume.leads path handle.place
  | .makeDirectory _ | .sync _ => volume.handles

/-- An operation of a program, and what it leaves. If it fails it leaves all as it was. -/
def perform (volume : Volume ι) (program : ι) (operation : FileOperation) :
    Except IoFault Unit × Volume ι :=
  match change volume.files operation with
  | .ok files =>
    (.ok (), { volume with files, handles := volume.reopen program files operation })
  | .error fault => (.error fault, volume)

end Volume

/-- Lets a program go on by one operation. Of what is to be written it writes `count` bytes, or all
that is left. -/
def Plan.advance {ι α : Type} [DecidableEq ι] (volume : Volume ι) (program : ι) (count : Nat) :
    Plan α → Plan α × Volume ι
  | .done value => (.done value, volume)
  | .look question goOn => (goOn (question volume.files), volume)
  | .read path goOn => (goOn (volume.files.read path), volume)
  | .write path bytes goOn =>
    let left := volume.write program (bytes.take count)
    if count < bytes.length then (.write path (bytes.drop count) goOn, left)
    else (goOn (.ok ()), left)
  | .act operation goOn =>
    let (result, left) := volume.perform program operation
    (goOn result, left)

namespace Volume

variable {ι : Type} {volume : Volume ι} {program : ι}

/-- A program has opened the file at a path, and has written all that is in it. -/
def Holds (volume : Volume ι) (program : ι) (path : Path) (content : Bytes) : Prop :=
  ∃ place, volume.files.locate path.text.toList = .ok place ∧
    volume.files.node? place = some (.file content) ∧
    volume.handles program = some { place, position := content.length }

theorem written_at_end (volume : Volume ι) (content bytes : Bytes) :
    volume.written content content.length bytes = content ++ bytes := by
  unfold written
  split
  · rfl
  · rw [List.take_length, Nat.sub_self, List.replicate_zero, List.append_nil,
      List.drop_eq_nil_of_le (Nat.le_add_right _ _), List.append_nil]

theorem Holds.read {path : Path} {content : Bytes} (holds : volume.Holds program path content) :
    volume.files.read path = .ok content := by
  obtain ⟨place, leads, there, -⟩ := holds
  exact FileSystem.read_of_locate leads there

variable [DecidableEq ι]

theorem holds_of_create {path : Path} {files : FileSystem}
    (created : volume.files.create path = .ok files) :
    Holds { volume with files, handles := volume.reopen program files (.create path) } program path
      [] := by
  obtain ⟨place, leads, named, plain, rfl⟩ := FileSystem.create_eq_ok created
  have ledStill := (FileSystem.keepsDirectories_put plain (.file [])).locate leads
  refine ⟨place, ledStill, FileSystem.node?_put_self named _, ?_⟩
  simp only [reopen, Function.update_self, ledStill]
  rfl

/-- A program writes to the file that it holds as if it were alone. -/
theorem Holds.write {path : Path} {content : Bytes} (holds : volume.Holds program path content)
    (bytes : Bytes) :
    volume.files.append path bytes = .ok (volume.write program bytes).files ∧
      (volume.write program bytes).Holds program path (content ++ bytes) := by
  obtain ⟨place, leads, there, opened⟩ := holds
  have plain : volume.files.node? place ≠ some .directory := by
    rw [there]
    simp
  have named : place ≠ [] := by
    intro root
    rw [root] at there
    cases there
  have writes : volume.write program bytes = { volume with
      files := volume.files.put place (.file (content ++ bytes))
      handles := Function.update volume.handles program
        (some { place, position := content.length + bytes.length }) } := by
    unfold Volume.write
    simp only [opened, there, written_at_end]
  rw [writes]
  refine ⟨FileSystem.append_of_locate leads there bytes, place,
    (FileSystem.keepsDirectories_put plain _).locate leads,
    FileSystem.node?_put_self named _, ?_⟩
  dsimp only
  rw [Function.update_self, List.length_append]

end Volume

end Courier
