import Courier.Computer
import Courier.Proofs.Files.Nodes
import Courier.Proofs.Run
/-!
The files of a computer, as a program on it sees them. A primitive operation is the operation on the
file system that the computer holds; it leaves the rest of the computer alone, and when it fails it
leaves the files alone too.
-/

namespace Courier

open Computer

namespace FileSystem

@[simp] theorem runFrom_ask {α : Type} (question : FileSystem → Except IoFault α)
    (computer : Computer) :
    runFrom (ask question : FileAction Machine α) computer =
      (question computer.files, computer) := by
  unfold ask
  rw [runFrom_bind_ok (runFrom_lift _ _), runFrom_ofExcept]
  rfl

def changed (computer : Computer) : Except IoFault FileSystem → Except IoFault Unit × Computer
  | .ok files => (.ok (), { computer with files })
  | .error fault => (.error fault, computer)

@[simp] theorem runFrom_change (operation : FileSystem → Except IoFault FileSystem)
    (computer : Computer) :
    runFrom (change operation : FileAction Machine Unit) computer =
      changed computer (operation computer.files) := by
  unfold change
  cases ends : operation computer.files with
  | ok files =>
      rw [runFrom_bind_ok (by rw [runFrom_ask, ends])]
      rfl
  | error fault => exact runFrom_bind_error (by rw [runFrom_ask, ends]) _

@[simp] theorem stepFrom_present (path : Path) (computer : Computer) :
    stepFrom ((access : FileAccess Machine).present path) computer =
      (computer.files.present path, computer) := rfl

@[simp] theorem stepFrom_isDirectory (path : Path) (computer : Computer) :
    stepFrom ((access : FileAccess Machine).isDirectory path) computer =
      (computer.files.isDirectory path, computer) := rfl

@[simp] theorem runFrom_read (path : Path) (computer : Computer) :
    runFrom ((access : FileAccess Machine).read path) computer =
      (computer.files.read path, computer) :=
  runFrom_ask _ _

@[simp] theorem runFrom_makeDirectory (path : Path) (computer : Computer) :
    runFrom ((access : FileAccess Machine).makeDirectory path) computer =
      changed computer (computer.files.makeDirectory path) :=
  runFrom_change _ _

@[simp] theorem runFrom_create (path : Path) (computer : Computer) :
    runFrom ((access : FileAccess Machine).create path) computer =
      changed computer (computer.files.create path) :=
  runFrom_change _ _

@[simp] theorem runFrom_append (path : Path) (bytes : Bytes) (computer : Computer) :
    runFrom ((access : FileAccess Machine).append path bytes) computer =
      changed computer (computer.files.append path bytes) :=
  runFrom_change _ _

@[simp] theorem runFrom_sync (path : Path) (computer : Computer) :
    runFrom ((access : FileAccess Machine).sync path) computer =
      ((computer.files.find path).map fun _ => (), computer) := by
  change runFrom ((ask fun system => system.find path : FileAction Machine Node) >>= _) computer = _
  rw [runFrom_bind, runFrom_ask]
  cases computer.files.find path with
  | ok node => rfl
  | error fault => rfl

@[simp] theorem runFrom_rename (source target : Path) (computer : Computer) :
    runFrom ((access : FileAccess Machine).rename source target) computer =
      changed computer (computer.files.rename source target) :=
  runFrom_change _ _

@[simp] theorem runFrom_remove (path : Path) (computer : Computer) :
    runFrom ((access : FileAccess Machine).remove path) computer =
      changed computer (computer.files.remove path) :=
  runFrom_change _ _

theorem runFrom_write_of_locate {path : Path} {place : Place} {computer : Computer}
    (bare : path.text.toList.getLast? ≠ some '/')
    (leads : computer.files.locate path.text.toList = .ok place) (named : place ≠ [])
    (plain : computer.files.node? place ≠ some .directory) (bytes : Bytes) :
    runFrom ((access : FileAccess Machine).write path bytes) computer =
      (.ok (), { computer with
        files := (computer.files.put place (.file [])).put place (.file bytes) }) := by
  have leadsNew := (keepsDirectories_put plain (.file [])).locate leads
  unfold FileAccess.write
  rw [runFrom_bind, runFrom_create, create_of_locate bare leads plain]
  simp only [changed]
  rw [runFrom_append, append_of_locate leadsNew (node?_put_self named _)]
  rfl

theorem runFrom_write_of_create {path : Path} {computer : Computer} {made : FileSystem}
    (created : computer.files.create path = .ok made) (bytes : Bytes) :
    ∃ files, runFrom ((access : FileAccess Machine).write path bytes) computer =
      (.ok (), { computer with files }) ∧ files.read path = .ok bytes := by
  obtain ⟨filled, appended, reads⟩ := append_read_of_create created bytes
  refine ⟨filled, ?_, reads⟩
  unfold FileAccess.write
  rw [runFrom_bind, runFrom_create, created]
  simp only [changed, runFrom_append, appended]

theorem create_of_runFrom_write {path : Path} {computer : Computer} {bytes : Bytes}
    (written : (runFrom ((access : FileAccess Machine).write path bytes) computer).1 = .ok ()) :
    ∃ made, computer.files.create path = .ok made := by
  unfold FileAccess.write at written
  rw [runFrom_bind, runFrom_create] at written
  cases created : computer.files.create path with
  | ok made => exact ⟨made, rfl⟩
  | error fault =>
      rw [created] at written
      cases written

theorem runFrom_readText_of_read {path : Path} {computer : Computer} {text : String}
    (reads : computer.files.read path = .ok (Utf8.encode text)) :
    runFrom ((access : FileAccess Machine).readText path) computer = (.ok text, computer) := by
  unfold FileAccess.readText
  rw [runFrom_bind, runFrom_read, reads]
  dsimp only
  rw [Utf8.decode?_encode]
  rfl

end FileSystem

end Courier
