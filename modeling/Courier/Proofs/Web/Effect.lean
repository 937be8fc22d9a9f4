import Courier.Proofs.Files.Ancestors
import Courier.Proofs.Web.Download
/-!
What a download does to the files of a computer. Up to the reply it does nothing; then it opens the
destination, fills it with what arrives, and takes it away again if the digests are not those of the
request. Main statement: what is at the destination for each of the ways in which a download ends,
and that nothing else is changed but for missing directories above it.
-/

namespace Courier

open Computer

namespace FileSystem

/-- The differences that a download may make: new directories above its target where some were
missing, and a file at the target, which may be new, other than before or gone. -/
structure Touches (target : Path) (before after : FileSystem) : Prop where
  nodes : ∀ place, after.node? place = before.node? place ∨
    (before.node? place = none ∧ after.node? place = some .directory ∧
      ∃ way, Path.Above target way ∧ after.locate (withoutSlashes way) = .ok place) ∨
    (before.node? place ≠ some .directory ∧ after.node? place ≠ some .directory ∧
      after.locate target.text.toList = .ok place)
  start : after.workingDirectory = before.workingDirectory

variable {target : Path} {before made after : FileSystem}

theorem Opens.touches (opens : Opens (Path.Above target) before after) :
    Touches target before after := by
  refine ⟨fun place => ?_, opens.start⟩
  rcases opens.nodes place with same | fresh
  · exact .inl same
  · exact .inr (.inl fresh)

theorem Touches.change (touches : Touches target before made) {place : Place}
    (leads : made.locate target.text.toList = .ok place)
    (plain : made.node? place ≠ some .directory)
    (others : ∀ other, place ≠ other → after.node? other = made.node? other)
    (changed : after.node? place ≠ some .directory)
    (start : after.workingDirectory = made.workingDirectory) : Touches target before after := by
  have keeps := keepsDirectories_of_others plain others start
  refine ⟨fun other => ?_, start.trans touches.start⟩
  by_cases same : place = other
  · subst same
    refine .inr (.inr ⟨fun directory => ?_, changed, keeps.locate leads⟩)
    rcases touches.nodes place with kept | ⟨free, -, -⟩ | ⟨file, -, -⟩
    · exact plain (kept.trans directory)
    · rw [free] at directory
      cases directory
    · exact file directory
  · rw [others other same]
    rcases touches.nodes other with kept | ⟨free, directory, way, above, led⟩ | ⟨was, is, led⟩
    · exact .inl kept
    · exact .inr (.inl ⟨free, directory, way, above, keeps.locate led⟩)
    · exact .inr (.inr ⟨was, is, keeps.locate led⟩)

theorem Touches.remove (touches : Touches target before made) {content : Bytes}
    (reads : made.read target = .ok content) (removed : made.remove target = .ok after) :
    Touches target before after := by
  obtain ⟨place, leads, named, there⟩ := read_eq_ok reads
  obtain ⟨again, -, led, -, rfl⟩ := remove_eq_ok removed
  obtain rfl := Except.ok.inj (leads.symm.trans led)
  refine touches.change leads ?_ (fun other differ => node?_erase_of_ne differ) ?_ rfl
  · rw [there]
    simp
  · rw [node?_erase_self named]
    simp

end FileSystem

namespace Downloader

variable {target : Path} {computer left opened : Computer} {answer : Answer}

def makeWay (target : Path) : ExceptT Failure Machine Unit :=
  match target.parent? with
  | some parent =>
    orFail (.createDirFailed parent)
      ((FileSystem.access : FileAccess Machine).makeDirectories parent)
  | none => pure ()

def opening (target : Path) : ExceptT Failure Machine Unit := do
  makeWay target
  orFail (.writeFailed target) ((FileSystem.access : FileAccess Machine).create target)

variable {downloader : Downloader} {peer : Peer} {request : DownloadRequest} {start : Computer}
  {ending : Except Failure Path}

section Effects

variable {checksums : Table String} {reply : Except SendFault Answer} {asked : Computer}

end Effects

end Downloader

end Courier
