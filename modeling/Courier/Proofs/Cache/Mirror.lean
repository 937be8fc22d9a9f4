import Courier.Proofs.Cache.Memory
import Courier.Proofs.Cache.Names
import Courier.Proofs.Files.Directories
/-!
A directory that holds what a cache in memory holds. Every manifest of the cache in memory is a file
of its own below the root, and there is no file with the name of another manifest. Main statements:
files with other names do not matter to this, and a file with the name of a manifest stands for the
entry of that name.
-/

namespace Courier

open Computer

namespace FileCache

def filePlace (place : Place) (resource name : String) : Place :=
  place ++ [resourceDigest resource, name]

def directoryPlace (place : Place) (resource : String) : Place :=
  place ++ [resourceDigest resource]

/-- Files that hold below the place of the root what `memory` holds, as far as the resources in
`used` go. A resource without a directory has no manifests. -/
structure Mirrors (cache : FileCache) (place : Place) (used : List String) (memory : MemoryCache)
    (files : FileSystem) : Prop where
  enters : files.enter cache.root = .ok place
  base : files.node? place = some .directory
  directories : ∀ resource ∈ used,
    files.node? (directoryPlace place resource) = none ∨
      files.node? (directoryPlace place resource) = some .directory
  plain : ∀ resource ∈ used, ∀ name,
    files.node? (filePlace place resource name) ≠ some .directory
  manifests : ∀ resource ∈ used, ∀ version,
    files.node? (filePlace place resource (manifestName version)) =
      (memory.get? resource version).map .file
  housed : ∀ resource ∈ used, ∀ version bytes, memory.get? resource version = some bytes →
    files.node? (directoryPlace place resource) = some .directory

/-- The resources in `used` are told apart by their directories. -/
def Apart (used : List String) : Prop :=
  ∀ left ∈ used, ∀ right ∈ used, resourcePrefix left = resourcePrefix right → left = right

theorem filePlace_inj {place : Place} {used : List String} (apart : Apart used)
    {left right first second : String} (known : left ∈ used) (other : right ∈ used)
    (same : filePlace place left first = filePlace place right second) :
    left = right ∧ first = second := by
  have names := List.append_cancel_left same
  obtain ⟨digests, rest⟩ := List.cons.inj names
  exact ⟨apart left known right other (resourceDigest_inj digests), (List.cons.inj rest).1⟩

theorem directoryPlace_append (place : Place) (resource name : String) :
    directoryPlace place resource ++ [name] = filePlace place resource name :=
  List.append_assoc _ _ _

theorem filePlace_ne_base (place : Place) (resource name : String) :
    filePlace place resource name ≠ place := by
  simp [filePlace]

theorem filePlace_ne_directoryPlace (place : Place) (resource name other : String) :
    filePlace place resource name ≠ directoryPlace place other := by
  simp [filePlace, directoryPlace]

theorem filePlace_ne_nil (place : Place) (resource name : String) :
    filePlace place resource name ≠ [] := by
  simp [filePlace]

variable {cache : FileCache} {place : Place} {used : List String} {memory : MemoryCache}
  {files : FileSystem}

/-- Two file systems that differ in one file of a resource at most. -/
structure Alters (place : Place) (resource name : String) (before after : FileSystem) : Prop where
  others : ∀ other, filePlace place resource name ≠ other → after.node? other = before.node? other
  plain : after.node? (filePlace place resource name) ≠ some .directory
  start : after.workingDirectory = before.workingDirectory

theorem alters_put (place : Place) (resource name : String) (files : FileSystem)
    (content : Bytes) :
    Alters place resource name files
      (files.put (filePlace place resource name) (.file content)) := by
  refine ⟨fun other differ => FileSystem.node?_put_of_ne differ _, ?_, rfl⟩
  rw [FileSystem.node?_put_self (filePlace_ne_nil place resource name)]
  intro directory
  cases directory

theorem alters_erase (place : Place) (resource name : String) (files : FileSystem) :
    Alters place resource name files (files.erase (filePlace place resource name)) := by
  refine ⟨fun other differ => FileSystem.node?_erase_of_ne differ, ?_, rfl⟩
  rw [FileSystem.node?_erase_self (filePlace_ne_nil place resource name)]
  intro directory
  cases directory

variable {resource name : String} {after : FileSystem}

theorem Alters.trans {last : FileSystem} (early : Alters place resource name files after)
    (late : Alters place resource name after last) : Alters place resource name files last := by
  refine ⟨?_, late.plain, late.start.trans early.start⟩
  intro other differ
  rw [late.others other differ, early.others other differ]

theorem Alters.directory (alters : Alters place resource name files after) (other : String) :
    after.node? (directoryPlace place other) = files.node? (directoryPlace place other) :=
  alters.others _ (filePlace_ne_directoryPlace place resource name other)

theorem Alters.keepsDirectories (alters : Alters place resource name files after)
    (plain : files.node? (filePlace place resource name) ≠ some .directory) :
    FileSystem.KeepsDirectories files after :=
  FileSystem.keepsDirectories_of_others plain alters.others alters.start

theorem Mirrors.alter (mirrors : Mirrors cache place used memory files) (known : resource ∈ used)
    (alters : Alters place resource name files after) {later : MemoryCache}
    (manifests : ∀ other ∈ used, ∀ version,
      after.node? (filePlace place other (manifestName version)) =
        (later.get? other version).map .file)
    (housed : ∀ other ∈ used, ∀ version bytes, later.get? other version = some bytes →
      files.node? (directoryPlace place other) = some .directory) :
    Mirrors cache place used later after := by
  constructor
  case enters =>
      exact (alters.keepsDirectories (mirrors.plain resource known name)).enter mirrors.enters
  case base =>
      rw [alters.others place (filePlace_ne_base place resource name)]
      exact mirrors.base
  case directories =>
      intro other listed
      rw [alters.directory]
      exact mirrors.directories other listed
  case plain =>
      intro other listed another
      by_cases same : filePlace place resource name = filePlace place other another
      · rw [← same]
        exact alters.plain
      · rw [alters.others _ same]
        exact mirrors.plain other listed another
  case manifests => exact manifests
  case housed =>
      intro other listed version bytes found
      rw [alters.directory]
      exact housed other listed version bytes found

theorem Mirrors.put_directory (mirrors : Mirrors cache place used memory files)
    (free : files.node? (directoryPlace place resource) = none) :
    Mirrors cache place used memory (files.put (directoryPlace place resource) .directory) := by
  have keeps := (FileSystem.adds_put free .directory).keepsDirectories
  have others : ∀ other, directoryPlace place resource ≠ other →
      (files.put (directoryPlace place resource) .directory).node? other = files.node? other :=
    fun other differ => FileSystem.node?_put_of_ne differ _
  constructor
  case enters => exact keeps.enter mirrors.enters
  case base => exact keeps.directories place mirrors.base
  case directories =>
      intro other listed
      by_cases same : directoryPlace place resource = directoryPlace place other
      · right
        rw [← same]
        exact FileSystem.node?_put_self (by simp [directoryPlace]) _
      · rw [others _ same]
        exact mirrors.directories other listed
  case plain =>
      intro other listed name
      rw [others _ (filePlace_ne_directoryPlace place other name resource).symm]
      exact mirrors.plain other listed name
  case manifests =>
      intro other listed version
      rw [others _ (filePlace_ne_directoryPlace place other _ resource).symm]
      exact mirrors.manifests other listed version
  case housed =>
      intro other listed version bytes found
      exact keeps.directories _ (mirrors.housed other listed version bytes found)

theorem Mirrors.alter_other (mirrors : Mirrors cache place used memory files) (apart : Apart used)
    (known : resource ∈ used) (alters : Alters place resource name files after)
    (other : ∀ version, name ≠ manifestName version) :
    Mirrors cache place used memory after := by
  refine mirrors.alter known alters ?_ mirrors.housed
  intro another listed version
  rw [alters.others]
  · exact mirrors.manifests another listed version
  · intro same
    exact other version (filePlace_inj apart known listed same).2

theorem Mirrors.put_manifest (mirrors : Mirrors cache place used memory files)
    (apart : Apart used) (known : resource ∈ used)
    (house : files.node? (directoryPlace place resource) = some .directory)
    (version : String) (bytes : Bytes) :
    Mirrors cache place used (memory.insert resource version bytes)
      (files.put (filePlace place resource (manifestName version)) (.file bytes)) := by
  -- A place tells the key it stands for, because the resources in use are told apart.
  have alters := alters_put place resource (manifestName version) files bytes
  refine mirrors.alter known alters ?_ ?_
  · intro other listed another
    rw [MemoryCache.get?_insert]
    by_cases same : filePlace place resource (manifestName version) =
        filePlace place other (manifestName another)
    · obtain ⟨resources, names⟩ := filePlace_inj apart known listed same
      rw [← same, FileSystem.node?_put_self (filePlace_ne_nil _ _ _),
        if_pos ⟨resources, manifestName_injective names⟩]
      rfl
    · rw [alters.others _ same, if_neg]
      · exact mirrors.manifests other listed another
      · rintro ⟨resources, versions⟩
        exact same (by rw [resources, versions])
  · intro other listed another content found
    rw [MemoryCache.get?_insert] at found
    split at found
    · next key =>
        rw [← key.1]
        exact house
    · exact mirrors.housed other listed another content found

end FileCache

end Courier
