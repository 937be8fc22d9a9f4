import Courier.Proofs.Cache.Mirror
/-!
What the calls of the cache in files do to a directory that mirrors a cache in memory. A read finds
what the cache in memory holds. A write goes through its steps, none of which can fail here, and
after each of them the directory mirrors what was there before, until the last one puts the new
manifest in place. The version `.` is left out, for the path of its draft is that of a directory.
-/

namespace Courier

open Computer

namespace FileCache

/-- The file system has room for the names and the paths of a key. -/
structure Fits (cache : FileCache) (resource version : String) : Prop where
  name : (manifestName version).utf8ByteSize ≤ FileSystem.nameLimit
  manifest : (cache.manifestPath resource version).text.utf8ByteSize < FileSystem.pathLimit
  draft : (cache.draftPath resource version).text.utf8ByteSize < FileSystem.pathLimit
  marker : (cache.markerPath resource).text.utf8ByteSize < FileSystem.pathLimit

variable {cache : FileCache} {place : Place} {used : List String} {memory : MemoryCache}
  {files : FileSystem} {resource version : String}

theorem fits_of_short (name : (manifestName version).utf8ByteSize ≤ FileSystem.nameLimit)
    (short : cache.root.text.utf8ByteSize + 289 < FileSystem.pathLimit) :
    Fits cache resource version := by
  have directory := Path.utf8ByteSize_join_le cache.root (resourceDigest resource)
  rw [utf8ByteSize_resourceDigest] at directory
  have below : ∀ file : String, file.utf8ByteSize ≤ FileSystem.nameLimit →
      ((cache.resourceDirectory resource).join file).text.utf8ByteSize < FileSystem.pathLimit := by
    intro file limit
    have path := Path.utf8ByteSize_join_le (cache.resourceDirectory resource) file
    have bound : (cache.resourceDirectory resource).text.utf8ByteSize ≤
      cache.root.text.utf8ByteSize + 1 + 32 := directory
    unfold FileSystem.nameLimit at limit
    omega
  refine ⟨name, below _ name, ?_, below _ (by decide)⟩
  rw [draftPath_eq cache resource]
  exact below _ (utf8ByteSize_draftName_le name)

theorem enter_resourceDirectory (mirrors : Mirrors cache place used memory files) :
    files.enter (cache.resourceDirectory resource) = .ok (directoryPlace place resource) :=
  FileSystem.enter_join_of_directory (isName_resourceDigest resource) mirrors.enters mirrors.base

theorem Fits.directory (fits : Fits cache resource version) :
    (cache.resourceDirectory resource).text.utf8ByteSize < FileSystem.pathLimit := by
  have room := fits.manifest
  rw [manifestPath_eq, resourceDirectory, Path.text_join_join _ (isName_resourceDigest resource)
    (isName_manifestName fits.name), String.utf8ByteSize_append, String.utf8ByteSize_append]
    at room
  exact Nat.lt_of_le_of_lt (Nat.le_add_right _ _) (Nat.lt_of_le_of_lt (Nat.le_add_right _ _) room)

theorem locate_resourceDirectory (mirrors : Mirrors cache place used memory files)
    (fits : Fits cache resource version) :
    files.locate (cache.resourceDirectory resource).text.toList =
      .ok (directoryPlace place resource) :=
  FileSystem.locate_join_of_directory (isName_resourceDigest resource) fits.directory
    mirrors.enters mirrors.base

theorem locate_file (mirrors : Mirrors cache place used memory files)
    (house : files.node? (directoryPlace place resource) = some .directory) {name : String}
    (named : IsName name)
    (room : ((cache.resourceDirectory resource).join name).text.utf8ByteSize <
      FileSystem.pathLimit) :
    files.locate ((cache.resourceDirectory resource).join name).text.toList =
      .ok (filePlace place resource name) := by
  rw [← directoryPlace_append]
  exact FileSystem.locate_join_of_directory named room (enter_resourceDirectory mirrors) house

theorem find_file_of_free (reaches : FileSystem.Reaches files cache.root place)
    (base : files.node? place = none ∨ files.node? place = some .directory)
    (house : files.node? (directoryPlace place resource) = none ∨
      files.node? (directoryPlace place resource) = some .directory)
    {name : String} (named : IsName name)
    (room : ((cache.resourceDirectory resource).join name).text.utf8ByteSize <
      FileSystem.pathLimit)
    (free : files.node? (filePlace place resource name) = none) :
    files.find ((cache.resourceDirectory resource).join name) = .error .noEntry := by
  have entered : FileSystem.Reaches files (cache.resourceDirectory resource)
      (directoryPlace place resource) := reaches.join (isName_resourceDigest resource) base
  rcases entered.locate_join named room house with reached | missing
  · rw [← directoryPlace_append] at free
    exact FileSystem.find_of_free reached free
  · unfold FileSystem.find
    rw [missing]
    rfl

theorem runFrom_read_of_find {computer : Computer} {found : Option Bytes}
    (finds : computer.files.find (cache.manifestPath resource version) =
      match found with
      | some bytes => .ok (.file bytes)
      | none => .error .noEntry) :
    runFrom (cache.read (FileSystem.access : FileAccess Machine) resource version) computer =
      (MemoryCache.answer resource version found, computer) := by
  unfold read
  dsimp only
  rw [runFrom_bind, runFrom_outcome, FileSystem.runFrom_read]
  unfold FileSystem.read
  rw [finds]
  cases found with
  | none => rfl
  | some bytes => rfl

theorem runFrom_read {computer : Computer}
    (mirrors : Mirrors cache place used memory computer.files) (known : resource ∈ used)
    (fits : Fits cache resource version) :
    runFrom (cache.read (FileSystem.access : FileAccess Machine) resource version) computer =
      (MemoryCache.answer resource version (memory.get? resource version), computer) := by
  apply runFrom_read_of_find
  have room := fits.manifest
  rw [manifestPath_eq] at room ⊢
  have node := mirrors.manifests resource known version
  cases found : memory.get? resource version with
  | none =>
      rw [found] at node
      exact find_file_of_free (.inl mirrors.enters) (.inr mirrors.base)
        (mirrors.directories resource known) (isName_manifestName fits.name) room node
  | some bytes =>
      rw [found] at node
      have house := mirrors.housed resource known version bytes found
      exact FileSystem.find_of_locate
        (locate_file mirrors house (isName_manifestName fits.name) room) node

variable {entry : Entry} {computer : Computer}

theorem runFrom_orCannot_ok {doing : String} {path : Path} {action : FileAction Machine Unit}
    {left : Computer} (acts : runFrom action computer = (.ok (), left)) :
    runFrom (orCannot entry doing path action) computer = (.ok (), left) := by
  unfold orCannot
  rw [runFrom_bind, runFrom_outcome, acts]
  rfl

theorem eq_ok_of_orCannot {σ : Type} {doing : String} {path : Path}
    {action : FileAction (StateM σ) Unit} {state left : σ}
    (acts : runFrom (orCannot entry doing path action) state = (.ok (), left)) :
    runFrom action state = (.ok (), left) := by
  unfold orCannot at acts
  rw [runFrom_bind, runFrom_outcome] at acts
  rcases ran : runFrom action state with ⟨ending, reached⟩
  rw [ran] at acts
  cases ending with
  | ok done =>
      obtain ⟨-, rfl⟩ := Prod.mk.inj acts
      rfl
  | error fault => cases acts

theorem runFrom_makeDirectory (mirrors : Mirrors cache place used memory computer.files)
    (known : entry.resource ∈ used) (fits : Fits cache entry.resource entry.version) :
    ∃ made, runFrom (cache.runStep FileSystem.access entry .makeDirectory) computer =
        (.ok (), { computer with files := made }) ∧
      Mirrors cache place used memory made ∧
      made.node? (directoryPlace place entry.resource) = some .directory := by
  have named := isName_resourceDigest entry.resource
  have filled : (cache.resourceDirectory entry.resource).isEmpty = false :=
    String.isEmpty_eq_false_iff.mpr (Path.join_ne_empty _ named)
  have bare := Path.getLast?_toList_join cache.root named
  have leads := locate_resourceDirectory mirrors fits
  rcases mirrors.directories entry.resource known with free | there
  · refine ⟨_, runFrom_orCannot_ok
      (FileSystem.runFrom_makeDirectories_of_free filled bare leads free _),
      mirrors.put_directory free, ?_⟩
    exact FileSystem.node?_put_self (by simp [directoryPlace]) _
  · exact ⟨_, runFrom_orCannot_ok
      (FileSystem.runFrom_makeDirectories_of_directory filled bare leads there _), mirrors, there⟩

theorem runFrom_markResource (mirrors : Mirrors cache place used memory computer.files)
    (apart : Apart used) (known : entry.resource ∈ used)
    (house : computer.files.node? (directoryPlace place entry.resource) = some .directory)
    (fits : Fits cache entry.resource entry.version) :
    ∃ marked, runFrom (cache.runStep FileSystem.access entry .markResource) computer =
        (.ok (), { computer with files := marked }) ∧
      Mirrors cache place used memory marked ∧
      marked.node? (directoryPlace place entry.resource) = some .directory := by
  have leads := locate_file mirrors house isName_marker fits.marker
  have bare := Path.getLast?_toList_join (cache.resourceDirectory entry.resource) isName_marker
  unfold runStep
  dsimp only
  rw [runFrom_bind, runFrom_monadLift, FileSystem.stepFrom_present]
  cases present : computer.files.present (cache.markerPath entry.resource) with
  | true => exact ⟨computer.files, rfl, mirrors, house⟩
  | false =>
      simp only [Bool.false_eq_true, if_false]
      have alters := (alters_put place entry.resource "resource" computer.files []).trans
        (alters_put place entry.resource "resource" _ (Utf8.encode entry.resource))
      refine ⟨_, runFrom_orCannot_ok (FileSystem.runFrom_write_of_locate bare leads
        (filePlace_ne_nil _ _ _) (mirrors.plain entry.resource known _) _),
        mirrors.alter_other apart known alters marker_ne, ?_⟩
      rw [alters.directory]
      exact house

def draftPlace (place : Place) (entry : Entry) : Place :=
  filePlace place entry.resource (draftName entry.version)

theorem locate_draftPath (mirrors : Mirrors cache place used memory files)
    (house : files.node? (directoryPlace place entry.resource) = some .directory)
    (fits : Fits cache entry.resource entry.version) (other : entry.version ≠ ".") :
    files.locate (cache.draftPath entry.resource entry.version).text.toList =
      .ok (draftPlace place entry) := by
  have room := fits.draft
  rw [draftPath_eq cache entry.resource] at room ⊢
  exact locate_file mirrors house (isName_draftName other fits.name) room

theorem runFrom_createDraft (mirrors : Mirrors cache place used memory computer.files)
    (known : entry.resource ∈ used)
    (house : computer.files.node? (directoryPlace place entry.resource) = some .directory)
    (fits : Fits cache entry.resource entry.version) (other : entry.version ≠ ".") :
    runFrom (cache.runStep FileSystem.access entry .createDraft) computer =
      (.ok (), { computer with
        files := computer.files.put (draftPlace place entry) (.file []) }) := by
  have leads := locate_draftPath mirrors house fits other
  have bare : (cache.draftPath entry.resource entry.version).text.toList.getLast? ≠ some '/' := by
    rw [draftPath_eq cache entry.resource]
    exact Path.getLast?_toList_join _ (isName_draftName other fits.name)
  apply runFrom_orCannot_ok
  rw [FileSystem.runFrom_create, FileSystem.create_of_locate bare leads
    (mirrors.plain entry.resource known _)]
  rfl

theorem runFrom_fillDraft (mirrors : Mirrors cache place used memory computer.files)
    (house : computer.files.node? (directoryPlace place entry.resource) = some .directory)
    (fits : Fits cache entry.resource entry.version) (other : entry.version ≠ ".") {content : Bytes}
    (there : computer.files.node? (draftPlace place entry) = some (.file content)) :
    runFrom (cache.runStep FileSystem.access entry .fillDraft) computer =
      (.ok (), { computer with
        files := computer.files.put (draftPlace place entry)
          (.file (content ++ entry.bytes)) }) := by
  apply runFrom_orCannot_ok
  rw [FileSystem.runFrom_append,
    FileSystem.append_of_locate (locate_draftPath mirrors house fits other) there]
  rfl

theorem runFrom_syncDraft (mirrors : Mirrors cache place used memory computer.files)
    (house : computer.files.node? (directoryPlace place entry.resource) = some .directory)
    (fits : Fits cache entry.resource entry.version) (other : entry.version ≠ ".") {content : Bytes}
    (there : computer.files.node? (draftPlace place entry) = some (.file content)) :
    runFrom (cache.runStep FileSystem.access entry .syncDraft) computer = (.ok (), computer) := by
  apply runFrom_orCannot_ok
  rw [FileSystem.runFrom_sync,
    FileSystem.find_of_locate (locate_draftPath mirrors house fits other) there]
  rfl

theorem runFrom_replaceManifest (mirrors : Mirrors cache place used memory computer.files)
    (known : entry.resource ∈ used)
    (house : computer.files.node? (directoryPlace place entry.resource) = some .directory)
    (fits : Fits cache entry.resource entry.version) (other : entry.version ≠ ".") {content : Bytes}
    (there : computer.files.node? (draftPlace place entry) = some (.file content)) :
    runFrom (cache.runStep FileSystem.access entry .replaceManifest) computer =
      (.ok (), { computer with
        files := (computer.files.erase (draftPlace place entry)).put
          (filePlace place entry.resource (manifestName entry.version)) (.file content) }) := by
  have leads := locate_draftPath mirrors house fits other
  have leadsOn := locate_file mirrors house (isName_manifestName fits.name) fits.manifest
  apply runFrom_orCannot_ok
  rw [runFrom_bind, runFrom_outcome, FileSystem.runFrom_rename, manifestPath_eq,
    FileSystem.rename_of_locate leads leadsOn there (mirrors.plain entry.resource known _)]
  rfl

theorem runFrom_forM_cons {step : WriteStep} {rest : List WriteStep} {left : Computer}
    {run : WriteStep → ExceptT Failure Machine Unit}
    (steps : runFrom (run step) computer = (.ok (), left)) :
    runFrom ((step :: rest).forM run) computer = runFrom (rest.forM run) left :=
  runFrom_bind_ok steps _

theorem runFrom_draft (computer : Computer)
    (mirrors : Mirrors cache place used memory computer.files)
    (apart : Apart used) (known : entry.resource ∈ used)
    (house : computer.files.node? (directoryPlace place entry.resource) = some .directory)
    (fits : Fits cache entry.resource entry.version) (other : entry.version ≠ ".")
    (rest : List WriteStep) :
    ∃ drafted, runFrom ((.createDraft :: .fillDraft :: .syncDraft :: rest).forM
          (cache.runStep FileSystem.access entry)) computer =
        runFrom (rest.forM (cache.runStep FileSystem.access entry))
          { computer with files := drafted } ∧
      Mirrors cache place used memory drafted ∧
      drafted.node? (directoryPlace place entry.resource) = some .directory ∧
      drafted.node? (draftPlace place entry) = some (.file entry.bytes) := by
  have another := draftName_ne entry.version
  have empties := alters_put place entry.resource (draftName entry.version) computer.files []
  have fills := alters_put place entry.resource (draftName entry.version)
    (computer.files.put (draftPlace place entry) (.file [])) entry.bytes
  have mirrorsEmpty := mirrors.alter_other apart known empties another
  have houseEmpty := (empties.directory entry.resource).trans house
  have mirrorsFull := mirrorsEmpty.alter_other apart known fills another
  have houseFull := (fills.directory entry.resource).trans houseEmpty
  have thereEmpty : (computer.files.put (draftPlace place entry) (.file [])).node?
      (draftPlace place entry) = some (.file []) :=
    FileSystem.node?_put_self (filePlace_ne_nil _ _ _) _
  have thereFull : ((computer.files.put (draftPlace place entry) (.file [])).put
      (draftPlace place entry) (.file entry.bytes)).node? (draftPlace place entry) =
      some (.file entry.bytes) :=
    FileSystem.node?_put_self (filePlace_ne_nil _ _ _) _
  refine ⟨_, ?_, mirrorsFull, houseFull, thereFull⟩
  rw [runFrom_forM_cons (runFrom_createDraft mirrors known house fits other),
    runFrom_forM_cons (runFrom_fillDraft mirrorsEmpty houseEmpty fits other thereEmpty)]
  exact runFrom_forM_cons (runFrom_syncDraft mirrorsFull houseFull fits other thereFull)

theorem runFrom_steps_of_directory (computer : Computer)
    (mirrors : Mirrors cache place used memory computer.files)
    (apart : Apart used) (known : entry.resource ∈ used)
    (house : computer.files.node? (directoryPlace place entry.resource) = some .directory)
    (fits : Fits cache entry.resource entry.version) (other : entry.version ≠ ".") :
    ∃ written, runFrom ((writeSteps.drop 1).forM (cache.runStep FileSystem.access entry))
        computer = (.ok (), { computer with files := written }) ∧
      Mirrors cache place used (memory.insert entry.resource entry.version entry.bytes)
        written := by
  obtain ⟨marked, marks, mirrorsMarked, houseMarked⟩ :=
    runFrom_markResource mirrors apart known house fits
  obtain ⟨drafted, drafts, mirrorsDrafted, houseDrafted, there⟩ :=
    runFrom_draft { computer with files := marked } mirrorsMarked apart known houseMarked fits
      other [.replaceManifest]
  -- The draft goes before the manifest comes, so these are two changes of one file each.
  have erases := alters_erase place entry.resource (draftName entry.version) drafted
  have mirrorsErased := mirrorsDrafted.alter_other apart known erases (draftName_ne entry.version)
  have houseErased := (erases.directory entry.resource).trans houseDrafted
  refine ⟨_, ?_, mirrorsErased.put_manifest apart known houseErased entry.version entry.bytes⟩
  unfold writeSteps
  rw [List.drop_one, List.tail_cons, runFrom_forM_cons marks, drafts]
  exact runFrom_forM_cons
    (runFrom_replaceManifest mirrorsDrafted known houseDrafted fits other there)

theorem runFrom_forM_cons_eq_ok {step : WriteStep} {rest : List WriteStep} {left : Computer}
    {run : WriteStep → ExceptT Failure Machine Unit}
    (runs : runFrom ((step :: rest).forM run) computer = (.ok (), left)) :
    ∃ reached, runFrom (run step) computer = (.ok (), reached) ∧
      runFrom (rest.forM run) reached = (.ok (), left) := by
  change runFrom (run step >>= fun _ => rest.forM run) computer = _ at runs
  rw [runFrom_bind] at runs
  rcases ran : runFrom (run step) computer with ⟨ending, reached⟩
  rw [ran] at runs
  cases ending with
  | ok done => exact ⟨reached, rfl, runs⟩
  | error failure => cases runs

/-- Nothing is ever written under the version `.`, whatever the files are like. -/
theorem runFrom_write_dot (cache : FileCache) (dot : entry.version = ".") (computer : Computer) :
    ∃ failure left, runFrom (cache.write FileSystem.access entry) computer =
      (.error failure, left) := by
  rcases ran : runFrom (cache.write FileSystem.access entry) computer with ⟨ending, left⟩
  cases ending with
  | error failure => exact ⟨failure, left, rfl⟩
  | ok done =>
      obtain ⟨made, -, ran⟩ := runFrom_forM_cons_eq_ok ran
      obtain ⟨marked, -, ran⟩ := runFrom_forM_cons_eq_ok ran
      obtain ⟨drafted, drafts, -⟩ := runFrom_forM_cons_eq_ok ran
      have creates := eq_ok_of_orCannot drafts
      rw [FileSystem.runFrom_create] at creates
      cases created : marked.files.create (cache.draftPath entry.resource entry.version) with
      | ok files => exact absurd dot (version_ne_of_createDraft created)
      | error fault =>
          rw [created] at creates
          cases creates

/-- A write succeeds, and the directory then mirrors the cache in memory after the same write. -/
theorem runFrom_write (entry : Entry)
    (mirrors : Mirrors cache place used memory computer.files)
    (apart : Apart used) (known : entry.resource ∈ used)
    (fits : Fits cache entry.resource entry.version) (other : entry.version ≠ ".") :
    ∃ written, runFrom (cache.write FileSystem.access entry) computer =
        (.ok (), { computer with files := written }) ∧
      Mirrors cache place used (memory.insert entry.resource entry.version entry.bytes)
        written := by
  obtain ⟨made, makes, mirrorsMade, house⟩ := runFrom_makeDirectory mirrors known fits
  obtain ⟨written, writes, mirrorsWritten⟩ := runFrom_steps_of_directory
    { computer with files := made } mirrorsMade apart known house fits other
  refine ⟨written, ?_, mirrorsWritten⟩
  unfold write
  exact (runFrom_forM_cons makes).trans writes

end FileCache

end Courier
