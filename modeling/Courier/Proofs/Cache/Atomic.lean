import Courier.Proofs.Cache.Steps
import Courier.Proofs.Files.Trees
import Courier.Proofs.Files.Trial
/-!
What a write to the cache in files leaves when anything may go wrong in it. A manifest is written to
a draft beside its file, and until the draft takes the file's name every manifest reads as before.
Main statement: wherever a write fails or is stopped, either nothing that can be read has changed,
or the draft was moved and the key reads as the new bytes, all of them, and every other key as
before; and a write that returns has moved its draft just if it succeeded.
-/

namespace Courier.FileCache

variable (cache : FileCache)

/-- The bytes that a read of a key gives, if it succeeds. -/
def found? (files : FileSystem) (resource version : String) : Option Bytes :=
  (runFrom (cache.read (FileSystem.access : FileAccess (StateM FileSystem)) resource version)
    files).1.toOption

variable {cache} {files before after : FileSystem} {resource version : String}

theorem found?_eq (files : FileSystem) (resource version : String) :
    cache.found? files resource version =
      (files.read (cache.manifestPath resource version)).toOption := by
  unfold found? read
  have reads : runFrom ((FileSystem.access : FileAccess (StateM FileSystem)).read
      (cache.manifestPath resource version)) files =
      (files.read (cache.manifestPath resource version), files) := by
    change runFrom (FileSystem.ask _) files = _
    unfold FileSystem.ask
    rw [runFrom_bind_ok (runFrom_lift _ _), runFrom_ofExcept]
    rfl
  dsimp only
  rw [runFrom_bind, runFrom_outcome, reads]
  cases files.read (cache.manifestPath resource version) with
  | ok bytes => rfl
  | error fault =>
      dsimp only
      split
      · rfl
      · rfl

theorem found?_eq_some {bytes : Bytes} :
    cache.found? files resource version = some bytes ↔
      files.read (cache.manifestPath resource version) = .ok bytes := by
  rw [found?_eq]
  cases files.read (cache.manifestPath resource version) with
  | ok content => simp [Except.toOption]
  | error fault => simp [Except.toOption]

theorem found?_congr
    (forward : ∀ bytes, before.read (cache.manifestPath resource version) = .ok bytes →
      after.read (cache.manifestPath resource version) = .ok bytes)
    (backward : ∀ bytes, after.read (cache.manifestPath resource version) = .ok bytes →
      before.read (cache.manifestPath resource version) = .ok bytes) :
    cache.found? after resource version = cache.found? before resource version := by
  apply Option.ext
  intro bytes
  rw [found?_eq_some, found?_eq_some]
  exact ⟨backward bytes, forward bytes⟩

theorem found?_of_kept (keeps : FileSystem.KeepsDirectories before after)
    (kept : FileSystem.KeepsDirectories after before)
    (same : ∀ place,
      before.locate (cache.manifestPath resource version).text.toList = .ok place →
        after.node? place = before.node? place) :
    cache.found? after resource version = cache.found? before resource version := by
  apply found?_congr
  · intro bytes reads
    obtain ⟨place, leads, -, there⟩ := FileSystem.read_eq_ok reads
    exact FileSystem.read_of_locate (keeps.locate leads) ((same place leads).trans there)
  · intro bytes reads
    obtain ⟨place, leads, -, there⟩ := FileSystem.read_eq_ok reads
    have early := kept.locate leads
    exact FileSystem.read_of_locate early ((same place early).symm.trans there)

theorem locate_manifestPath_eq_ok {last : Place}
    (leads : files.locate (cache.manifestPath resource version).text.toList = .ok last) :
    ∃ place, files.enter cache.root = .ok place ∧
      files.node? (directoryPlace place resource) = some .directory ∧
      last = filePlace place resource (manifestName version) := by
  rw [manifestPath_eq] at leads
  obtain ⟨house, enters, directory, rfl⟩ :=
    FileSystem.locate_join_eq_ok (isName_manifestName (Nat.le_refl _)) leads
  obtain ⟨place, entered, -, rfl⟩ :=
    FileSystem.enter_join_eq_ok (isName_resourceDigest resource) enters
  exact ⟨place, entered, directory, directoryPlace_append place resource _⟩

theorem found?_of_addsDirectories (adds : FileSystem.AddsDirectories before after)
    (wellFormed : before.WellFormed) (straight : before.Straight cache.root)
    (resource version : String) :
    cache.found? after resource version = cache.found? before resource version := by
  apply found?_congr
  · intro bytes reads
    obtain ⟨last, leads, -, there⟩ := FileSystem.read_eq_ok reads
    refine FileSystem.read_of_locate (adds.keepsDirectories.locate leads) ?_
    rcases adds.nodes last with same | free
    · rw [← same]
      exact there
    · rw [free] at there
      cases there
  · intro bytes reads
    obtain ⟨last, leads, -, there⟩ := FileSystem.read_eq_ok reads
    have held := adds.file there
    have short : (manifestName version).utf8ByteSize ≤ FileSystem.nameLimit := by
      rw [manifestPath_eq] at leads
      exact FileSystem.short_of_locate_join (isName_manifestName (Nat.le_refl _)) leads
    have room := FileSystem.lt_pathLimit_of_locate leads
    obtain ⟨place, entered, -, rfl⟩ := locate_manifestPath_eq_ok leads
    -- The file was there before, and so were the directories that it stands in.
    have house : before.node? (directoryPlace place resource) = some .directory := by
      refine wellFormed _ (manifestName version) ?_
      rw [directoryPlace_append, held]
      exact Option.some_ne_none _
    have base : before.node? place = some .directory := by
      refine wellFormed place (resourceDigest resource) ?_
      change before.node? (directoryPlace place resource) ≠ none
      rw [house]
      exact Option.some_ne_none _
    have enteredBefore : before.enter cache.root = .ok place := by
      refine adds.enter wellFormed straight entered ?_
      rw [base]
      exact Option.some_ne_none _
    have entersBefore := FileSystem.enter_join_of_directory (isName_resourceDigest resource)
      enteredBefore base
    refine FileSystem.read_of_locate ?_ held
    rw [← directoryPlace_append]
    exact FileSystem.locate_join_of_directory (isName_manifestName short) room entersBefore house

/-- File systems with the same directories and the same manifests. -/
structure SameManifests (before after : FileSystem) : Prop where
  keeps : FileSystem.KeepsDirectories before after
  kept : FileSystem.KeepsDirectories after before
  manifests : ∀ place version,
    after.node? (place ++ [manifestName version]) = before.node? (place ++ [manifestName version])

theorem SameManifests.refl (system : FileSystem) : SameManifests system system :=
  ⟨.refl system, .refl system, fun _ _ => rfl⟩

theorem SameManifests.trans {first second third : FileSystem} (early : SameManifests first second)
    (late : SameManifests second third) : SameManifests first third := by
  refine ⟨early.keeps.trans late.keeps, late.kept.trans early.kept, ?_⟩
  intro place version
  rw [late.manifests, early.manifests]

theorem SameManifests.found? (same : SameManifests before after) (resource version : String) :
    cache.found? after resource version = cache.found? before resource version := by
  apply found?_of_kept same.keeps same.kept
  intro last leads
  obtain ⟨place, -, -, rfl⟩ := locate_manifestPath_eq_ok leads
  rw [← directoryPlace_append, same.manifests]

theorem ne_concat_manifestName {place other : Place} {name version : String}
    (another : ∀ version, name ≠ manifestName version) :
    place ++ [name] ≠ other ++ [manifestName version] := by
  intro same
  exact another version (List.cons.inj (List.append_inj' same rfl).2).1

theorem sameManifests_put {place : Place} {name : String}
    (another : ∀ version, name ≠ manifestName version)
    (plain : files.node? (place ++ [name]) ≠ some .directory) (content : Bytes) :
    SameManifests files (files.put (place ++ [name]) (.file content)) := by
  constructor
  case keeps => exact FileSystem.keepsDirectories_put plain _
  case kept => exact FileSystem.keepsDirectories_of_put (List.concat_ne_nil name place) content
  case manifests =>
      intro other version
      exact FileSystem.node?_put_of_ne (ne_concat_manifestName another) _

theorem sameManifests_erase {place : Place} {name : String}
    (another : ∀ version, name ≠ manifestName version)
    (plain : files.node? (place ++ [name]) ≠ some .directory) :
    SameManifests files (files.erase (place ++ [name])) := by
  constructor
  case keeps => exact FileSystem.keepsDirectories_erase plain
  case kept => exact FileSystem.keepsDirectories_of_erase (List.concat_ne_nil name place)
  case manifests =>
      intro other version
      exact FileSystem.node?_erase_of_ne (ne_concat_manifestName another)

section Other

variable {base : Path} {name : String} {limit : Nat}

theorem sameManifests_create (named : IsName name limit)
    (another : ∀ version, name ≠ manifestName version)
    (created : files.create (base.join name) = .ok after) : SameManifests files after := by
  obtain ⟨last, leads, -, plain, rfl⟩ := FileSystem.create_eq_ok created
  obtain ⟨place, -, -, rfl⟩ := FileSystem.locate_join_eq_ok named leads
  exact sameManifests_put another plain []

theorem sameManifests_append (named : IsName name limit)
    (another : ∀ version, name ≠ manifestName version) {bytes : Bytes}
    (appended : files.append (base.join name) bytes = .ok after) : SameManifests files after := by
  obtain ⟨last, content, leads, there, rfl⟩ := FileSystem.append_eq_ok appended
  obtain ⟨place, -, -, rfl⟩ := FileSystem.locate_join_eq_ok named leads
  exact sameManifests_put another (by simp [there]) _

theorem sameManifests_remove (named : IsName name limit)
    (another : ∀ version, name ≠ manifestName version)
    (removed : files.remove (base.join name) = .ok after) : SameManifests files after := by
  obtain ⟨last, content, leads, there, rfl⟩ := FileSystem.remove_eq_ok removed
  obtain ⟨place, -, -, rfl⟩ := FileSystem.locate_join_eq_ok named leads
  exact sameManifests_erase another (by simp [there])

end Other

theorem isName_draft (other : version ≠ ".") :
    IsName (draftName version) (draftName version).utf8ByteSize :=
  isName_draftName_of_le other (Nat.le_refl _)

theorem sameManifests_createDraft
    (created : files.create (cache.draftPath resource version) = .ok after) :
    SameManifests files after := by
  have other := version_ne_of_createDraft created
  rw [draftPath_eq] at created
  exact sameManifests_create (isName_draft other) (draftName_ne _) created

theorem found?_put {used : List String} {last : Place} {bytes : Bytes} (apart : Apart used)
    (known : resource ∈ used)
    (leads : files.locate (cache.manifestPath resource version).text.toList = .ok last)
    (plain : files.node? last ≠ some .directory) :
    cache.found? (files.put last (.file bytes)) resource version = some bytes ∧
      ∀ other ∈ used, ∀ another, ¬(other = resource ∧ another = version) →
        cache.found? (files.put last (.file bytes)) other another =
          cache.found? files other another := by
  have keeps := FileSystem.keepsDirectories_put plain (.file bytes)
  obtain ⟨place, entered, -, rfl⟩ := locate_manifestPath_eq_ok leads
  have named := filePlace_ne_nil place resource (manifestName version)
  refine ⟨found?_eq_some.mpr (FileSystem.read_of_locate (keeps.locate leads)
    (FileSystem.node?_put_self named _)), ?_⟩
  intro other listed another differ
  apply found?_of_kept keeps (FileSystem.keepsDirectories_of_put named bytes)
  intro last leadsOther
  apply FileSystem.node?_put_of_ne
  -- Both paths lead through the same root, so that their places are told apart by their names.
  intro same
  obtain ⟨place', entered', -, rfl⟩ := locate_manifestPath_eq_ok leadsOther
  rw [entered] at entered'
  cases entered'
  obtain ⟨resources, names⟩ := filePlace_inj apart known listed same
  exact differ ⟨resources.symm, (manifestName_injective names).symm⟩

/-- What can be read after a write, told apart by the moves that were carried out. -/
inductive Leaves (cache : FileCache) (used : List String) (entry : Entry)
    (before after : FileSystem) : List (Path × Path) → Prop
  | untouched
      (same : ∀ resource version,
        cache.found? after resource version = cache.found? before resource version) :
      Leaves cache used entry before after []
  | replaced
      (new : cache.found? after entry.resource entry.version = some entry.bytes)
      (others : ∀ resource ∈ used, ∀ version,
        ¬(resource = entry.resource ∧ version = entry.version) →
        cache.found? after resource version = cache.found? before resource version) :
      Leaves cache used entry before after
        [(cache.draftPath entry.resource entry.version,
          cache.manifestPath entry.resource entry.version)]

variable {used : List String} {entry : Entry}

theorem leaves_of_rename (apart : Apart used) (known : entry.resource ∈ used)
    (other : entry.version ≠ ".")
    (same : ∀ resource version,
      cache.found? files resource version = cache.found? before resource version)
    (drafted : files.read (cache.draftPath entry.resource entry.version) = .ok entry.bytes)
    (renamed : files.rename (cache.draftPath entry.resource entry.version)
      (cache.manifestPath entry.resource entry.version) = .ok after) :
    Leaves cache used entry before after
      [(cache.draftPath entry.resource entry.version,
        cache.manifestPath entry.resource entry.version)] := by
  obtain ⟨origin, last, content, leads, leadsOn, there, plain, rfl⟩ :=
    FileSystem.rename_eq_ok renamed
  obtain rfl : content = entry.bytes := by
    rw [FileSystem.read_of_locate leads there] at drafted
    exact Except.ok.inj drafted
  rw [draftPath_eq] at leads
  obtain ⟨place, -, -, rfl⟩ :=
    FileSystem.locate_join_eq_ok (isName_draft other) leads
  have plainDraft : files.node? (place ++ [draftName entry.version]) ≠ some .directory := by
    rw [there]
    simp
  -- The draft goes before the manifest comes, and nobody can read it under any key.
  have erased := sameManifests_erase (draftName_ne entry.version) plainDraft
  have free : (files.erase (place ++ [draftName entry.version])).node? last ≠
      some .directory := by
    intro directory
    exact plain (erased.kept.directories last directory)
  obtain ⟨new, others⟩ := found?_put apart known (erased.keeps.locate leadsOn) free
  refine .replaced new ?_
  intro resource listed version differ
  rw [others resource listed version differ, erased.found?, same]

/-! ### The steps of a write -/

open Trial

instance : RunRelation FileSystem.AddsDirectories :=
  ⟨.refl, .trans⟩

instance : RunRelation SameManifests :=
  ⟨.refl, .trans⟩

theorem keeps_orCannot {related : FileSystem → FileSystem → Prop} [RunRelation related]
    {doing : String} {path : Path} {action : FileAction (StateM Trial) Unit}
    (keeps : Keeps related action) : Keeps related (orCannot entry doing path action) := by
  unfold orCannot
  refine keeps.outcome.bind ?_
  intro ending
  cases ending with
  | ok done => exact keeps_pure ()
  | error fault => exact keeps_throw _

theorem keeps_makeDirectory (cache : FileCache) (entry : Entry) :
    Keeps FileSystem.AddsDirectories (cache.runStep Trial.access entry .makeDirectory) := by
  apply keeps_orCannot
  apply keeps_makeDirectoriesWithin
  intro path
  exact keeps_atOnce fun files left made => FileSystem.addsDirectories_makeDirectory made

theorem keeps_markResource (cache : FileCache) (entry : Entry) :
    Keeps SameManifests (cache.runStep Trial.access entry .markResource) := by
  unfold runStep
  refine (keeps_answers _).bind ?_
  intro present
  split
  · exact keeps_pure ()
  · apply keeps_orCannot
    refine Keeps.bind (keeps_atOnce fun files left created => ?_) fun _ =>
      keeps_append fun files left part appended => ?_
    · exact sameManifests_create isName_marker marker_ne created
    · exact sameManifests_append isName_marker marker_ne appended

theorem keeps_createDraft (cache : FileCache) (entry : Entry) :
    Keeps SameManifests (cache.runStep Trial.access entry .createDraft) := by
  apply keeps_orCannot
  exact keeps_atOnce fun files left created => sameManifests_createDraft created

theorem keeps_fillDraft (cache : FileCache) {entry : Entry} (other : entry.version ≠ ".") :
    Keeps SameManifests (cache.runStep Trial.access entry .fillDraft) := by
  apply keeps_orCannot
  refine keeps_append fun files left part appended => ?_
  rw [draftPath_eq] at appended
  exact sameManifests_append (isName_draft other) (draftName_ne _) appended

theorem keeps_syncDraft {related : FileSystem → FileSystem → Prop}
    [RunRelation related] (cache : FileCache) (entry : Entry) :
    Keeps related (cache.runStep Trial.access entry .syncDraft) :=
  keeps_orCannot (keeps_sync _)

variable {trial left : Trial}

theorem read_of_createDraft
    (created : runFrom (cache.runStep Trial.access entry .createDraft) trial = (.ok (), left)) :
    left.files.read (cache.draftPath entry.resource entry.version) = .ok [] :=
  FileSystem.read_of_create (create_eq_ok (eq_ok_of_orCannot created))

theorem read_of_fillDraft {content : Bytes}
    (reads : trial.files.read (cache.draftPath entry.resource entry.version) = .ok content)
    (filled : runFrom (cache.runStep Trial.access entry .fillDraft) trial = (.ok (), left)) :
    left.files.read (cache.draftPath entry.resource entry.version) =
      .ok (content ++ entry.bytes) :=
  FileSystem.read_of_append reads (append_eq_ok (eq_ok_of_orCannot filled))

theorem files_of_syncDraft {ending : Except Failure Unit}
    (synced : runFrom (cache.runStep Trial.access entry .syncDraft) trial = (ending, left)) :
    left.files = trial.files := by
  have keeps : Keeps Eq (cache.runStep Trial.access entry .syncDraft) := keeps_syncDraft cache entry
  have same := keeps.files trial
  rw [synced] at same
  exact same.symm

theorem runFrom_replaceManifest_of_renamed
    (renames : runFrom (Trial.access.rename (cache.draftPath entry.resource entry.version)
      (cache.manifestPath entry.resource entry.version)) trial = (.ok (), left)) :
    runFrom (cache.runStep Trial.access entry .replaceManifest) trial = (.ok (), left) := by
  unfold runStep orCannot
  dsimp only
  rw [runFrom_bind, runFrom_outcome, runFrom_bind, runFrom_outcome, renames]
  rfl

theorem runFrom_replaceManifest_of_refused {fault : IoFault}
    (refuses : runFrom (Trial.access.rename (cache.draftPath entry.resource entry.version)
      (cache.manifestPath entry.resource entry.version)) trial = (.error fault, left)) :
    ∃ failure, runFrom (cache.runStep Trial.access entry .replaceManifest) trial =
      (.error failure,
        (runFrom (Trial.access.remove (cache.draftPath entry.resource entry.version)) left).2) := by
  refine ⟨.cacheWrite entry.resource entry.version ("cannot " ++ "replace" ++ " " ++
    (cache.manifestPath entry.resource entry.version).text ++ ": " ++ fault.message), ?_⟩
  unfold runStep orCannot
  dsimp only
  rw [runFrom_bind, runFrom_outcome, runFrom_bind, runFrom_outcome, refuses]
  dsimp only
  rw [runFrom_bind, runFrom_outcome]
  rfl

/-- How a write ends: by what it leaves, and if it returns, it has moved its draft just if it
succeeded. -/
structure Ends (cache : FileCache) (used : List String) (entry : Entry) (before : FileSystem)
    (ran : Except Failure Unit × Trial) : Prop where
  leaves : Leaves cache used entry before ran.2.files ran.2.moves
  returns : ran.2.stopped = false → (ran.1 = .ok () ↔ ran.2.moves ≠ [])

structure Prepared (cache : FileCache) (before : FileSystem) (trial : Trial) : Prop where
  same : ∀ resource version,
    cache.found? trial.files resource version = cache.found? before resource version
  unmoved : trial.moves = []

theorem Prepared.keeps (prepared : Prepared cache before trial)
    {α ε : Type} {action : ExceptT ε (StateM Trial) α} (keeps : Keeps SameManifests action) :
    Prepared cache before (runFrom action trial).2 := by
  constructor
  case same =>
      intro resource version
      rw [(keeps.files trial).found?, prepared.same]
  case unmoved => rw [keeps.moves, prepared.unmoved]

theorem Prepared.ends (prepared : Prepared cache before trial) (failure : Failure) :
    Ends cache used entry before (.error failure, trial) := by
  constructor
  case leaves =>
      rw [prepared.unmoved]
      exact .untouched prepared.same
  case returns =>
      intro _
      rw [prepared.unmoved]
      exact ⟨fun succeeds => (nomatch succeeds), fun moved => absurd rfl moved⟩

theorem keeps_removeDraft (cache : FileCache) {entry : Entry} (other : entry.version ≠ ".") :
    Keeps SameManifests (Trial.access.remove (cache.draftPath entry.resource entry.version)) := by
  refine keeps_atOnce fun files left removed => ?_
  rw [draftPath_eq] at removed
  exact sameManifests_remove (isName_draft other) (draftName_ne _) removed

theorem ends_replaceManifest (apart : Apart used) (known : entry.resource ∈ used)
    (other : entry.version ≠ ".")
    (prepared : Prepared cache before trial)
    (drafted : trial.files.read (cache.draftPath entry.resource entry.version) =
      .ok entry.bytes) :
    Ends cache used entry before
      (runFrom (cache.runStep Trial.access entry .replaceManifest) trial) := by
  have ways := rename_moves (cache.draftPath entry.resource entry.version)
    (cache.manifestPath entry.resource entry.version) trial
  rcases renames : runFrom (Trial.access.rename (cache.draftPath entry.resource entry.version)
    (cache.manifestPath entry.resource entry.version)) trial with ⟨ending, left⟩
  rw [renames] at ways
  dsimp only at ways
  cases ways with
  | carriedOut renamed moves =>
      rw [prepared.unmoved, List.nil_append] at moves
      rw [runFrom_replaceManifest_of_renamed renames]
      constructor
      case leaves =>
          rw [moves]
          exact leaves_of_rename apart known other prepared.same drafted renamed
      case returns =>
          intro _
          rw [moves]
          exact ⟨fun _ => List.cons_ne_nil _ _, fun _ => rfl⟩
  | unseen renamed moves stopped =>
      rw [prepared.unmoved, List.nil_append] at moves
      -- The process has stopped, so that the draft is not removed either.
      obtain ⟨failure, fails⟩ := runFrom_replaceManifest_of_refused renames
      rw [fails, runFrom_remove_of_stopped stopped]
      constructor
      case leaves =>
          rw [moves]
          exact leaves_of_rename apart known other prepared.same drafted renamed
      case returns =>
          intro running
          rw [stopped] at running
          cases running
  | refused files moves =>
      have still : Prepared cache before left := by
        constructor
        case same =>
            rw [files]
            exact prepared.same
        case unmoved => rw [moves, prepared.unmoved]
      obtain ⟨failure, fails⟩ := runFrom_replaceManifest_of_refused renames
      rw [fails]
      exact (still.keeps (keeps_removeDraft cache other)).ends failure

theorem ends_forM_cons {step : WriteStep} {rest : List WriteStep}
    (prepared : Prepared cache before (runFrom (cache.runStep Trial.access entry step) trial).2)
    (later : ∀ left, runFrom (cache.runStep Trial.access entry step) trial = (.ok (), left) →
      Prepared cache before left →
      Ends cache used entry before
        (runFrom (rest.forM (cache.runStep Trial.access entry)) left)) :
    Ends cache used entry before
      (runFrom ((step :: rest).forM (cache.runStep Trial.access entry)) trial) := by
  change Ends cache used entry before (runFrom (cache.runStep Trial.access entry step >>=
    fun _ => rest.forM (cache.runStep Trial.access entry)) trial)
  rw [runFrom_bind]
  rcases ran : runFrom (cache.runStep Trial.access entry step) trial with ⟨ending, left⟩
  rw [ran] at prepared
  cases ending with
  | ok done => exact later left ran prepared
  | error failure => exact prepared.ends failure

theorem runFrom_forM_singleton (step : WriteStep) :
    runFrom ([step].forM (cache.runStep Trial.access entry)) trial =
      runFrom (cache.runStep Trial.access entry step) trial := by
  change runFrom (cache.runStep Trial.access entry step >>= fun _ => pure ()) trial = _
  rw [runFrom_bind]
  rcases runFrom (cache.runStep Trial.access entry step) trial with ⟨ending, left⟩
  cases ending with
  | ok done => rfl
  | error failure => rfl

theorem ends_draft (apart : Apart used) (known : entry.resource ∈ used)
    (prepared : Prepared cache before trial) :
    Ends cache used entry before
      (runFrom ([.createDraft, .fillDraft, .syncDraft, .replaceManifest].forM
        (cache.runStep Trial.access entry)) trial) := by
  refine ends_forM_cons (prepared.keeps (keeps_createDraft cache entry)) ?_
  intro created creates prepared
  have other := version_ne_of_createDraft (create_eq_ok (eq_ok_of_orCannot creates))
  have empty := read_of_createDraft creates
  refine ends_forM_cons (prepared.keeps (keeps_fillDraft cache other)) ?_
  intro filled fills prepared
  have full := read_of_fillDraft empty fills
  refine ends_forM_cons (prepared.keeps (keeps_syncDraft cache entry)) ?_
  intro synced syncs prepared
  rw [← files_of_syncDraft syncs] at full
  rw [runFrom_forM_singleton]
  exact ends_replaceManifest apart known other prepared full

/-- A write is atomic, whatever goes wrong in it and wherever the process stops. Unless the draft
was moved, every key reads as before; once it was, its key reads as the new bytes and every other
key as before. A write that returns has moved the draft if and only if it succeeded. -/
theorem write_atomic (cache : FileCache) (entry : Entry) {files : FileSystem} {used : List String}
    (wellFormed : files.WellFormed) (straight : files.Straight cache.root) (apart : Apart used)
    (known : entry.resource ∈ used) (fates : List Fate) :
    let ran := runFrom (cache.write Trial.access entry) { files, fates }
    Leaves cache used entry files ran.2.files ran.2.moves ∧
      (ran.2.stopped = false → (ran.1 = .ok () ↔ ran.2.moves ≠ [])) := by
  intro ran
  have makes := keeps_makeDirectory cache entry
  have made : Prepared cache files
      (runFrom (cache.runStep Trial.access entry .makeDirectory) { files, fates }).2 :=
    ⟨found?_of_addsDirectories (makes.files { files, fates }) wellFormed straight,
      makes.moves { files, fates }⟩
  have ends : Ends cache used entry files ran := by
    refine ends_forM_cons made ?_
    intro housed houses prepared
    refine ends_forM_cons (prepared.keeps (keeps_markResource cache entry)) ?_
    intro marked marks prepared
    exact ends_draft apart known prepared
  exact ⟨ends.leaves, ends.returns⟩

/-! ### Roots that step up -/

def stocked (top : String) : FileSystem :=
  ((({} : FileSystem).put [top] .directory).put [top, resourceDigest "pkg"] .directory).put
    [top, resourceDigest "pkg", manifestName "1.0"] (.file [1])

theorem node?_stocked (top : String) :
    (stocked top).node? [top, resourceDigest "pkg"] = some .directory := by
  unfold stocked
  rw [FileSystem.node?_put_of_ne (by simp), FileSystem.node?_put_self (List.cons_ne_nil _ _)]

theorem wellFormed_stocked (top : String) : (stocked top).WellFormed := by
  have root : (({} : FileSystem).put [top] .directory).WellFormed :=
    @FileSystem.WellFormed.put _ [] top _ FileSystem.wellFormed_empty rfl (.inl rfl)
  have house := @FileSystem.WellFormed.put _ [top] (resourceDigest "pkg") .directory root
    (FileSystem.node?_put_self (List.cons_ne_nil _ _) _) (.inl rfl)
  refine @FileSystem.WellFormed.put _ [top, resourceDigest "pkg"] (manifestName "1.0") _ house
    (FileSystem.node?_put_self (List.cons_ne_nil _ _) _) (.inr ?_)
  intro taken
  rw [FileSystem.node?_put_of_ne (by simp), FileSystem.node?_put_of_ne (by simp),
    FileSystem.node?_of_ne_nil (List.concat_ne_nil _ _)] at taken
  cases taken

def diskFull : List Fate :=
  List.replicate 6 .carriedOut ++ [.fails 1 (.reported .other "no space left")]

/-- The old manifest stays where a new one could not be written. -/
theorem write_atomic_disk_full :
    let cache : FileCache := { root := { text := "/cache" } }
    let entry : Entry := { resource := "pkg", version := "1.0", bytes := [2, 3] }
    let ran := runFrom (cache.write Trial.access entry)
      { files := stocked "cache", fates := diskFull }
    (stocked "cache").WellFormed ∧ (stocked "cache").Straight cache.root ∧ Apart ["pkg"] ∧
      Leaves cache ["pkg"] entry (stocked "cache") ran.2.files ran.2.moves ∧
      ran.1.isOk = false ∧ ran.2.moves = [] ∧
      cache.found? ran.2.files "pkg" "1.0" = some [1] := by
  have wellFormed := wellFormed_stocked "cache"
  have straight : (stocked "cache").Straight { text := "/cache" } :=
    FileSystem.straight_of_not_mem (by decide)
  have apart : Apart ["pkg"] := by simp [Apart]
  have atomic := write_atomic { root := { text := "/cache" } }
    { resource := "pkg", version := "1.0", bytes := [2, 3] } wellFormed straight apart
    List.mem_cons_self diskFull
  exact ⟨wellFormed, straight, apart, atomic.1, by decide +kernel⟩

/-- Where the way to the root steps up out of a missing directory, the making of that directory
opens the way, so that even a write that fails can bring an old manifest to light. -/
theorem found?_after_failed_write :
    let cache : FileCache := { root := { text := "gone/../shelf" } }
    let entry : Entry := { resource := "pkg", version := "2.0", bytes := [2] }
    let files := (stocked "shelf").put ["shelf", resourceDigest "pkg", draftName "2.0"] .directory
    let ran := runFrom (cache.write Trial.access entry) { files }
    files.WellFormed ∧ Apart ["pkg"] ∧
      ran.1.isOk = false ∧ ran.2.stopped = false ∧ ran.2.moves = [] ∧
      cache.found? files "pkg" "1.0" = none ∧ cache.found? ran.2.files "pkg" "1.0" = some [1] := by
  have wellFormed := @FileSystem.WellFormed.put _ ["shelf", resourceDigest "pkg"]
    (draftName "2.0") .directory (wellFormed_stocked "shelf") (node?_stocked "shelf") (.inl rfl)
  exact ⟨wellFormed, by simp [Apart], by decide +kernel⟩

end Courier.FileCache
