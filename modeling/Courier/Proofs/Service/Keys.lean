import Courier.Proofs.Service.Course
import Courier.Proofs.World
/-!
The keys of the cache over whole runs of a service. A manifest is looked up under the name and the
version of a call and stored under its own, and the two still go together: what is stored under a
version always spells a manifest of that version. Main statement: after any operations, every entry
of the cache can be read and has the version of its key, and a download asks the archive if and only
if nothing was stored under its name and version.
-/

namespace Courier

variable {σ : Type}

namespace World

def asks (world : World σ) : List (String × String) :=
  world.events.filterMap fun
    | .asked name version _ => some (name, version)
    | .filed _ _ _ => none

theorem Agrees.asks {before after : World σ} (agrees : Agrees before after) :
    after.asks = before.asks := by
  unfold World.asks
  rw [agrees.events]

theorem Fetched.asks {name version : String} {before after : World σ}
    {ending : Except Failure ResolvedManifest}
    (fetched : Fetched name version before ending after) :
    after.asks = before.asks ++ [(name, version)] := by
  unfold World.asks
  cases fetched with
  | refused unread events cache =>
      rw [events, List.filterMap_append]
      rfl
  | filed spelled events cache =>
      rw [events, List.filterMap_append]
      rfl

def HasStored (world : World σ) (resource version : String) : Prop :=
  ∃ bytes, Event.filed resource version bytes ∈ world.events

/-- Every entry of the cache spells a manifest of the version of its key, and there is one just
where something was stored. -/
structure Coherent (world : World σ) : Prop where
  entries : ∀ resource version bytes, world.cache.get? resource version = some bytes →
    ∃ manifest, Manifest.parse bytes = .ok manifest ∧ manifest.version = version
  stored : ∀ resource version,
    (∃ bytes, world.cache.get? resource version = some bytes) ↔ world.HasStored resource version

theorem coherent_start (outside : σ) : (start outside).Coherent := by
  have empty : ∀ resource version, (start outside).cache.get? resource version = none :=
    MemoryCache.get?_empty
  constructor
  · intro resource version bytes found
    rw [empty] at found
    cases found
  · intro resource version
    rw [empty]
    constructor
    · rintro ⟨bytes, found⟩
      cases found
    · rintro ⟨bytes, member⟩
      cases member

theorem Coherent.of_agrees {before after : World σ} (coherent : before.Coherent)
    (agrees : Agrees before after) : after.Coherent := by
  constructor
  · rw [agrees.cache]
    exact coherent.entries
  · unfold HasStored
    rw [agrees.cache, agrees.events]
    exact coherent.stored

theorem hasStored_of_events {before after : World σ} {name version filed named : String}
    {answered : Except Failure Bytes} {bytes : Bytes}
    (events : after.events =
      before.events ++ [.asked name version answered, .filed filed named bytes])
    (resource other : String) :
    after.HasStored resource other ↔
      before.HasStored resource other ∨ (filed = resource ∧ named = other) := by
  unfold HasStored
  rw [events]
  constructor
  · rintro ⟨content, member⟩
    rcases List.mem_append.mp member with early | late
    · exact .inl ⟨content, early⟩
    · obtain ⟨resources, versions, -⟩ :
          resource = filed ∧ other = named ∧ content = bytes := by simpa using late
      exact .inr ⟨resources.symm, versions.symm⟩
  · rintro (⟨content, early⟩ | ⟨rfl, rfl⟩)
    · exact ⟨content, List.mem_append_left _ early⟩
    · exact ⟨bytes, by simp⟩

theorem Coherent.of_fetched {before after : World σ} {name version : String}
    {ending : Except Failure ResolvedManifest} (coherent : before.Coherent)
    (fetched : Fetched name version before ending after) : after.Coherent := by
  cases fetched with
  | refused unread events cache =>
      constructor
      · rw [cache]
        exact coherent.entries
      · intro resource version
        rw [cache, coherent.stored]
        unfold HasStored
        rw [events]
        simp
  | @filed bytes manifest stored _ spelled events cache =>
      constructor
      · intro resource version content found
        rw [cache, MemoryCache.get?_insert] at found
        split at found
        · next key =>
            cases found
            exact ⟨manifest, spelled, key.2⟩
        · exact coherent.entries resource version content found
      · intro resource version
        rw [cache, MemoryCache.get?_insert, hasStored_of_events events, ← coherent.stored]
        by_cases key : stored = resource ∧ manifest.version = version
        · rw [if_pos key]
          exact ⟨fun _ => .inr key, fun _ => ⟨bytes, rfl⟩⟩
        · rw [if_neg key]
          constructor
          · intro found
            exact .inl found
          · rintro (found | same)
            · exact found
            · exact absurd same key

theorem Coherent.held {world : World σ} (coherent : world.Coherent) (resource version : String) :
    (∃ manifest, World.held world.cache resource version = .ok manifest ∧
        manifest.version = version ∧ world.HasStored resource version) ∨
      (World.held world.cache resource version = .error (.cacheMiss resource version) ∧
        ¬ world.HasStored resource version) := by
  unfold World.held
  rw [← coherent.stored]
  cases found : world.cache.get? resource version with
  | none =>
      refine .inr ⟨rfl, ?_⟩
      rintro ⟨bytes, same⟩
      cases same
  | some bytes =>
      obtain ⟨manifest, spelled, named⟩ := coherent.entries resource version bytes found
      exact .inl ⟨manifest, spelled, named, bytes, rfl⟩

/-- What an artifact's download does to a world: it fetches the manifest if and only if none can be
read from the cache. -/
inductive Downloads (name version : String) (before after : World σ) : Prop
  | cached {manifest : Manifest} (found : World.held before.cache name version = .ok manifest)
      (agrees : Agrees before after)
  | fetched {cause : Failure} {ending : Except Failure ResolvedManifest}
      (missed : World.held before.cache name version = .error cause)
      (fetches : Fetched name version before ending after)

theorem Downloads.of_agrees {name version : String} {before start left after : World σ}
    (early : Agrees before start) (downloads : Downloads name version start left)
    (late : Agrees left after) : Downloads name version before after := by
  cases downloads with
  | cached found agrees =>
      rw [early.cache] at found
      exact .cached found ((early.trans agrees).trans late)
  | fetched missed fetches =>
      rw [early.cache] at missed
      exact .fetched missed (fetches.of_agrees early late)

variable (parts : Service (StateM σ)) (tracer : StateM σ Int64)

theorem agrees_search (manifest : Manifest) (world : World σ) :
    Agrees world (runFrom ((service parts).search manifest) world).2 := by
  rw [Service.runFrom_search]
  exact agrees_venture parts.collect world

theorem downloads_of_fetch {name version : String} {before missed left : World σ} {cause : Failure}
    {ending : Except Failure ResolvedManifest}
    (unheld : runFrom ((service parts).store.cached name version) before = (.error cause, missed))
    (fetches : runFrom ((service parts).store.fetch name version) (tick (abroad tracer) missed) =
      (ending, left)) :
    Downloads name version before (tick (abroad tracer) left) := by
  change runFrom ((store parts.archive).cached name version) before = _ at unheld
  change runFrom ((store parts.archive).fetch name version) _ = _ at fetches
  have fetched := fetch_fetched parts.archive name version (tick (abroad tracer) missed)
  rw [runFrom_cached] at unheld
  rw [fetches] at fetched
  obtain ⟨reads, same⟩ := Prod.mk.inj unheld
  rw [← same] at fetched
  exact .fetched reads (fetched.of_agrees (agrees_tick tracer before) (agrees_tick tracer left))

theorem downloads_of_supplies {name version : String} {before after : World σ}
    {manifest : Manifest}
    (supplies : (service parts).Supplies (abroad tracer) name version before manifest after) :
    Downloads name version before after := by
  cases supplies with
  | fetched unheld fetches => exact downloads_of_fetch parts tracer unheld fetches
  | cached found =>
      change runFrom ((store parts.archive).cached name version) before = _ at found
      rw [runFrom_cached] at found
      obtain ⟨reads, same⟩ := Prod.mk.inj found
      rw [← same]
      exact .cached reads (.refl before)

theorem downloads_of_selects {name version : String} {before after : World σ}
    {found : Except Failure ResolvedFile}
    (selects : (service parts).Selects (abroad tracer) name version before found after) :
    Downloads name version before after := by
  cases selects with
  | unsupplied unheld fetches => exact downloads_of_fetch parts tracer unheld fetches
  | @searched manifest _ supplied left supplies searches =>
      have agrees := agrees_search parts manifest (tick (abroad tracer) supplied)
      rw [searches] at agrees
      exact (downloads_of_supplies parts tracer supplies).of_agrees (.refl before)
        (((agrees_tick tracer supplied).trans agrees).trans (agrees_tick tracer left))

theorem agrees_located {file : ResolvedFile} {name version : String} {decided located : World σ}
    {place : Except Failure String}
    (locates : runFrom ((service parts).archive.location file name version)
      (tick (abroad tracer) (tick (abroad tracer) decided)) = (place, located)) :
    Agrees decided located := by
  have reached := agrees_venture (parts.archive.location file name version)
    (tick (abroad tracer) (tick (abroad tracer) decided))
  change runFrom (venture (parts.archive.location file name version)) _ = _ at locates
  rw [locates] at reached
  exact ((agrees_tick tracer decided).trans (agrees_tick tracer _)).trans reached

theorem agrees_downloaded {request : DownloadRequest} {located left : World σ}
    {ending : Except Failure Path}
    (downloads : runFrom ((service parts).download request) located = (ending, left)) :
    Agrees located (tick (abroad tracer) left) := by
  have reached := agrees_venture (parts.download request) located
  change runFrom (venture (parts.download request)) _ = _ at downloads
  rw [downloads] at reached
  exact reached.trans (agrees_tick tracer left)

theorem agrees_of_proceeds {name version : String} {decided after : World σ}
    {found : Except Failure ResolvedFile} {ending : Except Failure Path}
    (proceeds : (service parts).Proceeds (abroad tracer) name version decided found ending after) :
    Agrees decided after := by
  cases proceeds with
  | undecided => exact agrees_tick tracer decided
  | unlocated locates => exact (agrees_located parts tracer locates).trans (agrees_tick tracer _)
  | undelivered locates downloads =>
      exact (agrees_located parts tracer locates).trans (agrees_downloaded parts tracer downloads)
  | unplaced locates downloads nowhere =>
      exact (agrees_located parts tracer locates).trans (agrees_downloaded parts tracer downloads)
  | delivered locates downloads somewhere =>
      exact (agrees_located parts tracer locates).trans (agrees_downloaded parts tracer downloads)

/-- The download of an artifact does nothing to a world but fetch a manifest that it needs. -/
theorem downloadArtifact_downloads (name version : String) (trace : Trace) (world : World σ) :
    Downloads name version world
      (runTraced ((service parts).downloadArtifact (abroad tracer) name version) trace
        world).2.2 := by
  obtain ⟨found, decided, selects, proceeds⟩ :=
    ((service parts).downloadArtifact_course (abroad tracer) name version trace world).decides
  exact (downloads_of_selects parts tracer selects).of_agrees (agrees_tick tracer world)
    (agrees_of_proceeds parts tracer proceeds)

theorem downloadManifest_fetched (name version : String) (trace : Trace) (world : World σ) :
    ∃ ending, Fetched name version world ending
      (runTraced ((service parts).downloadManifest (abroad tracer) name version) trace
        world).2.2 := by
  have fetched := resolve_fetched parts.archive tracer name version trace world
  unfold Service.downloadManifest
  rw [runTraced_bind]
  exact ⟨_, fetched⟩

/-- A traced action that leaves the cache and the memory of the world alone. -/
def Harmless {α : Type} (action : Traced (StateM (World σ)) α) : Prop :=
  ∀ trace world, Agrees world (runTraced action trace world).2.2

theorem Harmless.bind {α β : Type} {action : Traced (StateM (World σ)) α}
    {next : α → Traced (StateM (World σ)) β} (first : Harmless action)
    (later : ∀ value, Harmless (next value)) : Harmless (action >>= next) := by
  intro trace world
  rw [runTraced_bind]
  exact (first trace world).trans (later _ _ _)

theorem harmless_pure {α : Type} (value : α) :
    Harmless (pure value : Traced (StateM (World σ)) α) :=
  fun _ world => .refl world

theorem harmless_abroad {α : Type} (action : StateM σ α) :
    Harmless (liftM (abroad action) : Traced (StateM (World σ)) α) :=
  fun _ world => agrees_abroad action world

theorem harmless_openSection (operation : String) :
    Harmless (openSection (abroad tracer) operation) :=
  fun _ world => agrees_abroad tracer world

theorem harmless_closeSection (step : TraceSection) :
    Harmless (closeSection (abroad tracer) step) :=
  fun _ world => agrees_abroad tracer world

theorem harmless_submission (result : PackageResult) (host : HostEnvironment)
    (step : TraceSection) :
    Harmless (do
      let now ← liftM (service parts).clock
      match ← liftM ((service parts).submit (result.report host now)).run with
      | .ok () =>
        closeSection (abroad tracer) step
        return .ok ()
      | .error cause =>
        let failure : Failure := .reportSubmission cause.message
        closeSection (abroad tracer) (step.fail failure.message)
        return .error failure : Traced (StateM (World σ)) (Except Failure Unit)) := by
  refine (harmless_abroad parts.clock).bind fun now => ?_
  refine (harmless_abroad (parts.submit (result.report host now)).run).bind fun answer => ?_
  cases answer with
  | ok done => exact (harmless_closeSection tracer step).bind fun _ => harmless_pure _
  | error cause => exact (harmless_closeSection tracer _).bind fun _ => harmless_pure _

theorem harmless_report (result : PackageResult) :
    Harmless ((service parts).report (abroad tracer) result) := by
  unfold Service.report Reporter.report
  refine (harmless_openSection tracer "report result").bind fun step => ?_
  refine (harmless_abroad parts.collect.run).bind fun described => ?_
  have submits := harmless_submission parts tracer result
  cases described with
  | ok host => exact (harmless_pure (host, step)).bind fun _ => submits _ _
  | error cause => exact (harmless_pure _).bind fun _ => submits _ _

end World

/-! ### Runs -/

inductive Operation where
  | downloadManifest (name version : String)
  | downloadArtifact (name version : String)
  | report (result : PackageResult)

def Operation.perform {m : Type → Type} [Monad m] (service : Service m) (tracer : m Int64) :
    Operation → Traced m Unit
  | downloadManifest name version => do
    let _ ← service.downloadManifest tracer name version
  | downloadArtifact name version => do
    let _ ← service.downloadArtifact tracer name version
  | report result => do
    let _ ← service.report tracer result

namespace World

variable (parts : Service (StateM σ)) (tracer : StateM σ Int64)

def afterAll (operations : List Operation) (trace : Trace) (world : World σ) : World σ :=
  (runTraced (operations.forM (Operation.perform (service parts) (abroad tracer))) trace
    world).2.2

/-- What is kept by every fetch and by all that leaves cache and memory of a world alone. -/
structure Kept (kept : World σ → Prop) : Prop where
  agrees : ∀ {before after : World σ}, kept before → Agrees before after → kept after
  fetched : ∀ {name version : String} {before after : World σ}
    {ending : Except Failure ResolvedManifest},
    kept before → Fetched name version before ending after → kept after

theorem Kept.perform {kept : World σ → Prop} (keeps : Kept kept) {world : World σ}
    (now : kept world) (operation : Operation) (trace : Trace) :
    kept (runTraced (operation.perform (service parts) (abroad tracer)) trace world).2.2 := by
  cases operation with
  | downloadManifest name version =>
      obtain ⟨ending, fetched⟩ := downloadManifest_fetched parts tracer name version trace world
      exact keeps.fetched now fetched
  | downloadArtifact name version =>
      cases downloadArtifact_downloads parts tracer name version trace world with
      | cached found agrees => exact keeps.agrees now agrees
      | fetched missed fetches => exact keeps.fetched now fetches
  | report result => exact keeps.agrees now (harmless_report parts tracer result trace world)

theorem Kept.afterAll {kept : World σ → Prop} (keeps : Kept kept) {world : World σ}
    (now : kept world) (operations : List Operation) (trace : Trace) :
    kept (World.afterAll parts tracer operations trace world) := by
  induction operations generalizing trace world with
  | nil => exact now
  | cons operation rest ih => exact ih (keeps.perform parts tracer now operation trace) _

theorem coherent_kept : Kept (Coherent : World σ → Prop) :=
  ⟨Coherent.of_agrees, Coherent.of_fetched⟩

theorem Coherent.afterAll {world : World σ} (coherent : world.Coherent)
    (operations : List Operation) (trace : Trace) :
    (World.afterAll parts tracer operations trace world).Coherent :=
  coherent_kept.afterAll parts tracer coherent operations trace

/-- A download asks the archive for a manifest if and only if nothing was stored under exactly its
name and version, and asks for nothing else. -/
theorem asks_downloadArtifact {world : World σ} (coherent : world.Coherent)
    (name version : String) (trace : Trace) :
    let after := (runTraced ((service parts).downloadArtifact (abroad tracer) name version) trace
      world).2.2
    (world.HasStored name version → after.asks = world.asks) ∧
      (¬ world.HasStored name version → after.asks = world.asks ++ [(name, version)]) := by
  intro after
  have downloads := downloadArtifact_downloads parts tracer name version trace world
  rcases coherent.held name version with ⟨manifest, held, -, stored⟩ | ⟨unheld, unstored⟩
  · refine ⟨fun _ => ?_, fun without => absurd stored without⟩
    cases downloads with
    | cached found agrees => exact agrees.asks
    | fetched missed fetches =>
        rw [held] at missed
        cases missed
  · refine ⟨fun within => absurd within unstored, fun _ => ?_⟩
    cases downloads with
    | cached found agrees =>
        rw [unheld] at found
        cases found
    | fetched missed fetches => exact fetches.asks

/-- After any operations on a cache that was empty, every entry spells a manifest of the version of
its key, so that looking up a key gives such a manifest or a miss; and the download of an artifact
asks the archive if and only if nothing was stored under its name and version. -/
theorem keys_coherent (operations : List Operation) (trace : Trace) (outside : σ) :
    let world := afterAll parts tracer operations trace (start outside)
    (∀ resource version bytes, world.cache.get? resource version = some bytes →
      ∃ manifest, Manifest.parse bytes = .ok manifest ∧ manifest.version = version) ∧
    (∀ resource version,
      match (runFrom ((service parts).store.cached resource version) world).1 with
      | .ok manifest => manifest.version = version
      | .error failure => failure = .cacheMiss resource version) ∧
    ∀ name version noted,
      let after := (runTraced ((service parts).downloadArtifact (abroad tracer) name version)
        noted world).2.2
      (world.HasStored name version → after.asks = world.asks) ∧
        (¬ world.HasStored name version → after.asks = world.asks ++ [(name, version)]) := by
  intro world
  have coherent : world.Coherent :=
    (coherent_start outside).afterAll parts tracer operations trace
  refine ⟨coherent.entries, ?_, ?_⟩
  · intro resource version
    change match (runFrom ((store parts.archive).cached resource version) world).1 with
      | .ok manifest => manifest.version = version
      | .error failure => failure = .cacheMiss resource version
    rw [runFrom_cached]
    rcases coherent.held resource version with ⟨manifest, found, named, -⟩ | ⟨missed, -⟩
    · rw [found]
      exact named
    · rw [missed]
  · intro name version noted
    exact asks_downloadArtifact parts tracer coherent name version noted

end World

end Courier
