import Courier.Archive.Repository
import Courier.Proofs.Service.Keys
/-!
Downloads of the newest version over whole runs of a service. The version that asks for it is a key
of the cache like any other, and it is the key of every manifest that calls itself so. Main
statement: a download of the newest version fetches a manifest and works with that one, unless a
manifest that the archive answered with earlier was stored under the package's name and the version
`latest`; then it works with the stored one and does not ask.
-/

namespace Courier

variable {σ : Type}

namespace World

/-- The archive once answered with whatever is in the cache. -/
def Answered (world : World σ) : Prop :=
  ∀ resource version bytes, world.cache.get? resource version = some bytes →
    ∃ asker asked, Event.asked asker asked (.ok bytes) ∈ world.events

theorem answered_start (outside : σ) : (start outside).Answered := by
  intro resource version bytes found
  have empty : (start outside).cache.get? resource version = none :=
    MemoryCache.get?_empty resource version
  rw [empty] at found
  cases found

theorem answered_kept : Kept (Answered : World σ → Prop) := by
  constructor
  · intro before after answered agrees
    unfold Answered
    rw [agrees.cache, agrees.events]
    exact answered
  · intro name version before after ending answered fetched resource other bytes found
    cases fetched with
    | refused unread events cache =>
        rw [cache] at found
        obtain ⟨asker, asked, member⟩ := answered resource other bytes found
        rw [events]
        exact ⟨asker, asked, List.mem_append_left _ member⟩
    | filed spelled events cache =>
        rw [events]
        rw [cache, MemoryCache.get?_insert] at found
        split at found
        · cases found
          exact ⟨name, version, by simp⟩
        · obtain ⟨asker, asked, member⟩ := answered resource other bytes found
          exact ⟨asker, asked, List.mem_append_left _ member⟩

variable (parts : Service (StateM σ)) (tracer : StateM σ Int64)

theorem runFrom_store_cached (name version : String) (world : World σ) :
    runFrom ((service parts).store.cached name version) world =
      (held world.cache name version, world) :=
  runFrom_cached parts.archive name version world

theorem agrees_of_worksWith {name version : String} {manifest : Manifest}
    {supplied after : World σ} {ending : Except Failure Path}
    (works : (service parts).WorksWith (abroad tracer) name version manifest supplied ending
      after) :
    Agrees supplied after := by
  have searched := agrees_search parts manifest (tick (abroad tracer) supplied)
  have left := ((agrees_tick tracer supplied).trans searched).trans (agrees_tick tracer _)
  exact left.trans (agrees_of_proceeds parts tracer works)

theorem worksWith_of_held {world : World σ} {name version : String} {manifest : Manifest}
    (found : held world.cache name version = .ok manifest) (trace : Trace) :
    let ended := runTraced ((service parts).downloadArtifact (abroad tracer) name version) trace
      world
    Agrees world ended.2.2 ∧
      (service parts).WorksWith (abroad tracer) name version manifest (tick (abroad tracer) world)
        ended.1 ended.2.2 := by
  intro ended
  have holds : runFrom ((service parts).store.cached name version) (tick (abroad tracer) world) =
      (.ok manifest, tick (abroad tracer) world) := by
    rw [runFrom_store_cached]
    exact congrArg (·, tick (abroad tracer) world) found
  have works := ((service parts).downloadArtifact_course (abroad tracer) name version trace
    world).worksWith_of_held holds
  exact ⟨(agrees_tick tracer world).trans (agrees_of_worksWith parts tracer works), works⟩

/-- How a download goes that finds no manifest in the cache. It fetches one, once, and works with
that or fails as the fetch did. -/
inductive Renews (name version : String) (before : World σ) : Except Failure Path → World σ → Prop
  | refused {failure : Failure} {supplied after : World σ}
      (fetched : Fetched name version before (.error failure) supplied)
      (agrees : Agrees supplied after) :
      Renews name version before (.error failure) after
  | supplied {resolved : ResolvedManifest} {ending : Except Failure Path}
      {supplied after : World σ}
      (fetched : Fetched name version before (.ok resolved) supplied)
      (works : (service parts).WorksWith (abroad tracer) name version resolved.manifest supplied
        ending after)
      (agrees : Agrees supplied after) :
      Renews name version before ending after

theorem renews_of_missed {world : World σ} {name version : String} {cause : Failure}
    (missed : held world.cache name version = .error cause) (trace : Trace) :
    let ended := runTraced ((service parts).downloadArtifact (abroad tracer) name version) trace
      world
    Renews parts tracer name version world ended.1 ended.2.2 := by
  intro ended
  have unheld : runFrom ((service parts).store.cached name version) (tick (abroad tracer) world) =
      (.error cause, tick (abroad tracer) world) := by
    rw [runFrom_store_cached]
    exact congrArg (·, tick (abroad tracer) world) missed
  have fetched := fetch_fetched parts.archive name version
    (tick (abroad tracer) (tick (abroad tracer) world))
  rcases fetches : runFrom ((store parts.archive).fetch name version)
    (tick (abroad tracer) (tick (abroad tracer) world)) with ⟨answer, left⟩
  rw [fetches] at fetched
  have supplied : Fetched name version world answer (tick (abroad tracer) left) :=
    fetched.of_agrees ((agrees_tick tracer world).trans (agrees_tick tracer _))
      (agrees_tick tracer left)
  have ends := ((service parts).downloadArtifact_course (abroad tracer) name version trace
    world).ends_of_unheld unheld fetches
  cases answer with
  | error failure =>
      obtain ⟨ending, after⟩ := ends
      change ended.1 = _ at ending
      change ended.2.2 = _ at after
      rw [ending, after]
      exact .refused supplied (agrees_tick tracer _)
  | ok resolved => exact .supplied supplied ends (agrees_of_worksWith parts tracer ends)

/-- After any operations on a cache that was empty, a download of the newest version of a package
to which nothing is stored under that version asks the archive, once, and works with the manifest
that the archive answers with. Otherwise it asks for none and works with what is stored, which is a
manifest that the archive answered with earlier and that calls itself by that version. -/
theorem newest_fetched_unless_stored (operations : List Operation) (trace noted : Trace)
    (outside : σ) (name : String) :
    let world := afterAll parts tracer operations trace (start outside)
    let ended := runTraced ((service parts).downloadArtifact (abroad tracer) name latestVersion)
      noted world
    (¬ world.HasStored name latestVersion →
      Renews parts tracer name latestVersion world ended.1 ended.2.2) ∧
    (world.HasStored name latestVersion →
      Agrees world ended.2.2 ∧
      ∃ bytes manifest, world.cache.get? name latestVersion = some bytes ∧
        (∃ asker asked, Event.asked asker asked (.ok bytes) ∈ world.events) ∧
        Manifest.parse bytes = .ok manifest ∧ manifest.version = latestVersion ∧
        (service parts).WorksWith (abroad tracer) name latestVersion manifest
          (tick (abroad tracer) world) ended.1 ended.2.2) := by
  intro world ended
  have coherent : world.Coherent :=
    (coherent_start outside).afterAll parts tracer operations trace
  have answered : world.Answered :=
    answered_kept.afterAll parts tracer (answered_start outside) operations trace
  constructor
  · intro unstored
    rcases coherent.held name latestVersion with ⟨manifest, -, -, stored⟩ | ⟨missed, -⟩
    · exact absurd stored unstored
    · exact renews_of_missed parts tracer missed noted
  · intro stored
    obtain ⟨bytes, found⟩ := (coherent.stored name latestVersion).mpr stored
    obtain ⟨manifest, spelled, named⟩ := coherent.entries name latestVersion bytes found
    have holds : held world.cache name latestVersion = .ok manifest := by
      unfold held
      rw [found]
      exact spelled
    obtain ⟨agrees, works⟩ := worksWith_of_held parts tracer holds noted
    exact ⟨agrees, bytes, manifest, found, answered name latestVersion bytes found, spelled, named,
      works⟩

/-- What an archive of repository manifests remembers, and what its control plane will answer with,
one text after the other. -/
structure Issues where
  memory : RepositoryMemory := {}
  texts : List String

instance : MonadStateOf RepositoryMemory (StateM Issues) where
  get issues := (issues.memory, issues)
  set memory issues := ((), { issues with memory })
  modifyGet change issues :=
    let (value, memory) := change issues.memory
    (value, { issues with memory })

def Issues.plane : ControlPlane (StateM Issues) where
  getManifest name version := ExceptT.mk fun issues =>
    match issues.texts with
    | [] => (.error (.backend name version "not found"), issues)
    | manifest :: texts => (.ok { manifest }, { issues with texts })
  getDocument name version := throw (.backend name version "not found")

def Issues.collaborators : Service (StateM Issues) where
  archive := plane.repositoryArchive none
  cache :=
    { read := fun resource version => throw (.cacheMiss resource version)
      write := fun _ _ _ => return () }
  collect := return {}
  download request := return ⟨request.sourceUrl⟩
  submit _ := return ()
  clock := return 0

def issueAt (version address : String) : String :=
  "\x7b\"version\":\"" ++ version ++ "\",\"packages\":\x7b\"_any\":\x7b\"_any\":\x7b\"_any\":" ++
    "\x7b\"file\":\"a\"\x7d\x7d\x7d\x7d,\"files\":\x7b\"a\":\x7b\"downloadLocation\":\"" ++ address ++
    "\"\x7d\x7d\x7d"

/-- A manifest of the version `latest` stays the newest one for good: the one that is issued after
it is never asked for. -/
theorem newest_not_fetched :
    let world := afterAll Issues.collaborators (pure 0) [.downloadManifest "pkg" latestVersion] []
      (start { texts := [issueAt latestVersion "old", issueAt "2.0" "new"] })
    let ended := runTraced ((service Issues.collaborators).downloadArtifact (abroad (pure 0)) "pkg"
      latestVersion) [] world
    ended.2.2.asks = world.asks ∧ ended.1 = .ok ⟨"old"⟩ ∧
      ended.2.2.outside.texts = [issueAt "2.0" "new"] := by
  decide +kernel

end World

end Courier
