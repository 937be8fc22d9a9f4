import Courier.Proofs.Cache.Memory
import Courier.Proofs.Store.Fetch
import Courier.Service.Basic
/-!
A service in a world: its cache is in memory and was empty at first, and everything else is outside,
where anything may happen but to the cache. The world remembers in order what the archive was asked
and what was put into the cache. Main statement: a fetch either asks the archive and leaves the
cache alone, or puts into it, under the name and version of the manifest, what the archive answered.
-/

namespace Courier

inductive Event where
  | asked (name version : String) (answer : Except Failure Bytes)
  | filed (resource version : String) (bytes : Bytes)

/-- A cache in memory, what happened so far, and the state of all that is outside. -/
structure World (σ : Type) where
  cache : MemoryCache := {}
  events : List Event := []
  outside : σ

variable {σ ε α : Type}

namespace World

def start (outside : σ) : World σ :=
  { outside }

def record (event : Event) (world : World σ) : World σ :=
  { world with events := world.events ++ [event] }

instance : MonadStateOf MemoryCache (StateM (World σ)) where
  get world := (world.cache, world)
  set cache world := ((), { world with cache })
  modifyGet change world :=
    let (value, cache) := change world.cache
    (value, { world with cache })

def abroad (action : StateM σ α) : StateM (World σ) α := fun world =>
  let (value, outside) := stepFrom action world.outside
  (value, { world with outside })

def venture (action : ExceptT ε (StateM σ) α) : ExceptT ε (StateM (World σ)) α :=
  ExceptT.mk (abroad action.run)

/-- An archive outside. It is remembered what it was asked for, and what it answered. -/
def archive (archive : Archive (StateM σ)) : Archive (StateM (World σ)) where
  name := abroad archive.name
  manifestBytes name version := ExceptT.mk do
    let answer ← abroad (archive.manifestBytes name version).run
    modifyThe (World σ) (record (.asked name version answer))
    return answer
  identifier manifest := abroad (archive.identifier manifest)
  canonical name version := abroad (archive.canonical name version)
  location file name version := venture (archive.location file name version)

/-- The cache of the world. It is remembered what is put into it. -/
def manifestCache : ManifestCache (StateM (World σ)) where
  read := MemoryCache.cache.read
  write resource version bytes := do
    MemoryCache.cache.write resource version bytes
    ExceptT.lift (modifyThe (World σ) (record (.filed resource version bytes)))

def service (parts : Service (StateM σ)) : Service (StateM (World σ)) where
  archive := archive parts.archive
  cache := manifestCache
  collect := venture parts.collect
  download request := venture (parts.download request)
  submit report := venture (parts.submit report)
  clock := abroad parts.clock

/-- Two worlds with one cache, in which the same happened. -/
structure Agrees (before after : World σ) : Prop where
  cache : after.cache = before.cache
  events : after.events = before.events

theorem Agrees.refl (world : World σ) : Agrees world world :=
  ⟨rfl, rfl⟩

theorem Agrees.trans {first second third : World σ} (early : Agrees first second)
    (late : Agrees second third) : Agrees first third :=
  ⟨late.cache.trans early.cache, late.events.trans early.events⟩

theorem agrees_abroad (action : StateM σ α) (world : World σ) :
    Agrees world (stepFrom (abroad action) world).2 :=
  ⟨rfl, rfl⟩

theorem agrees_venture (action : ExceptT ε (StateM σ) α) (world : World σ) :
    Agrees world (runFrom (venture action) world).2 :=
  ⟨rfl, rfl⟩

theorem runFrom_manifestBytes (source : Archive (StateM σ)) (name version : String)
    (world : World σ) :
    runFrom ((archive source).manifestBytes name version) world =
      ((runFrom (source.manifestBytes name version) world.outside).1,
        { world with
          events := world.events ++
            [.asked name version (runFrom (source.manifestBytes name version) world.outside).1]
          outside := (runFrom (source.manifestBytes name version) world.outside).2 }) := rfl

theorem runFrom_read (resource version : String) (world : World σ) :
    runFrom ((manifestCache : ManifestCache (StateM (World σ))).read resource version) world =
      (MemoryCache.answer resource version (world.cache.get? resource version), world) :=
  MemoryCache.runFrom_read_of_get rfl resource version

theorem runFrom_write (resource version : String) (bytes : Bytes) (world : World σ) :
    runFrom ((manifestCache : ManifestCache (StateM (World σ))).write resource version bytes)
        world =
      (.ok (), { world with
        cache := world.cache.insert resource version bytes
        events := world.events ++ [.filed resource version bytes] }) := rfl

def store (source : Archive (StateM σ)) : Store (StateM (World σ)) :=
  { archive := archive source, cache := manifestCache }

def held (cache : MemoryCache) (resource version : String) : Except Failure Manifest :=
  (MemoryCache.answer resource version (cache.get? resource version)).bind Manifest.parse

theorem runFrom_cached (source : Archive (StateM σ)) (resource version : String)
    (world : World σ) :
    runFrom ((store source).cached resource version) world =
      (held world.cache resource version, world) := by
  rw [Store.runFrom_cached]
  change ((runFrom (manifestCache.read resource version) world).1.bind Manifest.parse,
    (runFrom (manifestCache.read resource version) world).2) = _
  rw [runFrom_read]
  rfl

/-- The two ways a fetch can go. It always asks the archive, once and first. -/
inductive Fetched (name version : String) (before : World σ) :
    Except Failure ResolvedManifest → World σ → Prop
  | refused {answered : Except Failure Bytes} {failure : Failure} {after : World σ}
      (unread : answered.bind Manifest.parse = .error failure)
      (events : after.events = before.events ++ [.asked name version answered])
      (cache : after.cache = before.cache) :
      Fetched name version before (.error failure) after
  | filed {bytes : Bytes} {manifest : Manifest} {resource : String} {after : World σ}
      (spelled : Manifest.parse bytes = .ok manifest)
      (events : after.events = before.events ++
        [.asked name version (.ok bytes), .filed resource manifest.version bytes])
      (cache : after.cache = before.cache.insert resource manifest.version bytes) :
      Fetched name version before
        (.ok { manifest, resource,
               unchanged := Store.holds manifest (held before.cache resource manifest.version) })
        after

theorem manifestBytes_eq {source : Archive (StateM σ)} {name version : String}
    {before after : World σ} {answered : Except Failure Bytes}
    (asked : runFrom ((store source).archive.manifestBytes name version) before =
      (answered, after)) :
    after.events = before.events ++ [.asked name version answered] ∧
      after.cache = before.cache := by
  change runFrom ((archive source).manifestBytes name version) before = _ at asked
  rw [runFrom_manifestBytes] at asked
  obtain ⟨answers, reached⟩ := Prod.mk.inj asked
  rw [← reached, ← answers]
  exact ⟨rfl, rfl⟩

theorem fetch_fetched (source : Archive (StateM σ)) (name version : String) (world : World σ) :
    Fetched name version world (runFrom ((store source).fetch name version) world).1
      (runFrom ((store source).fetch name version) world).2 := by
  have ways := (store source).fetch_fetches name version world
  generalize runFrom ((store source).fetch name version) world = ended at ways ⊢
  obtain ⟨ending, after⟩ := ended
  dsimp only at ways ⊢
  cases ways with
  | refused asked =>
      obtain ⟨events, cache⟩ := manifestBytes_eq asked
      exact .refused rfl events cache
  | @malformed bytes failure _ asked unread =>
      obtain ⟨events, cache⟩ := manifestBytes_eq asked
      have spellsNone : (Except.ok bytes : Except Failure Bytes).bind Manifest.parse =
          .error failure := unread
      exact .refused spellsNone events cache
  | @unfiled bytes manifest resource found failure fetched named compared _ asked spelled
      identified looked kept =>
      -- A cache in memory takes whatever it is given.
      change runFrom (manifestCache.write resource manifest.version bytes) compared = _ at kept
      rw [runFrom_write] at kept
      cases kept
  | @filed bytes manifest resource found fetched named compared _ asked spelled identified looked
      kept =>
      obtain ⟨events, cache⟩ := manifestBytes_eq asked
      obtain ⟨-, namedThen⟩ := Prod.mk.inj identified
      rw [runFrom_cached] at looked
      obtain ⟨finds, same⟩ := Prod.mk.inj looked
      change runFrom (manifestCache.write resource manifest.version bytes) compared = _ at kept
      rw [runFrom_write] at kept
      obtain ⟨-, stored⟩ := Prod.mk.inj kept
      have agrees : Agrees fetched named := by
        rw [← namedThen]
        exact agrees_abroad _ fetched
      subst same stored
      rw [← finds, agrees.cache, cache]
      refine .filed spelled ?_ rfl
      dsimp only
      rw [agrees.events, events, List.append_assoc]
      rfl

theorem agrees_tick (tracer : StateM σ Int64) (world : World σ) :
    Agrees world (tick (abroad tracer) world) :=
  agrees_abroad tracer world

theorem Fetched.of_agrees {name version : String} {before start left after : World σ}
    {ending : Except Failure ResolvedManifest} (early : Agrees before start)
    (fetched : Fetched name version start ending left) (late : Agrees left after) :
    Fetched name version before ending after := by
  cases fetched with
  | refused unread events cache =>
      refine .refused unread ?_ ?_
      · rw [late.events, events, early.events]
      · rw [late.cache, cache, early.cache]
  | filed spelled events cache =>
      rw [early.cache]
      refine .filed spelled ?_ ?_
      · rw [late.events, events, early.events]
      · rw [late.cache, cache, early.cache]

theorem resolve_fetched (source : Archive (StateM σ)) (tracer : StateM σ Int64)
    (name version : String) (trace : Trace) (world : World σ) :
    Fetched name version world
      (runTraced ((store source).resolve (abroad tracer) name version) trace world).1
      (runTraced ((store source).resolve (abroad tracer) name version) trace world).2.2 := by
  obtain ⟨ending, after⟩ :=
    (store source).runTraced_resolve (abroad tracer) name version trace world
  rw [ending, after]
  exact (fetch_fetched source name version (tick (abroad tracer) world)).of_agrees
    (agrees_tick tracer world) (agrees_tick tracer _)

end World

end Courier
