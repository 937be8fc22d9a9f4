import Courier.Proofs.World
/-!
Whole runs of a store: manifests are resolved one after another, and the archive may answer anything
each time. Main statement: whatever was resolved before, the cache holds for every key just what the
latest successful call with that key fetched, and a manifest is unchanged if and only if that call
resolved an equal one.
-/

namespace Courier

variable {σ : Type}

/-- A call that resolves a manifest, with the worlds before and after it. -/
structure Visit (σ : Type) where
  before : World σ
  outcome : Except Failure ResolvedManifest
  after : World σ

namespace Visit

def fetched? (visit : Visit σ) : Option Bytes :=
  match visit.after.events.drop visit.before.events.length with
  | .asked _ _ (.ok bytes) :: _ => some bytes
  | _ => none

def resolves (resource version : String) (visit : Visit σ) : Bool :=
  match visit.outcome with
  | .ok resolved => resolved.resource == resource && resolved.manifest.version == version
  | .error _ => false

/-- The latest of the calls that succeeded with a name and a version. -/
def latest? (resource version : String) (visits : List (Visit σ)) : Option (Visit σ) :=
  (visits.filter (resolves resource version)).getLast?

/-- What was found is just what a call fetched, and nothing where there was no call. -/
def Leaves : Option (Visit σ) → Option Bytes → Prop
  | none, found => found = none
  | some visit, found => ∃ bytes, visit.fetched? = some bytes ∧ found = some bytes

/-- A cache holds under every key the bytes that the latest successful call with the key fetched,
and nothing else. -/
def HeldBy (visits : List (Visit σ)) (cache : MemoryCache) : Prop :=
  ∀ resource version, Leaves (latest? resource version visits) (cache.get? resource version)

/-- A call goes as it must after `earlier` ones. -/
structure Sound (earlier : List (Visit σ)) (visit : Visit σ) : Prop where
  unchanged : ∀ resolved, visit.outcome = .ok resolved →
    (resolved.unchanged = true ↔ ∃ known previous,
      latest? resolved.resource resolved.manifest.version earlier = some known ∧
      known.outcome = .ok previous ∧ previous.manifest = resolved.manifest)
  held : HeldBy (earlier ++ [visit]) visit.after.cache
  failed : ∀ failure, visit.outcome = .error failure → visit.after.cache = visit.before.cache

theorem latest?_concat (resource version : String) (earlier : List (Visit σ)) (visit : Visit σ) :
    latest? resource version (earlier ++ [visit]) =
      if visit.resolves resource version then some visit else latest? resource version earlier := by
  unfold latest?
  rw [List.filter_append]
  by_cases succeeds : visit.resolves resource version = true
  · rw [List.filter_cons_of_pos succeeds, List.filter_nil, if_pos succeeds, List.getLast?_concat]
  · rw [List.filter_cons_of_neg succeeds, List.filter_nil, if_neg succeeds, List.append_nil]

def Spelled (visit : Visit σ) : Prop :=
  ∀ resolved, visit.outcome = .ok resolved →
    ∃ bytes, visit.fetched? = some bytes ∧ Manifest.parse bytes = .ok resolved.manifest

theorem fetched?_of_events {visit : Visit σ} {name version : String} {bytes : Bytes}
    {rest : List Event}
    (events : visit.after.events =
      visit.before.events ++ .asked name version (.ok bytes) :: rest) :
    visit.fetched? = some bytes := by
  unfold fetched?
  rw [events, List.drop_left]

variable {earlier : List (Visit σ)} {visit : Visit σ} {name version : String}

theorem spelled_of_fetched
    (fetched : World.Fetched name version visit.before visit.outcome visit.after) :
    visit.Spelled := by
  obtain ⟨before, outcome, after⟩ := visit
  intro resolved succeeds
  dsimp only at fetched succeeds
  cases fetched with
  | refused unread events cache => cases succeeds
  | @filed bytes manifest resource _ spelled events cache =>
      cases succeeds
      exact ⟨bytes, fetched?_of_events events, spelled⟩

theorem held_eq_ok {cache : MemoryCache} (holds : HeldBy earlier cache)
    (spelled : ∀ known ∈ earlier, known.Spelled) (resource version : String)
    (manifest : Manifest) :
    World.held cache resource version = .ok manifest ↔
      ∃ known previous, latest? resource version earlier = some known ∧
        known.outcome = .ok previous ∧ previous.manifest = manifest := by
  have kept := holds resource version
  unfold World.held
  cases latest : latest? resource version earlier with
  | none =>
      rw [latest] at kept
      rw [show cache.get? resource version = none from kept]
      constructor
      · intro found
        cases found
      · rintro ⟨known, previous, nothing, -⟩
        cases nothing
  | some known =>
      rw [latest] at kept
      obtain ⟨bytes, fetched, found⟩ := kept
      have member : known ∈ earlier.filter (resolves resource version) :=
        List.mem_of_getLast? latest
      obtain ⟨inside, succeeded⟩ := List.mem_filter.mp member
      rw [found]
      change Manifest.parse bytes = .ok manifest ↔ _
      unfold resolves at succeeded
      cases ended : known.outcome with
      | error failure =>
          rw [ended] at succeeded
          cases succeeded
      | ok previous =>
          obtain ⟨same, fetchedToo, reads⟩ := spelled known inside previous ended
          rw [fetched] at fetchedToo
          cases fetchedToo
          rw [reads]
          constructor
          · intro equal
            exact ⟨known, previous, rfl, ended, Except.ok.inj equal⟩
          · rintro ⟨other, resolved, sameKnown, sameEnd, equal⟩
            cases sameKnown
            rw [ended] at sameEnd
            cases sameEnd
            rw [equal]

theorem sound_of_fetched (holds : HeldBy earlier visit.before.cache)
    (spelled : ∀ known ∈ earlier, known.Spelled)
    (fetched : World.Fetched name version visit.before visit.outcome visit.after) :
    visit.Sound earlier := by
  have spells := spelled_of_fetched fetched
  obtain ⟨before, outcome, after⟩ := visit
  dsimp only at holds fetched
  cases fetched with
  | @refused answered failure _ unread events cache =>
      constructor
      case unchanged =>
          intro resolved succeeds
          cases succeeds
      case held =>
          intro resource version
          rw [latest?_concat, if_neg (by simp [resolves])]
          dsimp only
          rw [cache]
          exact holds resource version
      case failed =>
          intro _ _
          exact cache
  | @filed bytes manifest resource _ reads events cache =>
      constructor
      case unchanged =>
          intro resolved succeeds
          cases succeeds
          rw [← held_eq_ok holds spelled]
          exact Store.holds_iff _ _
      case held =>
          intro other version
          dsimp only
          rw [latest?_concat, cache, MemoryCache.get?_insert]
          by_cases key : resource = other ∧ manifest.version = version
          · rw [if_pos key, if_pos (by simp [resolves, key])]
            exact ⟨bytes, fetched?_of_events events, rfl⟩
          · rw [if_neg key, if_neg (by simpa [resolves] using key)]
            exact holds other version
      case failed =>
          intro failure fails
          cases fails

end Visit

variable (source : Archive (StateM σ)) (tracer : StateM σ Int64)

def visitsFrom : List (String × String) → Trace → World σ → List (Visit σ)
  | [], _, _ => []
  | (name, version) :: rest, trace, before =>
    let (outcome, left, after) :=
      runTraced ((World.store source).resolve (World.abroad tracer) name version) trace before
    { before, outcome, after } :: visitsFrom rest left after

theorem sound_of_visitsFrom (past : List (Visit σ)) {world : World σ}
    (holds : Visit.HeldBy past world.cache) (spelled : ∀ known ∈ past, known.Spelled)
    (requests : List (String × String)) (trace : Trace) {earlier later : List (Visit σ)}
    {visit : Visit σ}
    (run : visitsFrom source tracer requests trace world = earlier ++ visit :: later) :
    visit.Sound (past ++ earlier) := by
  -- The past grows by one call at a time; what it leaves in the cache is the invariant.
  induction requests generalizing past world trace earlier with
  | nil => simp [visitsFrom] at run
  | cons request rest ih =>
      obtain ⟨name, version⟩ := request
      have fetched := World.resolve_fetched source tracer name version trace world
      unfold visitsFrom at run
      rcases ended : runTraced ((World.store source).resolve (World.abroad tracer) name version)
        trace world with ⟨outcome, left, after⟩
      rw [ended] at fetched run
      dsimp only at fetched run
      have sound : ({ before := world, outcome, after } : Visit σ).Sound past :=
        Visit.sound_of_fetched holds spelled fetched
      cases earlier with
      | nil =>
          rw [List.nil_append] at run
          obtain ⟨same, -⟩ := List.cons.inj run
          rw [List.append_nil, ← same]
          exact sound
      | cons head earlier =>
          rw [List.cons_append] at run
          obtain ⟨same, further⟩ := List.cons.inj run
          rw [List.append_cons, ← same]
          refine ih (past ++ [_]) sound.held ?_ left further
          intro known member
          rcases List.mem_append.mp member with before | last
          · exact spelled known before
          · rw [List.mem_singleton.mp last]
            exact Visit.spelled_of_fetched fetched

/-- Every call of a run over a cache that was empty goes as it must after those before it. -/
theorem visits_sound (requests : List (String × String)) (trace : Trace) (outside : σ)
    {earlier later : List (Visit σ)} {visit : Visit σ}
    (run : visitsFrom source tracer requests trace (World.start outside) =
      earlier ++ visit :: later) :
    visit.Sound earlier := by
  refine sound_of_visitsFrom source tracer [] ?_ ?_ requests trace run
  · intro resource version
    exact MemoryCache.get?_empty resource version
  · intro known member
    cases member

def Archive.steady (resource : String) (bytes : Bytes) : Archive (StateM σ) where
  name := return resource
  manifestBytes _ _ := return bytes
  identifier _ := return resource
  canonical name version := return (name, version)
  location _ _ _ := return ""

/-- The manifest of an archive that always answers the same is new only once. -/
theorem visits_sound_steady :
    let source : Archive (StateM Unit) :=
      .steady "pkg" (Utf8.encode "\x7b\"version\":\"1\"\x7d")
    let run := visitsFrom source (pure 0) [("pkg", "latest"), ("pkg", "1")] [] (World.start ())
    run.map (fun visit => visit.outcome.toOption.map (·.unchanged)) = [some false, some true] ∧
      ∃ first second, run = [first, second] ∧ second.Sound [first] := by
  intro source run
  refine ⟨by decide +kernel, _, _, rfl, ?_⟩
  exact visits_sound source (pure 0) [("pkg", "latest"), ("pkg", "1")] [] () rfl

end Courier
