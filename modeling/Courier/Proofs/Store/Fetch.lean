import Courier.Proofs.Run
import Courier.Service.Store
/-!
What fetching a manifest does, whatever the archive and the cache are. A fetch asks the archive
once, and a manifest that can be read is compared with the cached one before the cache is written.
Main statement: every fetch is one of the four ways of `Store.Fetches`.
-/

namespace Courier

variable {σ α : Type}

def TraceSection.told (opened : TraceSection) (describe : α → String) :
    Except Failure α → TraceSection
  | .ok value => opened.note (describe value)
  | .error failure => opened.fail failure.message

theorem runTraced_tracedStep (tracer : StateM σ Int64) (operation : String)
    (describe : α → String) (step : ExceptT Failure (StateM σ) α) (trace : Trace) (state : σ) :
    runTraced (tracedStep tracer operation describe step) trace state =
      let opened := stepFrom tracer state
      let ended := runFrom step opened.2
      let closed := stepFrom tracer ended.2
      let entry := TraceSection.told { operation, startNanos := opened.1 } describe ended.1
      (ended.1, trace ++ [entry.close closed.1], closed.2) := by
  unfold tracedStep
  rw [runTraced_bind, runTraced_openSection, runTraced_bind, runTraced_monadLift, runTraced_bind,
    runTraced_closeSection, runTraced_pure]
  unfold TraceSection.told
  rfl

theorem runTraced_tracedStep_ends (tracer : StateM σ Int64) (operation : String)
    (describe : α → String) (step : ExceptT Failure (StateM σ) α) (trace : Trace) (state : σ) :
    (runTraced (tracedStep tracer operation describe step) trace state).1 =
        (runFrom step (tick tracer state)).1 ∧
      (runTraced (tracedStep tracer operation describe step) trace state).2.2 =
        tick tracer (runFrom step (tick tracer state)).2 := by
  rw [runTraced_tracedStep]
  exact ⟨rfl, rfl⟩

namespace Store

variable (store : Store (StateM σ))

def holds (manifest : Manifest) : Except Failure Manifest → Bool
  | .ok known => known == manifest
  | .error _ => false

theorem holds_iff (manifest : Manifest) (found : Except Failure Manifest) :
    holds manifest found = true ↔ found = .ok manifest := by
  cases found with
  | ok known => simp [holds]
  | error failure => simp [holds]

theorem runFrom_cached (resource version : String) (state : σ) :
    runFrom (store.cached resource version) state =
      ((runFrom (store.cache.read resource version) state).1.bind Manifest.parse,
        (runFrom (store.cache.read resource version) state).2) := by
  unfold cached
  rw [runFrom_bind]
  rcases runFrom (store.cache.read resource version) state with ⟨found, left⟩
  cases found with
  | ok bytes => exact runFrom_ofExcept _ _
  | error failure => rfl

/-- The ways a fetch can go, with what the archive and the cache did in each of them. -/
inductive Fetches (name version : String) (start : σ) : Except Failure ResolvedManifest → σ → Prop
  | refused {failure : Failure} {left : σ}
      (asked : runFrom (store.archive.manifestBytes name version) start = (.error failure, left)) :
      Fetches name version start (.error failure) left
  | malformed {bytes : Bytes} {failure : Failure} {left : σ}
      (asked : runFrom (store.archive.manifestBytes name version) start = (.ok bytes, left))
      (unread : Manifest.parse bytes = .error failure) :
      Fetches name version start (.error failure) left
  | unfiled {bytes : Bytes} {manifest : Manifest} {resource : String}
      {found : Except Failure Manifest} {failure : Failure} {fetched named compared left : σ}
      (asked : runFrom (store.archive.manifestBytes name version) start = (.ok bytes, fetched))
      (spelled : Manifest.parse bytes = .ok manifest)
      (identified : stepFrom (store.archive.identifier manifest) fetched = (resource, named))
      (looked : runFrom (store.cached resource manifest.version) named = (found, compared))
      (kept : runFrom (store.cache.write resource manifest.version bytes) compared =
        (.error failure, left)) :
      Fetches name version start (.error (asCacheWrite resource manifest.version failure)) left
  | filed {bytes : Bytes} {manifest : Manifest} {resource : String}
      {found : Except Failure Manifest} {fetched named compared left : σ}
      (asked : runFrom (store.archive.manifestBytes name version) start = (.ok bytes, fetched))
      (spelled : Manifest.parse bytes = .ok manifest)
      (identified : stepFrom (store.archive.identifier manifest) fetched = (resource, named))
      (looked : runFrom (store.cached resource manifest.version) named = (found, compared))
      (kept : runFrom (store.cache.write resource manifest.version bytes) compared =
        (.ok (), left)) :
      Fetches name version start
        (.ok { manifest, resource, unchanged := holds manifest found }) left

def file (resource : String) (manifest : Manifest) (bytes : Bytes) (unchanged : Bool) :
    ExceptT Failure (StateM σ) ResolvedManifest := do
  match ← outcome (store.cache.write resource manifest.version bytes) with
  | .ok () => return { manifest, resource, unchanged }
  | .error failure => throw (asCacheWrite resource manifest.version failure)

private theorem runFrom_file (resource : String) (manifest : Manifest) (bytes : Bytes)
    (unchanged : Bool) (state : σ) :
    runFrom (store.file resource manifest bytes unchanged) state =
      let kept := runFrom (store.cache.write resource manifest.version bytes) state
      (match kept.1 with
        | .ok () => .ok { manifest, resource, unchanged }
        | .error failure => .error (asCacheWrite resource manifest.version failure), kept.2) := by
  unfold file
  simp only [runFrom_bind, runFrom_outcome]
  rcases runFrom (store.cache.write resource manifest.version bytes) state with ⟨kept, left⟩
  cases kept with
  | ok done => rfl
  | error failure => rfl

private theorem runFrom_fetch_of_parse {name version : String} {start fetched : σ} {bytes : Bytes}
    {manifest : Manifest}
    (asked : runFrom (store.archive.manifestBytes name version) start = (.ok bytes, fetched))
    (spelled : Manifest.parse bytes = .ok manifest) :
    runFrom (store.fetch name version) start =
      let named := stepFrom (store.archive.identifier manifest) fetched
      let looked := runFrom (store.cached named.1 manifest.version) named.2
      let kept := runFrom (store.cache.write named.1 manifest.version bytes) looked.2
      (match kept.1 with
        | .ok () => .ok { manifest, resource := named.1, unchanged := holds manifest looked.1 }
        | .error failure => .error (asCacheWrite named.1 manifest.version failure), kept.2) := by
  unfold fetch
  rw [runFrom_bind_ok asked, spelled]
  simp only [runFrom_bind, runFrom_ofExcept, runFrom_monadLift, runFrom_outcome]
  rcases stepFrom (store.archive.identifier manifest) fetched with ⟨resource, named⟩
  rcases runFrom (store.cached resource manifest.version) named with ⟨found, compared⟩
  cases found with
  | ok known => exact store.runFrom_file resource manifest bytes (known == manifest) compared
  | error cause => exact store.runFrom_file resource manifest bytes false compared

theorem fetch_fetches (name version : String) (start : σ) :
    store.Fetches name version start (runFrom (store.fetch name version) start).1
      (runFrom (store.fetch name version) start).2 := by
  rcases asked : runFrom (store.archive.manifestBytes name version) start with ⟨answer, fetched⟩
  cases answer with
  | error failure =>
      unfold fetch
      rw [runFrom_bind_error asked]
      exact .refused asked
  | ok bytes =>
      cases spelled : Manifest.parse bytes with
      | error failure =>
          have ends : runFrom (store.fetch name version) start = (.error failure, fetched) := by
            unfold fetch
            rw [runFrom_bind_ok asked, spelled]
            exact runFrom_bind_error (runFrom_ofExcept _ _) _
          rw [ends]
          exact .malformed asked spelled
      | ok manifest =>
          rw [store.runFrom_fetch_of_parse asked spelled]
          rcases identified : stepFrom (store.archive.identifier manifest) fetched with
            ⟨resource, named⟩
          rcases looked : runFrom (store.cached resource manifest.version) named with
            ⟨found, compared⟩
          rcases kept : runFrom (store.cache.write resource manifest.version bytes) compared with
            ⟨written, left⟩
          simp only [looked, kept]
          cases written with
          | error failure => exact .unfiled asked spelled identified looked kept
          | ok done => exact .filed asked spelled identified looked kept

theorem runTraced_resolve (tracer : StateM σ Int64) (name version : String) (trace : Trace)
    (state : σ) :
    (runTraced (store.resolve tracer name version) trace state).1 =
        (runFrom (store.fetch name version) (tick tracer state)).1 ∧
      (runTraced (store.resolve tracer name version) trace state).2.2 =
        tick tracer (runFrom (store.fetch name version) (tick tracer state)).2 :=
  runTraced_tracedStep_ends tracer _ _ _ trace state

end Store

end Courier
