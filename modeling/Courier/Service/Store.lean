import Courier.Archive.Basic
import Courier.Cache.Basic
import Courier.Trace
/-!
The store of manifests: manifests come from an archive, and every one that was fetched is put into
the cache under its own name and version. The store says whether the cache already held the same
manifest, compared as a value.
-/

namespace Courier

structure ResolvedManifest where
  manifest : Manifest
  resource : String
  /-- Whether the cache already held an equal manifest. -/
  unchanged : Bool
  deriving DecidableEq, Inhabited

/-- Runs a step as a section of its own; `describe` says what came of it. -/
def tracedStep {m : Type → Type} [Monad m] {α : Type} (tracer : m Int64) (operation : String)
    (describe : α → String) (step : ExceptT Failure m α) : Traced m (Except Failure α) := do
  let opened ← openSection tracer operation
  let result ← step.run
  closeSection tracer (match result with
    | .ok value => opened.note (describe value)
    | .error failure => opened.fail failure.message)
  return result

structure Store (m : Type → Type) where
  archive : Archive m
  cache : ManifestCache m

/-- A failed write to the cache as such, whatever went wrong. -/
def asCacheWrite (resource version : String) : Failure → Failure
  | failure@(.cacheWrite ..) => failure
  | other => .cacheWrite resource version other.message

namespace Store

variable {m : Type → Type} [Monad m] (store : Store m)

/-- The manifest cached under exactly this key. -/
def cached (resource version : String) : ExceptT Failure m Manifest := do
  MonadExcept.ofExcept (Manifest.parse (← store.cache.read resource version))

def fetch (name version : String) : ExceptT Failure m ResolvedManifest := do
  let bytes ← store.archive.manifestBytes name version
  let manifest ← MonadExcept.ofExcept (Manifest.parse bytes)
  let resource ← store.archive.identifier manifest
  let unchanged ← match ← outcome (store.cached resource manifest.version) with
    | .ok known => pure (known == manifest)
    | .error _ => pure false
  match ← outcome (store.cache.write resource manifest.version bytes) with
  | .ok () => return { manifest, resource, unchanged }
  | .error failure => throw (asCacheWrite resource manifest.version failure)

def describe (resolved : ResolvedManifest) : String :=
  resolved.resource ++ " version " ++ resolved.manifest.version ++ " (unchanged: " ++
    (if resolved.unchanged then "true" else "false") ++ ")"

def resolve (tracer : m Int64) (name version : String) :
    Traced m (Except Failure ResolvedManifest) :=
  tracedStep tracer "download manifest" describe (store.fetch name version)

end Store

end Courier
