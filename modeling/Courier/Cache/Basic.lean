import Courier.Failure
import Courier.Json.Basic
import Courier.Text.Utf8
/-!
Caches of manifests. A cache keeps bytes under a resource and a version and never looks into them.
The cache in memory is a table of tables.
-/

namespace Courier

structure ManifestCache (m : Type → Type) where
  /-- The bytes under a key; `cacheMiss` when there are none. -/
  read : (resource version : String) → ExceptT Failure m Bytes
  write : (resource version : String) → Bytes → ExceptT Failure m Unit

/-- What a cache in memory holds: for every resource its versions. -/
structure MemoryCache where
  entries : Table (Table Bytes) := ∅
  deriving DecidableEq, Inhabited

namespace MemoryCache

def get? (cache : MemoryCache) (resource version : String) : Option Bytes :=
  cache.entries[resource]?.bind (·[version]?)

def insert (cache : MemoryCache) (resource version : String) (bytes : Bytes) : MemoryCache :=
  let versions := cache.entries[resource]?.getD ∅
  { entries := cache.entries.insert resource (versions.insert version bytes) }

def size (cache : MemoryCache) : Nat :=
  cache.entries.toList.foldl (fun count entry => count + entry.2.size) 0

def isEmpty (cache : MemoryCache) : Bool :=
  cache.size == 0

/-- What was just put under a key is there, and everything else is as it was. -/
@[grind =] theorem get?_insert (cache : MemoryCache) (resource version : String) (bytes : Bytes)
    (otherResource otherVersion : String) :
    (cache.insert resource version bytes).get? otherResource otherVersion =
      if resource = otherResource ∧ version = otherVersion then some bytes
      else cache.get? otherResource otherVersion := by
  by_cases sameResource : resource = otherResource
  · subst sameResource
    by_cases sameVersion : version = otherVersion
    · simp [get?, insert, sameVersion]
    · cases found : cache.entries[resource]? with
      | none => simp [get?, insert, found, sameVersion]
      | some versions => simp [get?, insert, found, sameVersion, Std.ExtTreeMap.getElem?_insert]
  · simp [get?, insert, sameResource, Std.ExtTreeMap.getElem?_insert]

def cache {m : Type → Type} [Monad m] [MonadStateOf MemoryCache m] : ManifestCache m where
  read resource version := do
    let memory : MemoryCache ← ExceptT.lift MonadStateOf.get
    match memory.get? resource version with
    | some bytes => return bytes
    | none => throw (.cacheMiss resource version)
  write resource version bytes :=
    ExceptT.lift (modifyThe MemoryCache (·.insert resource version bytes))

end MemoryCache

end Courier
