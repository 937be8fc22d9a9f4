import Courier.Cache.Basic
import Courier.Proofs.Run
/-!
The calls of a cache in memory: a read answers with the bytes under the key or with a miss, and a
write puts bytes under its key. Neither ever fails in another way.
-/

namespace Courier.MemoryCache

theorem get?_empty (resource version : String) :
    ({} : MemoryCache).get? resource version = none := by
  simp [get?]

def answer (resource version : String) : Option Bytes → Except Failure Bytes
  | some bytes => .ok bytes
  | none => .error (.cacheMiss resource version)

theorem runFrom_read_of_get {σ : Type} [MonadStateOf MemoryCache (StateM σ)] {state left : σ}
    {memory : MemoryCache}
    (looks : stepFrom (MonadStateOf.get : StateM σ MemoryCache) state = (memory, left))
    (resource version : String) :
    runFrom ((cache : ManifestCache (StateM σ)).read resource version) state =
      (answer resource version (memory.get? resource version), left) := by
  unfold cache
  dsimp only
  rw [runFrom_bind_ok (runFrom_lift _ _), looks]
  dsimp only
  cases memory.get? resource version with
  | none => rfl
  | some bytes => rfl

theorem runFrom_read (resource version : String) (memory : MemoryCache) :
    runFrom ((cache : ManifestCache (StateM MemoryCache)).read resource version) memory =
      (answer resource version (memory.get? resource version), memory) :=
  runFrom_read_of_get rfl resource version

theorem runFrom_write (resource version : String) (bytes : Bytes) (memory : MemoryCache) :
    runFrom ((cache : ManifestCache (StateM MemoryCache)).write resource version bytes) memory =
      (.ok (), memory.insert resource version bytes) := rfl

end Courier.MemoryCache
