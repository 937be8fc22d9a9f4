import Courier.Proofs.Cache.Vacancy
/-!
The cache in files does what the cache in memory does. Main statement: over a root that is absent or
empty, any number of reads and writes, through any number of instances, is answered as by a cache in
memory that was empty, and so every read gives the bytes of the last write to its key.
-/

namespace Courier

open Computer

variable {σ : Type}

inductive CacheCall where
  | read (resource version : String)
  | write (resource version : String) (bytes : Bytes)
  deriving DecidableEq, Repr

namespace CacheCall

def resource : CacheCall → String
  | read resource _ => resource
  | write resource _ _ => resource

def version : CacheCall → String
  | read _ version => version
  | write _ version _ => version

/-- The version `.` cannot be written, as the path of its draft leads to a directory. -/
def Drafts : CacheCall → Prop
  | read _ _ => True
  | write _ version _ => version ≠ "."

def perform {m : Type → Type} [Monad m] (cache : ManifestCache m) :
    CacheCall → ExceptT Failure m (Option Bytes)
  | read resource version => do return some (← cache.read resource version)
  | write resource version bytes => do
    cache.write resource version bytes
    return none

def leaves (resource version : String) (found : Option Bytes) : CacheCall → Option Bytes
  | read _ _ => found
  | write written named bytes =>
    if written = resource ∧ named = version then some bytes else found

def lastWritten? (resource version : String) (calls : List CacheCall) : Option Bytes :=
  calls.foldl (leaves resource version) none

/-- What a call must answer after `earlier` calls. -/
def expected (earlier : List CacheCall) : CacheCall → Except Failure (Option Bytes)
  | read resource version =>
    match lastWritten? resource version earlier with
    | some bytes => .ok (some bytes)
    | none => .error (.cacheMiss resource version)
  | write _ _ _ => .ok none

theorem expected_read (resource version : String) (earlier : List CacheCall) :
    (read resource version).expected earlier =
      (MemoryCache.answer resource version (lastWritten? resource version earlier)).map some := by
  unfold expected
  dsimp only
  cases lastWritten? resource version earlier with
  | none => rfl
  | some bytes => rfl

theorem runFrom_perform_read {cache : ManifestCache (StateM σ)} {resource version : String}
    {state left : σ} {found : Option Bytes}
    (reads : runFrom (cache.read resource version) state =
      (MemoryCache.answer resource version found, left)) :
    runFrom ((read resource version).perform cache) state =
      ((MemoryCache.answer resource version found).map some, left) := by
  unfold perform
  rw [runFrom_bind, reads]
  cases found with
  | none => rfl
  | some bytes => rfl

theorem runFrom_perform_write {cache : ManifestCache (StateM σ)} {resource version : String}
    {bytes : Bytes} {state left : σ}
    (writes : runFrom (cache.write resource version bytes) state = (.ok (), left)) :
    runFrom ((write resource version bytes).perform cache) state = (.ok none, left) := by
  unfold perform
  rw [runFrom_bind_ok writes]
  rfl

end CacheCall

namespace MemoryCache

theorem get?_answersFrom (resource version : String) (calls : List CacheCall)
    (memory : MemoryCache) :
    (answersFrom (calls.map (CacheCall.perform MemoryCache.cache)) memory).2.get? resource version =
      calls.foldl (CacheCall.leaves resource version) (memory.get? resource version) := by
  induction calls generalizing memory with
  | nil => rfl
  | cons call rest ih =>
      rw [List.map_cons, List.foldl_cons]
      cases call with
      | read asked named =>
          have reads := CacheCall.runFrom_perform_read (runFrom_read asked named memory)
          rw [answersFrom_cons reads]
          exact ih memory
      | write written named bytes =>
          have writes := CacheCall.runFrom_perform_write (runFrom_write written named bytes memory)
          rw [answersFrom_cons writes]
          dsimp only
          rw [ih (memory.insert written named bytes), get?_insert]
          rfl

end MemoryCache

namespace FileCache

variable {cache : FileCache} {place : Place} {used : List String} {start : Computer}

/-- The files and the cache in memory go together: nothing was written yet, or the root holds what
the cache in memory holds. -/
def Reflects (cache : FileCache) (place : Place) (used : List String) (start : Computer)
    (memory : MemoryCache) (computer : Computer) : Prop :=
  (computer = start ∧ memory = {}) ∨ Mirrors cache place used memory computer.files

theorem Reflects.perform {memory : MemoryCache} {computer : Computer}
    (reflects : Reflects cache place used start memory computer)
    (vacant : Vacant cache place start) (apart : Apart used) {call : CacheCall}
    (known : call.resource ∈ used) (fits : Fits cache call.resource call.version)
    (drafts : call.Drafts) :
    ∃ answered left kept,
      runFrom (call.perform (cache.manifestCache FileSystem.access)) computer = (answered, left) ∧
      runFrom (call.perform MemoryCache.cache) memory = (answered, kept) ∧
      Reflects cache place used start kept left := by
  cases call with
  | read resource version =>
      have stores := CacheCall.runFrom_perform_read
        (MemoryCache.runFrom_read resource version memory)
      rcases reflects with ⟨rfl, rfl⟩ | mirrors
      · rw [MemoryCache.get?_empty] at stores
        exact ⟨_, _, _, CacheCall.runFrom_perform_read (vacant.runFrom_read fits), stores,
          .inl ⟨rfl, rfl⟩⟩
      · exact ⟨_, _, _, CacheCall.runFrom_perform_read (FileCache.runFrom_read mirrors known fits),
          stores, .inr mirrors⟩
  | write resource version bytes =>
      have stores := CacheCall.runFrom_perform_write
        (MemoryCache.runFrom_write resource version bytes memory)
      rcases reflects with ⟨rfl, rfl⟩ | mirrors
      · obtain ⟨left, writes, mirrors⟩ := vacant.runFrom_write apart
          { resource, version, bytes } known fits drafts
        exact ⟨_, _, _, CacheCall.runFrom_perform_write writes, stores, .inr mirrors⟩
      · obtain ⟨written, writes, mirrorsWritten⟩ := FileCache.runFrom_write
          { resource, version, bytes } mirrors apart known fits drafts
        exact ⟨_, _, _, CacheCall.runFrom_perform_write writes, stores, .inr mirrorsWritten⟩

def answersOnFiles (calls : List (FileCache × CacheCall)) (start : Computer) :
    List (Except Failure (Option Bytes)) × Computer :=
  answersFrom (calls.map fun call =>
    call.2.perform (call.1.manifestCache FileSystem.access)) start

def answersInMemory (calls : List (FileCache × CacheCall)) (memory : MemoryCache) :
    List (Except Failure (Option Bytes)) × MemoryCache :=
  answersFrom ((calls.map Prod.snd).map (CacheCall.perform MemoryCache.cache)) memory

theorem Reflects.answers {memory : MemoryCache} {computer : Computer}
    (reflects : Reflects cache place used start memory computer)
    (vacant : Vacant cache place start) (apart : Apart used)
    {calls : List (FileCache × CacheCall)}
    (shared : ∀ call ∈ calls, call.1.root = cache.root)
    (known : ∀ call ∈ calls, call.2.resource ∈ used)
    (fits : ∀ call ∈ calls, Fits cache call.2.resource call.2.version)
    (drafts : ∀ call ∈ calls, call.2.Drafts) :
    (answersOnFiles calls computer).1 = (answersInMemory calls memory).1 := by
  -- What goes together after one call is where the next one starts.
  induction calls generalizing memory computer with
  | nil => rfl
  | cons first rest ih =>
      obtain ⟨handle, call⟩ := first
      have same : handle = cache := by
        cases handle
        cases cache
        exact congrArg FileCache.mk (shared _ List.mem_cons_self)
      subst same
      obtain ⟨answered, left, kept, onFiles, inMemory, later⟩ := reflects.perform vacant apart
        (known _ List.mem_cons_self) (fits _ List.mem_cons_self) (drafts _ List.mem_cons_self)
      have others := ih later (fun next member => shared next (List.mem_cons_of_mem _ member))
        (fun next member => known next (List.mem_cons_of_mem _ member))
        (fun next member => fits next (List.mem_cons_of_mem _ member))
        (fun next member => drafts next (List.mem_cons_of_mem _ member))
      unfold answersOnFiles answersInMemory at others ⊢
      rw [List.map_cons, List.map_cons, List.map_cons, answersFrom_cons onFiles,
        answersFrom_cons inMemory]
      exact congrArg (answered :: ·) others

theorem getElem?_answersInMemory (earlier : List (FileCache × CacheCall))
    (call : FileCache × CacheCall) (later : List (FileCache × CacheCall)) :
    (answersInMemory (earlier ++ call :: later) {}).1[earlier.length]? =
      some (call.2.expected (earlier.map Prod.snd)) := by
  have placed := getElem?_answersFrom
    ((earlier.map Prod.snd).map (CacheCall.perform (MemoryCache.cache (m := StateM MemoryCache))))
    (call.2.perform MemoryCache.cache)
    ((later.map Prod.snd).map (CacheCall.perform MemoryCache.cache)) {}
  rw [List.length_map, List.length_map] at placed
  unfold answersInMemory
  rw [List.map_append, List.map_append, List.map_cons, List.map_cons, placed]
  cases call.2 with
  | write resource version bytes =>
      rw [CacheCall.runFrom_perform_write (MemoryCache.runFrom_write resource version bytes _)]
      rfl
  | read resource version =>
      rw [CacheCall.runFrom_perform_read (MemoryCache.runFrom_read resource version _),
        MemoryCache.get?_answersFrom, MemoryCache.get?_empty]
      exact congrArg some (CacheCall.expected_read resource version _).symm

/-- The cache in files refines the cache in memory, unless something is written under the version
`.`: over a root that is absent or empty, calls through any instances are answered as by one cache
in memory that was empty. A read gives the bytes of the last write to exactly its key, and is a
miss that names the key if there was none. -/
theorem answers_eq_memory {calls : List (FileCache × CacheCall)}
    (shared : ∀ call ∈ calls, call.1.root = cache.root)
    (vacant : Vacant cache place start)
    (apart : Apart (calls.map fun call => call.2.resource))
    (fits : ∀ call ∈ calls, Fits cache call.2.resource call.2.version)
    (drafts : ∀ call ∈ calls, call.2.Drafts) :
    (answersOnFiles calls start).1 = (answersInMemory calls {}).1 ∧
      ∀ earlier call later, calls = earlier ++ call :: later →
        (answersOnFiles calls start).1[earlier.length]? =
          some (call.2.expected (earlier.map Prod.snd)) := by
  have alike : (answersOnFiles calls start).1 = (answersInMemory calls {}).1 :=
    Reflects.answers (.inl ⟨rfl, rfl⟩) vacant apart shared
      (fun call member => List.mem_map_of_mem member) fits drafts
  refine ⟨alike, ?_⟩
  intro earlier call later split
  rw [alike, split]
  exact getElem?_answersInMemory earlier call later

def fresh : FileCache :=
  { root := FileSystem.chain { text := "/" } ["cache"] }

theorem vacant_fresh : fresh.Vacant ["cache"] {} := by
  have named : ∀ name ∈ ["cache"], IsName name := by
    intro name member
    rw [List.mem_singleton.mp member]
    constructor <;> decide
  exact vacant_of_bare named (fun other filled => FileSystem.node?_of_ne_nil filled) (by decide)

theorem fits_fresh {resource version : String}
    (short : (manifestName version).utf8ByteSize ≤ FileSystem.nameLimit) :
    Fits fresh resource version :=
  fits_of_short short (by decide)

theorem answers_eq_memory_two_resources :
    let calls : List (FileCache × CacheCall) :=
      [(fresh, .write "pkg" "1.0" [1]), (fresh, .write "tool" "1.0" [2]),
        (fresh, .read "pkg" "1.0"), (fresh, .read "pkg" "."), (fresh, .read "pkg" "")]
    fresh.root.text = "/cache" ∧ fresh.Vacant ["cache"] {} ∧
      (answersOnFiles calls {}).1 = (answersInMemory calls {}).1 ∧
      (answersOnFiles calls {}).1[2]? = some (.ok (some [1])) := by
  intro calls
  have shared : ∀ call ∈ calls, call.1.root = fresh.root := by
    simp [calls]
  have short : ∀ version ∈ ["1.0", ".", ""],
      (manifestName version).utf8ByteSize ≤ FileSystem.nameLimit := by decide +kernel
  have fits : ∀ call ∈ calls, Fits fresh call.2.resource call.2.version := by
    intro call member
    refine fits_fresh (short _ ?_)
    revert call
    decide
  have apart : Apart (calls.map fun call => call.2.resource) := by
    have differ : resourcePrefix "pkg" ≠ resourcePrefix "tool" := by decide +kernel
    simp [calls, Apart, CacheCall.resource, differ, differ.symm]
  have drafts : ∀ call ∈ calls, call.2.Drafts := by
    simp [calls, CacheCall.Drafts]
  obtain ⟨alike, answered⟩ := answers_eq_memory shared vacant_fresh apart fits drafts
  exact ⟨by decide, vacant_fresh, alike, answered (calls.take 2) _ _ rfl⟩

/-- What is written under the version `.` is refused, and then it is missing. The cache in memory
keeps it. -/
theorem answers_ne_memory_dot :
    let calls : List (FileCache × CacheCall) :=
      [(fresh, .write "pkg" "." [1]), (fresh, .read "pkg" ".")]
    fresh.root.text = "/cache" ∧ fresh.Vacant ["cache"] {} ∧
      (∀ call ∈ calls, call.1.root = fresh.root) ∧
      Apart (calls.map fun call => call.2.resource) ∧
      (∀ call ∈ calls, Fits fresh call.2.resource call.2.version) ∧
      (answersInMemory calls {}).1 = [.ok none, .ok (some [1])] ∧
      (answersOnFiles calls {}).1 =
        [.error (.cacheWrite "pkg" "." ("cannot write " ++
            "/cache/e0ce1a7f3f76d7bfda0ffdae6e0226aa/..: Is a directory (os error 21)")),
          .error (.cacheMiss "pkg" ".")] := by
  intro calls
  have fits : ∀ call ∈ calls, Fits fresh call.2.resource call.2.version := by
    have short : (manifestName ".").utf8ByteSize ≤ FileSystem.nameLimit := by decide +kernel
    simpa [calls, CacheCall.resource, CacheCall.version] using fits_fresh short
  have apart : Apart (calls.map fun call => call.2.resource) := by
    simp [calls, Apart, CacheCall.resource]
  exact ⟨by decide, vacant_fresh, by simp [calls], apart, fits, by decide +kernel,
    by decide +kernel⟩

end FileCache

end Courier
