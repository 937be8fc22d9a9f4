import Courier.Archive.Document
import Courier.Archive.Repository
import Courier.Proofs.Store.Fetch
/-!
A store that several callers share. Each of them resolves a manifest of its own, one step after
another, and the steps of different callers mix in any order; the archive keeps a single record of
what it fetched last. Main statement: a manifest is filed under the identifier that came with the
latest response before its caller asked for the identifier, which is the caller's own response where
no other one came in between.
-/

namespace Courier

variable {σ ε α ι : Type}

namespace Store

inductive Stage where
  | ready
  | received (bytes : Bytes) (manifest : Manifest)
  | named (bytes : Bytes) (manifest : Manifest) (resource : String)
  | compared (bytes : Bytes) (manifest : Manifest) (resource : String) (unchanged : Bool)
  | ended (ending : Except Failure ResolvedManifest)
  deriving DecidableEq

def Stage.ofAnswer : Except Failure Bytes → Stage
  | .error failure => .ended (.error failure)
  | .ok bytes =>
    match Manifest.parse bytes with
    | .error failure => .ended (.error failure)
    | .ok manifest => .received bytes manifest

def Stage.ofWrite (manifest : Manifest) (resource : String) (unchanged : Bool) :
    Except Failure Unit → Stage
  | .ok () => .ended (.ok { manifest, resource, unchanged })
  | .error failure => .ended (.error (asCacheWrite resource manifest.version failure))

variable (store : Store (StateM σ)) (name version : String)

/-- The next step of a fetch. Every step asks the archive or the cache once. -/
def advance : Stage → StateM σ Stage
  | .ready => do
    return .ofAnswer (← (store.archive.manifestBytes name version).run)
  | .received bytes manifest => do
    return .named bytes manifest (← store.archive.identifier manifest)
  | .named bytes manifest resource => do
    return .compared bytes manifest resource
      (holds manifest (← (store.cached resource manifest.version).run))
  | .compared bytes manifest resource unchanged => do
    return .ofWrite manifest resource unchanged
      (← (store.cache.write resource manifest.version bytes).run)
  | .ended ending => return .ended ending

section Steps

variable (bytes : Bytes) (manifest : Manifest) (resource : String) (unchanged : Bool)
  (ending : Except Failure ResolvedManifest) (state : σ)

@[simp] theorem stepFrom_advance_ready :
    stepFrom (store.advance name version .ready) state =
      (.ofAnswer (runFrom (store.archive.manifestBytes name version) state).1,
        (runFrom (store.archive.manifestBytes name version) state).2) := rfl

@[simp] theorem stepFrom_advance_received :
    stepFrom (store.advance name version (.received bytes manifest)) state =
      (.named bytes manifest (stepFrom (store.archive.identifier manifest) state).1,
        (stepFrom (store.archive.identifier manifest) state).2) := rfl

@[simp] theorem stepFrom_advance_named :
    stepFrom (store.advance name version (.named bytes manifest resource)) state =
      (.compared bytes manifest resource
          (holds manifest (runFrom (store.cached resource manifest.version) state).1),
        (runFrom (store.cached resource manifest.version) state).2) := rfl

@[simp] theorem stepFrom_advance_compared :
    stepFrom (store.advance name version (.compared bytes manifest resource unchanged)) state =
      (.ofWrite manifest resource unchanged
          (runFrom (store.cache.write resource manifest.version bytes) state).1,
        (runFrom (store.cache.write resource manifest.version bytes) state).2) := rfl

@[simp] theorem stepFrom_advance_ended :
    stepFrom (store.advance name version (.ended ending)) state = (.ended ending, state) := rfl

end Steps

def advanceBy : Nat → Stage → StateM σ Stage
  | 0, stage => return stage
  | count + 1, stage => do advanceBy count (← store.advance name version stage)

/-- Four steps in a row are the fetch. -/
theorem stepFrom_advanceBy_four (state : σ) :
    stepFrom (store.advanceBy name version 4 .ready) state =
      (.ended (runFrom (store.fetch name version) state).1,
        (runFrom (store.fetch name version) state).2) := by
  have ways := store.fetch_fetches name version state
  generalize runFrom (store.fetch name version) state = ended at ways ⊢
  obtain ⟨ending, left⟩ := ended
  cases ways with
  | refused asked => simp [advanceBy, asked, Stage.ofAnswer]
  | malformed asked unread => simp [advanceBy, asked, Stage.ofAnswer, unread]
  | unfiled asked spelled identified looked kept =>
      simp [advanceBy, asked, Stage.ofAnswer, spelled, identified, looked, kept, Stage.ofWrite]
  | filed asked spelled identified looked kept =>
      simp [advanceBy, asked, Stage.ofAnswer, spelled, identified, looked, kept, Stage.ofWrite]

end Store

/-- The records of both kinds of archives, and the state of all that is outside. -/
structure Shared (σ : Type) where
  documents : DocumentMemory := none
  repository : RepositoryMemory := {}
  outside : σ

namespace Shared

instance : MonadStateOf DocumentMemory (StateM (Shared σ)) where
  get shared := (shared.documents, shared)
  set documents shared := ((), { shared with documents })
  modifyGet change shared :=
    let (value, documents) := change shared.documents
    (value, { shared with documents })

instance : MonadStateOf RepositoryMemory (StateM (Shared σ)) where
  get shared := (shared.repository, shared)
  set repository shared := ((), { shared with repository })
  modifyGet change shared :=
    let (value, repository) := change shared.repository
    (value, { shared with repository })

def venture (action : ExceptT ε (StateM σ) α) : ExceptT ε (StateM (Shared σ)) α :=
  ExceptT.mk fun shared =>
    let (ending, outside) := runFrom action shared.outside
    (ending, { shared with outside })

theorem runFrom_venture (action : ExceptT ε (StateM σ) α) (shared : Shared σ) :
    runFrom (venture action) shared = ((runFrom action shared.outside).1,
      { shared with outside := (runFrom action shared.outside).2 }) := rfl

def plane (plane : ControlPlane (StateM σ)) : ControlPlane (StateM (Shared σ)) where
  getManifest name version := venture (plane.getManifest name version)
  getDocument name version := venture (plane.getDocument name version)

end Shared

/-- A response as a store sees it: the bytes of a manifest, and the identifier that came with them,
which is the name that was asked for where the response names none. -/
structure Supply where
  bytes : Bytes
  identifier : String
  deriving DecidableEq, Repr, Inhabited

/-- One of the two archives, over a control plane outside. -/
inductive Backing (σ : Type) where
  | documents (plane : ControlPlane (StateM σ))
  | repository (plane : ControlPlane (StateM σ)) (supplied : Option String)

namespace Backing

def archive : Backing σ → Archive (StateM (Shared σ))
  | documents plane => (Shared.plane plane).documentArchive
  | repository plane supplied => (Shared.plane plane).repositoryArchive supplied

def recalled (shared : Shared σ) : Backing σ → String
  | documents _ => shared.documents.identifier
  | repository .. => shared.repository.resource

def documentSupply (name version : String) (response : DocumentResponse) : Supply :=
  { bytes := Utf8.encode response.content
    identifier := (FetchedDocument.ofResponse name version response).identifier }

def manifestSupply (name : String) (response : ManifestResponse) : Supply :=
  { bytes := Utf8.encode response.manifest, identifier := response.identifier name }

def answer (name version : String) (outside : σ) : Backing σ → Except Failure Supply × σ
  | documents plane =>
    let (answered, left) := runFrom (plane.getDocument name version) outside
    (answered.map (documentSupply name version), left)
  | repository plane supplied =>
    match suppliedManifest? supplied with
    | some manifest => (.ok { bytes := Utf8.encode manifest, identifier := name }, outside)
    | none =>
      let (answered, left) := runFrom (plane.getManifest name version) outside
      (answered.map (manifestSupply name), left)

theorem recalled_outside (backing : Backing σ) (shared : Shared σ) (outside : σ) :
    backing.recalled { shared with outside } = backing.recalled shared := by
  cases backing with
  | documents plane => rfl
  | repository plane supplied => rfl

theorem manifestBytes_answers (backing : Backing σ) (name version : String) (shared : Shared σ) :
    let answered := backing.answer name version shared.outside
    let asked := runFrom (backing.archive.manifestBytes name version) shared
    asked.1 = answered.1.map (·.bytes) ∧ asked.2.outside = answered.2 ∧
      backing.recalled asked.2 = match answered.1 with
        | .ok supply => supply.identifier
        | .error _ => backing.recalled shared := by
  cases backing with
  | documents plane =>
      simp only [answer, archive, ControlPlane.documentArchive, ControlPlane.fetchDocument,
        Shared.plane, bind_assoc, runFrom_bind, Shared.runFrom_venture]
      rcases runFrom (plane.getDocument name version) shared.outside with ⟨answered, left⟩
      cases answered with
      | error failure => exact ⟨rfl, rfl, rfl⟩
      | ok response => exact ⟨rfl, rfl, rfl⟩
  | repository plane supplied =>
      simp only [answer, archive, ControlPlane.repositoryArchive]
      cases suppliedManifest? supplied with
      | some manifest => exact ⟨rfl, rfl, rfl⟩
      | none =>
          simp only [Shared.plane, runFrom_bind, Shared.runFrom_venture]
          rcases runFrom (plane.getManifest name version) shared.outside with ⟨answered, left⟩
          cases answered with
          | error failure => exact ⟨rfl, rfl, rfl⟩
          | ok response => exact ⟨rfl, rfl, rfl⟩

@[simp] theorem stepFrom_identifier (backing : Backing σ) (manifest : Manifest)
    (shared : Shared σ) :
    stepFrom (backing.archive.identifier manifest) shared = (backing.recalled shared, shared) := by
  cases backing with
  | documents plane => rfl
  | repository plane supplied => rfl

end Backing

/-! ### Callers -/

/-- What a caller does that others may come to know of. -/
inductive Happening (ι : Type) where
  | received (caller : ι) (supply : Supply)
  | named (caller : ι) (resource : String)
  | filed (caller : ι) (resource version : String) (bytes : Bytes)
  deriving DecidableEq

/-- The identifier on record after what happened. -/
def Happening.record (happenings : List (Happening ι)) (known : String) : String :=
  happenings.foldl (fun known happening => match happening with
    | .received _ supply => supply.identifier
    | _ => known) known

/-- Callers that share a store: how far each of them is, what they share, and what happened. -/
structure Callers (ι σ : Type) where
  stages : ι → Store.Stage
  shared : Shared σ
  happenings : List (Happening ι) := []

namespace Callers

def store (backing : Backing σ) (cache : ManifestCache (StateM σ)) : Store (StateM (Shared σ)) where
  archive := backing.archive
  cache :=
    { read := fun resource version => Shared.venture (cache.read resource version)
      write := fun resource version bytes => Shared.venture (cache.write resource version bytes) }

variable (backing : Backing σ) (cache : ManifestCache (StateM σ))

/-- What happens in a step of a caller. -/
def happens (caller : ι) (name version : String) (shared : Shared σ) :
    Store.Stage → List (Happening ι)
  | .ready =>
    match (backing.answer name version shared.outside).1 with
    | .ok supply => [.received caller supply]
    | .error _ => []
  | .received .. => [.named caller (backing.recalled shared)]
  | .compared bytes manifest resource _ =>
    match (runFrom (cache.write resource manifest.version bytes) shared.outside).1 with
    | .ok () => [.filed caller resource manifest.version bytes]
    | .error _ => []
  | _ => []

/-- A caller received a supply that spells a manifest, and `since` is what happened after that. -/
structure Receives (caller : ι) (happenings : List (Happening ι)) (supply : Supply)
    (manifest : Manifest) (since : List (Happening ι)) : Prop where
  happened : ∃ before, happenings = before ++ .received caller supply :: since
  spelled : Manifest.parse supply.bytes = .ok manifest

/-- A caller received a supply, and was later told the identifier that was then on record; `since`
is what happened after that. -/
structure Names (caller : ι) (happenings : List (Happening ι)) (supply : Supply)
    (manifest : Manifest) (resource : String) (since : List (Happening ι)) : Prop where
  happened : ∃ before between,
    happenings = before ++ .received caller supply :: (between ++ .named caller resource :: since) ∧
      resource = Happening.record between supply.identifier
  spelled : Manifest.parse supply.bytes = .ok manifest

/-- What happened accounts for how far a caller is. -/
def Accounts (caller : ι) (happenings : List (Happening ι)) : Store.Stage → Prop
  | .ready => True
  | .received bytes manifest => ∃ supply since,
    supply.bytes = bytes ∧ Receives caller happenings supply manifest since
  | .named bytes manifest resource | .compared bytes manifest resource _ => ∃ supply since,
    supply.bytes = bytes ∧ Names caller happenings supply manifest resource since
  | .ended (.error _) => True
  | .ended (.ok resolved) => ∃ supply since,
    Names caller happenings supply resolved.manifest resolved.resource since ∧
      .filed caller resolved.resource resolved.manifest.version supply.bytes ∈ since

theorem Receives.append {caller : ι} {happenings since : List (Happening ι)} {supply : Supply}
    {manifest : Manifest} (receives : Receives caller happenings supply manifest since)
    (more : List (Happening ι)) :
    Receives caller (happenings ++ more) supply manifest (since ++ more) := by
  obtain ⟨⟨before, rfl⟩, spelled⟩ := receives
  exact ⟨⟨before, by rw [List.append_assoc, List.cons_append]⟩, spelled⟩

theorem Names.append {caller : ι} {happenings since : List (Happening ι)} {supply : Supply}
    {manifest : Manifest} {resource : String}
    (names : Names caller happenings supply manifest resource since)
    (more : List (Happening ι)) :
    Names caller (happenings ++ more) supply manifest resource (since ++ more) := by
  obtain ⟨⟨before, between, rfl, told⟩, spelled⟩ := names
  refine ⟨⟨before, between, ?_, told⟩, spelled⟩
  simp only [List.append_assoc, List.cons_append]

theorem Accounts.append {caller : ι} {happenings : List (Happening ι)} {stage : Store.Stage}
    (accounts : Accounts caller happenings stage) (more : List (Happening ι)) :
    Accounts caller (happenings ++ more) stage := by
  cases stage with
  | ready => trivial
  | received bytes manifest =>
      obtain ⟨supply, since, same, receives⟩ := accounts
      exact ⟨supply, since ++ more, same, receives.append more⟩
  | named bytes manifest resource =>
      obtain ⟨supply, since, same, names⟩ := accounts
      exact ⟨supply, since ++ more, same, names.append more⟩
  | compared bytes manifest resource unchanged =>
      obtain ⟨supply, since, same, names⟩ := accounts
      exact ⟨supply, since ++ more, same, names.append more⟩
  | ended ending =>
      cases ending with
      | error failure => trivial
      | ok resolved =>
          obtain ⟨supply, since, names, filed⟩ := accounts
          exact ⟨supply, since ++ more, names.append more, List.mem_append_left more filed⟩

theorem record_append (happenings more : List (Happening ι)) (known : String) :
    Happening.record (happenings ++ more) known =
      Happening.record more (Happening.record happenings known) :=
  List.foldl_append

theorem record_of_no_response {happenings : List (Happening ι)} (known : String)
    (none : ∀ caller supply, .received caller supply ∉ happenings) :
    Happening.record happenings known = known := by
  induction happenings with
  | nil => rfl
  | cons happening rest ih =>
      have later := ih fun caller supply inside =>
        none caller supply (List.mem_cons_of_mem _ inside)
      cases happening with
      | received caller supply => exact absurd List.mem_cons_self (none caller supply)
      | named caller resource => exact later
      | filed caller resource version bytes => exact later

theorem Accounts.advance {caller : ι} {happenings : List (Happening ι)} {stage : Store.Stage}
    (accounts : Accounts caller happenings stage) {shared : Shared σ} {initial : String}
    (recalls : backing.recalled shared = Happening.record happenings initial)
    (name version : String) :
    Accounts caller (happenings ++ happens backing cache caller name version shared stage)
      (stepFrom ((store backing cache).advance name version stage) shared).1 := by
  cases stage with
  | ready =>
      obtain ⟨asked, -, -⟩ := backing.manifestBytes_answers name version shared
      rw [Store.stepFrom_advance_ready]
      change Accounts caller _ (.ofAnswer (runFrom (backing.archive.manifestBytes name version)
        shared).1)
      rw [asked]
      unfold happens
      cases (backing.answer name version shared.outside).1 with
      | error failure => trivial
      | ok supply =>
          dsimp only [Except.map, Store.Stage.ofAnswer]
          cases spelled : Manifest.parse supply.bytes with
          | error failure => trivial
          | ok manifest => exact ⟨supply, [], rfl, ⟨happenings, rfl⟩, spelled⟩
  | received bytes manifest =>
      obtain ⟨supply, since, rfl, ⟨before, rfl⟩, spelled⟩ := accounts
      -- The record is read now: it is of the latest response, be that the caller's own or not.
      rw [Store.stepFrom_advance_received]
      change Accounts caller _ (.named supply.bytes manifest
        (stepFrom (backing.archive.identifier manifest) shared).1)
      rw [backing.stepFrom_identifier]
      refine ⟨supply, [], rfl, ⟨before, since, ?_, ?_⟩, spelled⟩
      · simp only [happens, List.append_assoc, List.cons_append]
      · rw [recalls, record_append]
        rfl
  | named bytes manifest resource =>
      rw [Store.stepFrom_advance_named]
      exact accounts.append []
  | compared bytes manifest resource unchanged =>
      obtain ⟨supply, since, rfl, names⟩ := accounts
      rw [Store.stepFrom_advance_compared]
      change Accounts caller _ (.ofWrite manifest resource unchanged
        (runFrom (cache.write resource manifest.version supply.bytes) shared.outside).1)
      unfold happens
      dsimp only
      cases (runFrom (cache.write resource manifest.version supply.bytes) shared.outside).1 with
      | error failure => trivial
      | ok done =>
          exact ⟨supply, since ++ [_], names.append [_],
            List.mem_append_right since List.mem_cons_self⟩
  | ended ending =>
      rw [Store.stepFrom_advance_ended]
      exact accounts.append []

theorem recalled_advance {happenings : List (Happening ι)} {shared : Shared σ} {initial : String}
    (recalls : backing.recalled shared = Happening.record happenings initial) (caller : ι)
    (name version : String) (stage : Store.Stage) :
    backing.recalled (stepFrom ((store backing cache).advance name version stage) shared).2 =
      Happening.record (happenings ++ happens backing cache caller name version shared stage)
        initial := by
  rw [record_append, ← recalls]
  cases stage with
  | ready =>
      obtain ⟨-, -, remembers⟩ := backing.manifestBytes_answers name version shared
      rw [Store.stepFrom_advance_ready]
      refine remembers.trans ?_
      unfold happens
      cases (backing.answer name version shared.outside).1 with
      | error failure => rfl
      | ok supply => rfl
  | received bytes manifest =>
      rw [Store.stepFrom_advance_received]
      change backing.recalled (stepFrom (backing.archive.identifier manifest) shared).2 = _
      rw [backing.stepFrom_identifier]
      rfl
  | named bytes manifest resource =>
      rw [Store.stepFrom_advance_named, Store.runFrom_cached]
      exact backing.recalled_outside shared _
  | compared bytes manifest resource unchanged =>
      rw [Store.stepFrom_advance_compared]
      refine (backing.recalled_outside shared _).trans ?_
      unfold happens
      dsimp only
      cases (runFrom (cache.write resource manifest.version bytes) shared.outside).1 with
      | error failure => rfl
      | ok done => rfl
  | ended ending => rfl

/-! ### Schedules -/

def start (shared : Shared σ) : Callers ι σ :=
  { stages := fun _ => .ready, shared }

/-- The record is that of the latest response, and what happened accounts for every caller. -/
structure Sound (initial : String) (callers : Callers ι σ) : Prop where
  recalls : backing.recalled callers.shared = Happening.record callers.happenings initial
  accounts : ∀ caller, Accounts caller callers.happenings (callers.stages caller)

theorem sound_start (shared : Shared σ) :
    Sound backing (backing.recalled shared) (start shared : Callers ι σ) :=
  ⟨rfl, fun _ => trivial⟩

variable [DecidableEq ι] (asks : ι → String × String)

/-- One step of a caller, who resolves the manifest of the package that it asks for. -/
def step (callers : Callers ι σ) (caller : ι) : Callers ι σ :=
  let (name, version) := asks caller
  let stage := callers.stages caller
  let (next, shared) := stepFrom ((store backing cache).advance name version stage) callers.shared
  { stages := Function.update callers.stages caller next
    shared
    happenings :=
      callers.happenings ++ happens backing cache caller name version callers.shared stage }

def run (schedule : List ι) (callers : Callers ι σ) : Callers ι σ :=
  schedule.foldl (step backing cache asks) callers

variable {backing cache asks}

theorem Sound.step {initial : String} {callers : Callers ι σ}
    (sound : Sound backing initial callers) (caller : ι) :
    Sound backing initial (step backing cache asks callers caller) := by
  constructor
  case recalls => exact recalled_advance backing cache sound.recalls caller _ _ _
  case accounts =>
    intro other
    change Accounts other _ (Function.update callers.stages caller _ other)
    by_cases same : other = caller
    · subst same
      rw [Function.update_self]
      exact (sound.accounts other).advance backing cache sound.recalls _ _
    · rw [Function.update_of_ne same]
      exact (sound.accounts other).append _

theorem Sound.run {initial : String} {callers : Callers ι σ}
    (sound : Sound backing initial callers) (schedule : List ι) :
    Sound backing initial (run backing cache asks schedule callers) := by
  -- One step of any caller keeps what accounts for all of them.
  induction schedule generalizing callers with
  | nil => exact sound
  | cons caller rest ih => exact ih (sound.step caller)

/-- Callers share a store, and their steps are carried out in any order. A caller that succeeds has
received a supply, was then told the identifier on record, reports it, and has filed the bytes of
its supply under it. The identifier is that of the latest response, from when the caller received
its own until it was told: its own, if nobody received another response in between. -/
theorem files_under_latest (shared : Shared σ) (schedule : List ι) {caller : ι}
    {resolved : ResolvedManifest}
    (succeeds : (run backing cache asks schedule (start shared)).stages caller =
      .ended (.ok resolved)) :
    ∃ supply before between since,
      (run backing cache asks schedule (start shared)).happenings =
        before ++ .received caller supply ::
          (between ++ .named caller resolved.resource :: since) ∧
      .filed caller resolved.resource resolved.manifest.version supply.bytes ∈ since ∧
      Manifest.parse supply.bytes = .ok resolved.manifest ∧
      resolved.resource = Happening.record between supply.identifier ∧
      ((∀ other response, .received other response ∉ between) →
        resolved.resource = supply.identifier) := by
  have sound : Sound backing _ (run backing cache asks schedule (start shared)) :=
    (sound_start backing shared).run schedule
  have accounts := sound.accounts caller
  rw [succeeds] at accounts
  obtain ⟨supply, since, ⟨⟨before, between, happened, told⟩, spelled⟩, filed⟩ := accounts
  refine ⟨supply, before, between, since, happened, filed, spelled, told, ?_⟩
  intro alone
  rw [told, record_of_no_response supply.identifier alone]

def anyPackage : ControlPlane (StateM MemoryCache) where
  getManifest name _ := return {
    manifest := "\x7b\"schemaVersion\":\"" ++ name ++ "\"\x7d", packageArn := "arn:" ++ name }
  getDocument name _ := return {
    content := "\x7b\"schemaVersion\":\"" ++ name ++ "\"\x7d", name := "arn:" ++ name }

def asksEither (caller : Bool) : String × String :=
  (if caller then "a" else "b", latestVersion)

/-- The other caller comes after the identifier was asked for. -/
theorem files_under_latest_undisturbed :
    let after := run (.documents anyPackage) MemoryCache.cache asksEither
      [true, true, false, false, true, true] (start { outside := {} })
    let resolved : ResolvedManifest :=
      { manifest := { schemaVersion := "a" }, resource := "arn:a", unchanged := false }
    after.stages true = .ended (.ok resolved) ∧
    ∃ supply before between since,
      after.happenings = before ++ .received true supply ::
        (between ++ .named true resolved.resource :: since) ∧
      .filed true resolved.resource resolved.manifest.version supply.bytes ∈ since ∧
      Manifest.parse supply.bytes = .ok resolved.manifest ∧
      resolved.resource = Happening.record between supply.identifier ∧
      ((∀ other response, .received other response ∉ between) →
        resolved.resource = supply.identifier) := by
  intro after resolved
  have succeeds : after.stages true = .ended (.ok resolved) := by decide +kernel
  exact ⟨succeeds, @files_under_latest MemoryCache Bool (.documents anyPackage) MemoryCache.cache _
    asksEither { outside := {} } [true, true, false, false, true, true] true resolved succeeds⟩

/-- The other caller comes before the identifier is asked for, and the manifest of one package is
filed under the identifier of the other. -/
def Misfiles (backing : Backing MemoryCache) : Prop :=
  let after := run backing MemoryCache.cache asksEither [true, false, true, true, true]
    (start { outside := {} })
  let bytes := Utf8.encode "\x7b\"schemaVersion\":\"a\"\x7d"
  .received true { bytes, identifier := "arn:a" } ∈ after.happenings ∧
    after.stages true = .ended (.ok
      { manifest := { schemaVersion := "a" }, resource := "arn:b", unchanged := false }) ∧
    after.shared.outside.get? "arn:b" "" = some bytes

instance (backing : Backing MemoryCache) : Decidable (Misfiles backing) :=
  inferInstanceAs (Decidable (_ ∧ _))

theorem files_under_other :
    Misfiles (.documents anyPackage) ∧ Misfiles (.repository anyPackage none) := by
  decide +kernel

end Callers

end Courier
