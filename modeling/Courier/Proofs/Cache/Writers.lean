import Courier.Proofs.Cache.Atomic
import Courier.Proofs.Files.Volume
/-!
Several writers of one key of the cache in files. They share the draft as well as the manifest, and
each of them writes to the draft by what it has opened. Main statement: if nobody goes on with a
draft that another writer has begun anew, the manifest is at every point what it was before, or the
whole of what a writer has put there; otherwise it may be neither.
-/

namespace Courier.FileCache

def draftSteps : List WriteStep :=
  [.createDraft, .fillDraft, .syncDraft, .replaceManifest]

theorem writeSteps_eq : writeSteps = [.makeDirectory, .markResource] ++ draftSteps := rfl

variable (cache : FileCache) (entry : Entry)

def drafting (steps : List WriteStep) : Plan (Except Failure Unit) :=
  (steps.forM (cache.runStep Plan.access entry)).run

theorem drafting_create : ∃ goOn,
    cache.drafting entry draftSteps =
      .act (.create (cache.draftPath entry.resource entry.version)) goOn ∧
    goOn (.ok ()) = cache.drafting entry [.fillDraft, .syncDraft, .replaceManifest] ∧
    ∀ fault, ∃ failure, goOn (.error fault) = .done (.error failure) :=
  ⟨_, rfl, rfl, fun _ => ⟨_, rfl⟩⟩

theorem drafting_fill : ∃ goOn,
    cache.drafting entry [.fillDraft, .syncDraft, .replaceManifest] =
      .write (cache.draftPath entry.resource entry.version) entry.bytes goOn ∧
    goOn (.ok ()) = cache.drafting entry [.syncDraft, .replaceManifest] :=
  ⟨_, rfl, rfl⟩

theorem drafting_sync : ∃ goOn,
    cache.drafting entry [.syncDraft, .replaceManifest] =
      .act (.sync (cache.draftPath entry.resource entry.version)) goOn ∧
    goOn (.ok ()) = cache.drafting entry [.replaceManifest] :=
  ⟨_, rfl, rfl⟩

theorem drafting_replace : ∃ goOn,
    cache.drafting entry [.replaceManifest] =
      .act (.rename (cache.draftPath entry.resource entry.version)
        (cache.manifestPath entry.resource entry.version)) goOn ∧
    goOn (.ok ()) = .done (.ok ()) ∧
    ∀ fault, ∃ goOnward, goOn (.error fault) =
        .act (.remove (cache.draftPath entry.resource entry.version)) goOnward ∧
      ∀ result, ∃ failure, goOnward result = .done (.error failure) :=
  ⟨_, rfl, rfl, fun _ => ⟨_, rfl, fun _ => ⟨_, rfl⟩⟩⟩

/-- How far a writer has come, and what its draft holds then if nobody else has touched it. No
writer comes further than to the creation of its draft if there is a directory in its place. -/
inductive Stage : Option Bytes → Plan (Except Failure Unit) → Prop
  | ready : Stage none (cache.drafting entry draftSteps)
  | filling {written rest : Bytes} {goOn : Except IoFault Unit → Plan (Except Failure Unit)}
      (other : entry.version ≠ ".") (whole : written ++ rest = entry.bytes)
      (goes : goOn (.ok ()) = cache.drafting entry [.syncDraft, .replaceManifest]) :
      Stage (some written)
        (.write (cache.draftPath entry.resource entry.version) rest goOn)
  | filled (other : entry.version ≠ ".") :
      Stage (some entry.bytes) (cache.drafting entry [.syncDraft, .replaceManifest])
  | synced (other : entry.version ≠ ".") :
      Stage (some entry.bytes) (cache.drafting entry [.replaceManifest])
  | refused {goOn : Except IoFault Unit → Plan (Except Failure Unit)}
      (other : entry.version ≠ ".")
      (ends : ∀ result, ∃ failure, goOn result = .done (.error failure)) :
      Stage none (.act (.remove (cache.draftPath entry.resource entry.version)) goOn)
  | ended (ending : Except Failure Unit) : Stage none (.done ending)

section Stages

variable {cache entry} {ι : Type} {volume : Volume ι} {writer : ι}
  {held : Option Bytes} {plan : Plan (Except Failure Unit)}

/-- What a turn of a writer comes to: it holds what it must, and the manifest is as before or all
that the writer was to write. -/
structure Advances (cache : FileCache) (entry : Entry) (volume : Volume ι) (writer : ι)
    (reached : Plan (Except Failure Unit) × Volume ι) : Prop where
  stage : ∃ held, Stage cache entry held reached.1 ∧ ∀ written, held = some written →
    reached.2.Holds writer (cache.draftPath entry.resource entry.version) written
  manifest : cache.found? reached.2.files entry.resource entry.version =
      cache.found? volume.files entry.resource entry.version ∨
    reached.1 = .done (.ok ()) ∧
      cache.found? reached.2.files entry.resource entry.version = some entry.bytes

theorem Stage.unheld (stage : Stage cache entry none plan) {left : Volume ι}
    (same : cache.found? left.files entry.resource entry.version =
      cache.found? volume.files entry.resource entry.version) :
    Advances cache entry volume writer (plan, left) :=
  ⟨⟨none, stage, fun _ nothing => nomatch nothing⟩, .inl same⟩

theorem Stage.holding {written : Bytes} (stage : Stage cache entry (some written) plan)
    {left : Volume ι}
    (holds : left.Holds writer (cache.draftPath entry.resource entry.version) written)
    (same : cache.found? left.files entry.resource entry.version =
      cache.found? volume.files entry.resource entry.version) :
    Advances cache entry volume writer (plan, left) :=
  ⟨⟨some written, stage, fun _ held => Option.some.inj held ▸ holds⟩, .inl same⟩

variable [DecidableEq ι]

theorem advances_create (volume : Volume ι) (writer : ι) (count : Nat) :
    Advances cache entry volume writer
      ((cache.drafting entry draftSteps).advance volume writer count) := by
  obtain ⟨goOn, acts, goes, fails⟩ := cache.drafting_create entry
  rw [acts]
  unfold Plan.advance Volume.perform
  cases created : volume.files.create (cache.draftPath entry.resource entry.version) with
  | error fault =>
      obtain ⟨failure, ends⟩ := fails fault
      simp only [Volume.change, created, ends]
      exact (Stage.ended _).unheld rfl
  | ok files =>
      obtain ⟨goOnward, writes, goesOn⟩ := cache.drafting_fill entry
      simp only [Volume.change, created, goes, writes]
      exact (Stage.filling (version_ne_of_createDraft created) (List.nil_append _) goesOn).holding
        (Volume.holds_of_create created) ((sameManifests_createDraft created).found? _ _)

theorem advances_fill {written rest : Bytes}
    {goOn : Except IoFault Unit → Plan (Except Failure Unit)}
    (other : entry.version ≠ ".") (whole : written ++ rest = entry.bytes)
    (goes : goOn (.ok ()) = cache.drafting entry [.syncDraft, .replaceManifest])
    (holds : volume.Holds writer (cache.draftPath entry.resource entry.version) written)
    (count : Nat) :
    Advances cache entry volume writer ((Plan.write
      (cache.draftPath entry.resource entry.version) rest goOn).advance volume writer count) := by
  obtain ⟨appended, further⟩ := holds.write (rest.take count)
  have same : cache.found? (volume.write writer (rest.take count)).files entry.resource
      entry.version = cache.found? volume.files entry.resource entry.version := by
    rw [draftPath_eq] at appended
    exact (sameManifests_append (isName_draft other) (draftName_ne _) appended).found? _ _
  unfold Plan.advance
  dsimp only
  split
  · refine (Stage.filling other ?_ goes).holding further same
    rw [List.append_assoc, List.take_append_drop, whole]
  · next long =>
      rw [List.take_of_length_le (Nat.not_lt.mp long)] at further same ⊢
      rw [whole] at further
      rw [goes]
      exact (Stage.filled other).holding further same

theorem advances_sync (other : entry.version ≠ ".")
    (holds : volume.Holds writer (cache.draftPath entry.resource entry.version) entry.bytes)
    (count : Nat) :
    Advances cache entry volume writer
      ((cache.drafting entry [.syncDraft, .replaceManifest]).advance volume writer count) := by
  obtain ⟨goOn, acts, goes⟩ := cache.drafting_sync entry
  rw [acts]
  unfold Plan.advance Volume.perform
  simp only [Volume.change, Volume.reopen, goes]
  exact (Stage.synced other).holding holds rfl

theorem advances_replace (other : entry.version ≠ ".")
    (holds : volume.Holds writer (cache.draftPath entry.resource entry.version) entry.bytes)
    (count : Nat) :
    Advances cache entry volume writer
      ((cache.drafting entry [.replaceManifest]).advance volume writer count) := by
  obtain ⟨goOn, acts, goes, fails⟩ := cache.drafting_replace entry
  rw [acts]
  unfold Plan.advance Volume.perform
  cases renamed : volume.files.rename (cache.draftPath entry.resource entry.version)
    (cache.manifestPath entry.resource entry.version) with
  | error fault =>
      obtain ⟨goOnward, removes, ends⟩ := fails fault
      simp only [Volume.change, renamed, removes]
      exact (Stage.refused other ends).unheld rfl
  | ok files =>
      simp only [Volume.change, renamed, goes]
      have apart : Apart [entry.resource] := by simp [Apart]
      have leaves := leaves_of_rename apart List.mem_cons_self other (fun _ _ => rfl) holds.read
        renamed
      cases leaves with
      | replaced new others =>
          refine ⟨⟨none, .ended _, ?_⟩, .inr ⟨rfl, new⟩⟩
          rintro _ ⟨⟩

theorem advances_remove {goOn : Except IoFault Unit → Plan (Except Failure Unit)}
    (other : entry.version ≠ ".")
    (ends : ∀ result, ∃ failure, goOn result = .done (.error failure)) (volume : Volume ι)
    (writer : ι) (count : Nat) :
    Advances cache entry volume writer ((Plan.act
      (.remove (cache.draftPath entry.resource entry.version)) goOn).advance volume writer
        count) := by
  unfold Plan.advance Volume.perform
  cases removed : volume.files.remove (cache.draftPath entry.resource entry.version) with
  | error fault =>
      obtain ⟨failure, ended⟩ := ends (.error fault)
      simp only [Volume.change, removed, ended]
      exact (Stage.ended _).unheld rfl
  | ok files =>
      obtain ⟨failure, ended⟩ := ends (.ok ())
      simp only [Volume.change, removed, ended]
      refine (Stage.ended _).unheld ?_
      rw [draftPath_eq] at removed
      exact (sameManifests_remove (isName_draft other) (draftName_ne _) removed).found? _ _

theorem Stage.advances (stage : Stage cache entry held plan)
    (holds : ∀ written, held = some written →
      volume.Holds writer (cache.draftPath entry.resource entry.version) written) (count : Nat) :
    Advances cache entry volume writer (plan.advance volume writer count) := by
  cases stage with
  | ready => exact advances_create volume writer count
  | filling other whole goes => exact advances_fill other whole goes (holds _ rfl) count
  | filled other => exact advances_sync other (holds _ rfl) count
  | synced other => exact advances_replace other (holds _ rfl) count
  | refused other ends => exact advances_remove other ends volume writer count
  | ended ending => exact ⟨⟨none, .ended ending, holds⟩, .inl rfl⟩

end Stages

end Courier.FileCache

namespace Courier

open FileCache

/-! ### Several writers -/

def Plan.creates {α : Type} : Plan α → Bool
  | .act (.create _) _ => true
  | _ => false

def Plan.isDone {α : Type} : Plan α → Bool
  | .done _ => true
  | _ => false

/-- Writers of one key: what each has still to do, what they share, and who has begun the draft
last. -/
structure Writers (ι : Type) where
  plans : ι → Plan (Except Failure Unit)
  volume : Volume ι
  drafter : Option ι := none

namespace Writers

variable {ι : Type}

def start (cache : FileCache) (resource version : String) (data : ι → Bytes) (volume : Volume ι) :
    Writers ι where
  plans writer := cache.drafting { resource, version, bytes := data writer } draftSteps
  volume

/-- The draft that a writer goes on with is its own, as nobody has begun it anew since. -/
def Undisturbed (writers : Writers ι) (writer : ι) : Prop :=
  (writers.plans writer).isDone = true ∨ (writers.plans writer).creates = true ∨
    writers.drafter = some writer

variable [DecidableEq ι]

instance (writers : Writers ι) (writer : ι) : Decidable (writers.Undisturbed writer) :=
  inferInstanceAs (Decidable (_ ∨ _ ∨ _))

/-- A turn of a writer: its next operation, or a part of what it writes. -/
def turn (writers : Writers ι) (turn : ι × Nat) : Writers ι :=
  let (writer, count) := turn
  let (plan, volume) := (writers.plans writer).advance writers.volume writer count
  { plans := Function.update writers.plans writer plan
    volume
    drafter := if (writers.plans writer).creates then some writer else writers.drafter }

def run (writers : Writers ι) (schedule : List (ι × Nat)) : Writers ι :=
  schedule.foldl turn writers

/-- No writer goes on with a draft that another one has begun anew. -/
def Orderly : Writers ι → List (ι × Nat) → Prop
  | _, [] => True
  | writers, next :: rest => writers.Undisturbed next.1 ∧ Orderly (writers.turn next) rest

instance decideOrderly : (writers : Writers ι) → (schedule : List (ι × Nat)) →
    Decidable (writers.Orderly schedule)
  | _, [] => .isTrue trivial
  | writers, next :: rest =>
    haveI := decideOrderly (writers.turn next) rest
    inferInstanceAs (Decidable (_ ∧ _))

theorem Orderly.front {writers : Writers ι} {front rest : List (ι × Nat)}
    (orderly : writers.Orderly (front ++ rest)) : writers.Orderly front := by
  induction front generalizing writers with
  | nil => trivial
  | cons next later ih => exact ⟨orderly.1, ih orderly.2⟩

variable {cache : FileCache} {resource version : String} {data : ι → Bytes} {before : FileSystem}

/-- The manifest reads as before, or as all the data of a writer that has succeeded. -/
def Whole (cache : FileCache) (resource version : String) (data : ι → Bytes) (before : FileSystem)
    (writers : Writers ι) : Prop :=
  cache.found? writers.volume.files resource version = cache.found? before resource version ∨
    ∃ writer, writers.plans writer = .done (.ok ()) ∧
      cache.found? writers.volume.files resource version = some (data writer)

/-- Every writer is at some stage, the last drafter holds what it must, and the manifest is
whole. -/
structure Sound (cache : FileCache) (resource version : String) (data : ι → Bytes)
    (before : FileSystem) (writers : Writers ι) : Prop where
  stages : ∀ writer, ∃ held,
    Stage cache { resource, version, bytes := data writer } held (writers.plans writer) ∧
      (writers.drafter = some writer → ∀ written, held = some written →
        writers.volume.Holds writer (cache.draftPath resource version) written)
  manifest : Whole cache resource version data before writers

omit [DecidableEq ι] in
theorem sound_start (cache : FileCache) (resource version : String) (data : ι → Bytes)
    (volume : Volume ι) :
    Sound cache resource version data volume.files (start cache resource version data volume) :=
  ⟨fun _ => ⟨none, .ready, fun drafts => nomatch drafts⟩, .inl rfl⟩

theorem held_of_stage {entry : Entry} {held : Option Bytes} {plan : Plan (Except Failure Unit)}
    (stage : Stage cache entry held plan) (free : plan.isDone = true ∨ plan.creates = true) :
    held = none := by
  cases stage with
  | ready => rfl
  | filling other whole goes => rcases free with finished | begins <;> contradiction
  | filled other => rcases free with finished | begins <;> contradiction
  | synced other => rcases free with finished | begins <;> contradiction
  | refused other ends => rfl
  | ended ending => rfl

theorem Sound.advances {writers : Writers ι}
    (sound : Sound cache resource version data before writers) {writer : ι}
    (undisturbed : writers.Undisturbed writer) (count : Nat) :
    Advances cache { resource, version, bytes := data writer } writers.volume writer
      ((writers.plans writer).advance writers.volume writer count) := by
  obtain ⟨held, stage, holds⟩ := sound.stages writer
  refine stage.advances ?_ count
  rcases undisturbed with finished | begins | drafts
  · rw [held_of_stage stage (.inl finished)]
    exact fun _ nothing => nomatch nothing
  · rw [held_of_stage stage (.inr begins)]
    exact fun _ nothing => nomatch nothing
  · exact holds drafts

theorem advance_of_isDone {plan : Plan (Except Failure Unit)} (finished : plan.isDone = true)
    (volume : Volume ι) (writer : ι) (count : Nat) :
    plan.advance volume writer count = (plan, volume) := by
  cases plan with
  | done ending => rfl
  | look question goOn => cases finished
  | read path goOn => cases finished
  | write path bytes goOn => cases finished
  | act operation goOn => cases finished

theorem drafter_turn {writers : Writers ι} {writer other : ι} (count : Nat)
    (undisturbed : writers.Undisturbed writer)
    (drafts : (writers.turn (writer, count)).drafter = some other) :
    other = writer ∨ (writers.plans writer).isDone = true ∧ writers.drafter = some other := by
  unfold Writers.turn at drafts
  dsimp only at drafts
  split at drafts
  · exact .inl (Option.some.inj drafts).symm
  · next continues =>
      rcases undisturbed with finished | begins | own
      · exact .inr ⟨finished, drafts⟩
      · exact absurd begins continues
      · exact .inl (Option.some.inj (own.symm.trans drafts)).symm

theorem Sound.turn {writers : Writers ι}
    (sound : Sound cache resource version data before writers) {next : ι × Nat}
    (undisturbed : writers.Undisturbed next.1) :
    Sound cache resource version data before (writers.turn next) := by
  obtain ⟨writer, count⟩ := next
  obtain ⟨ownStage, ownManifest⟩ := sound.advances undisturbed count
  constructor
  case stages =>
    intro other
    change ∃ held, Stage cache _ held (Function.update writers.plans writer _ other) ∧ _
    by_cases same : other = writer
    · subst same
      rw [Function.update_self]
      obtain ⟨held, stage, holds⟩ := ownStage
      exact ⟨held, stage, fun _ => holds⟩
    · rw [Function.update_of_ne same]
      obtain ⟨held, stage, holds⟩ := sound.stages other
      refine ⟨held, stage, fun drafts => ?_⟩
      obtain own | ⟨finished, still⟩ := drafter_turn count undisturbed drafts
      · exact absurd own same
      · unfold Writers.turn
        dsimp only
        rw [advance_of_isDone finished]
        exact holds still
  case manifest =>
    rcases ownManifest with same | ⟨ended, found⟩
    · rcases sound.manifest with kept | ⟨first, ended, found⟩
      · exact .inl (same.trans kept)
      · refine .inr ⟨first, ?_, same.trans found⟩
        change Function.update writers.plans writer _ first = _
        by_cases own : first = writer
        · subst own
          rw [Function.update_self, ended]
        · rw [Function.update_of_ne own]
          exact ended
    · exact .inr ⟨writer, (Function.update_self ..).trans ended, found⟩

theorem Sound.run {writers : Writers ι} (sound : Sound cache resource version data before writers)
    {schedule : List (ι × Nat)} (orderly : writers.Orderly schedule) :
    Sound cache resource version data before (writers.run schedule) := by
  -- A turn keeps soundness only where the draft is the writer's own, so the order goes along.
  induction schedule generalizing writers with
  | nil => exact sound
  | cons next rest ih => exact ih (sound.turn orderly.1) orderly.2

/-- Several writers put their data under one key, and their operations are carried out in any order
in which nobody goes on with a draft that another writer has begun anew. At every point the manifest
reads as before, or as all the data of one of them. -/
theorem manifest_whole (cache : FileCache) (resource version : String) (data : ι → Bytes)
    (volume : Volume ι) {schedule : List (ι × Nat)}
    (orderly : (start cache resource version data volume).Orderly schedule)
    {point : List (ι × Nat)} (early : point <+: schedule) :
    Whole cache resource version data volume.files
      ((start cache resource version data volume).run point) := by
  obtain ⟨rest, rfl⟩ := early
  exact ((sound_start cache resource version data volume).run orderly.front).manifest

def eitherData (writer : Bool) : Bytes :=
  Utf8.encode (if writer then "AAAAaaaa" else "BBBB")

/-- One writer stops in the middle of its draft, and the other one begins it anew. -/
theorem manifest_whole_after_stop :
    let cache : FileCache := { root := { text := "/cache" } }
    let volume : Volume Bool := { files := stocked "cache", atEnd := false }
    let writers := start cache "pkg" "1.0" eitherData volume
    let schedule :=
      [(true, 0), (true, 4), (false, 0), (false, 3), (false, 3), (false, 0), (false, 0)]
    writers.Orderly schedule ∧
      Whole cache "pkg" "1.0" eitherData volume.files (writers.run schedule) ∧
      cache.found? (writers.run schedule).volume.files "pkg" "1.0" =
        some (Utf8.encode "BBBB") := by
  intro cache volume writers schedule
  have facts : writers.Orderly schedule ∧
      cache.found? (writers.run schedule).volume.files "pkg" "1.0" =
        some (Utf8.encode "BBBB") := by decide +kernel
  exact ⟨facts.1, manifest_whole cache "pkg" "1.0" eitherData volume facts.1
    (List.prefix_refl schedule), facts.2⟩

/-- One writer begins the draft anew that the other one is still writing, and moves it. What the
other one writes then goes into the manifest, which is neither what it was nor what either of them
had to write. -/
theorem manifest_mixed :
    let cache : FileCache := { root := { text := "/cache" } }
    let schedule :=
      [(true, 0), (true, 4), (false, 0), (false, 4), (false, 0), (false, 0), (true, 4)]
    ∀ atEnd : Bool,
      let volume : Volume Bool := { files := stocked "cache", atEnd }
      let now := (start cache "pkg" "1.0" eitherData volume).run schedule
      let found := cache.found? now.volume.files "pkg" "1.0"
      found = some (Utf8.encode "BBBBaaaa") ∧
        found ≠ cache.found? volume.files "pkg" "1.0" ∧
        ∀ writer, found ≠ some (eitherData writer) := by
  decide +kernel

end Writers

end Courier
