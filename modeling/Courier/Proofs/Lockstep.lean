import Courier.Proofs.Store.Fetch
import Courier.Service.Basic
/-!
Two services side by side, in states that are related somehow. Notes in a trace are left out of
account, as they quote the cause of a failed look-up. Main statement: as long as the parts of the
two services answer alike, and each finds a manifest in its cache just where the other finds the
same one, their operations end alike and leave related states.
-/

namespace Courier

variable {σ ε ε' α β γ δ : Type}

/-- From related states two actions come to values that belong together, and leave related
states. -/
def Lockstep (related : σ → σ → Prop) (same : α → β → Prop) (left : StateM σ α)
    (right : StateM σ β) : Prop :=
  ∀ start other, related start other →
    same (stepFrom left start).1 (stepFrom right other).1 ∧
      related (stepFrom left start).2 (stepFrom right other).2

section Actions

variable {related : σ → σ → Prop} {same : α → β → Prop} {alike : γ → δ → Prop}

theorem lockstep_pure {left : α} {right : β} (values : same left right) :
    Lockstep related same (pure left) (pure right) :=
  fun _ _ relates => ⟨values, relates⟩

theorem lockstep_refl (action : StateM σ α) : Lockstep Eq Eq action action := by
  rintro start _ rfl
  exact ⟨rfl, rfl⟩

theorem Lockstep.bind {left : StateM σ α} {right : StateM σ β} {next : α → StateM σ γ}
    {other : β → StateM σ δ} (first : Lockstep related same left right)
    (later : ∀ value twin, same value twin → Lockstep related alike (next value) (other twin)) :
    Lockstep related alike (left >>= next) (right >>= other) := by
  intro start twin relates
  obtain ⟨values, states⟩ := first start twin relates
  exact later _ _ values _ _ states

theorem Lockstep.bindExcept {left right : ExceptT ε (StateM σ) α}
    {next other : α → ExceptT ε (StateM σ) γ} (first : Lockstep related Eq left.run right.run)
    (later : ∀ value, Lockstep related Eq (next value).run (other value).run) :
    Lockstep related Eq (left >>= next).run (right >>= other).run := by
  change Lockstep related Eq (left.run >>= ExceptT.bindCont next)
    (right.run >>= ExceptT.bindCont other)
  refine first.bind ?_
  rintro value _ rfl
  cases value with
  | ok value => exact later value
  | error cause => exact lockstep_pure rfl

theorem Lockstep.bindOutcome {left : ExceptT ε (StateM σ) α} {right : ExceptT ε (StateM σ) β}
    {endings : Except ε α → Except ε β → Prop}
    {next : Except ε α → ExceptT ε' (StateM σ) γ} {other : Except ε β → ExceptT ε' (StateM σ) γ}
    (first : Lockstep related endings left.run right.run)
    (later : ∀ ending twin, endings ending twin →
      Lockstep related Eq (next ending).run (other twin).run) :
    Lockstep related Eq (outcome left >>= next).run (outcome right >>= other).run :=
  Lockstep.bind first later

theorem Lockstep.lift {left right : StateM σ α} (steps : Lockstep related Eq left right) :
    Lockstep related Eq (liftM left : ExceptT ε (StateM σ) α).run
      (liftM right : ExceptT ε (StateM σ) α).run := by
  intro start other relates
  obtain ⟨values, states⟩ := steps start other relates
  exact ⟨congrArg Except.ok values, states⟩

theorem lockstep_ofExcept (result : Except ε α) :
    Lockstep related Eq (MonadExcept.ofExcept result : ExceptT ε (StateM σ) α).run
      (MonadExcept.ofExcept result : ExceptT ε (StateM σ) α).run := by
  cases result with
  | ok value => exact lockstep_pure rfl
  | error cause => exact lockstep_pure rfl

end Actions

def TraceSection.outline (opened : TraceSection) : TraceSection :=
  { opened with info := [] }

def TraceEntry.outline (entry : TraceEntry) : TraceEntry :=
  { entry with info := [] }

def Trace.outline (trace : Trace) : Trace :=
  trace.map TraceEntry.outline

theorem TraceSection.outline_close (opened : TraceSection) (endNanos : Int64) :
    (opened.close endNanos).outline = (opened.outline.close endNanos).outline := rfl

/-- Traced actions that from related states, and from traces with one outline, come to values that
belong together and leave such states and traces. -/
def TracedLockstep (related : σ → σ → Prop) (same : α → β → Prop) (left : Traced (StateM σ) α)
    (right : Traced (StateM σ) β) : Prop :=
  ∀ trace noted start other, Trace.outline trace = Trace.outline noted → related start other →
    same (runTraced left trace start).1 (runTraced right noted other).1 ∧
      Trace.outline (runTraced left trace start).2.1 =
        Trace.outline (runTraced right noted other).2.1 ∧
      related (runTraced left trace start).2.2 (runTraced right noted other).2.2

section Traced

variable {related : σ → σ → Prop} {same : α → β → Prop} {alike : γ → δ → Prop}

theorem tracedLockstep_pure {left : α} {right : β} (values : same left right) :
    TracedLockstep related same (pure left) (pure right) :=
  fun _ _ _ _ outlines relates => ⟨values, outlines, relates⟩

theorem TracedLockstep.bind {left : Traced (StateM σ) α} {right : Traced (StateM σ) β}
    {next : α → Traced (StateM σ) γ} {other : β → Traced (StateM σ) δ}
    (first : TracedLockstep related same left right)
    (later : ∀ value twin, same value twin →
      TracedLockstep related alike (next value) (other twin)) :
    TracedLockstep related alike (left >>= next) (right >>= other) := by
  intro trace noted start twin outlines relates
  obtain ⟨values, traces, states⟩ := first trace noted start twin outlines relates
  rw [runTraced_bind, runTraced_bind]
  exact later _ _ values _ _ _ _ traces states

theorem Lockstep.traced {left : StateM σ α} {right : StateM σ β}
    (steps : Lockstep related same left right) :
    TracedLockstep related same (liftM left : Traced (StateM σ) α)
      (liftM right : Traced (StateM σ) β) := by
  intro trace noted start other outlines relates
  obtain ⟨values, states⟩ := steps start other relates
  exact ⟨values, outlines, states⟩

variable {tracer clock : StateM σ Int64} (readings : Lockstep related Eq tracer clock)

include readings

theorem tracedLockstep_openSection (operation : String) :
    TracedLockstep related Eq (openSection tracer operation) (openSection clock operation) := by
  intro trace noted start other outlines relates
  obtain ⟨values, states⟩ := readings start other relates
  rw [runTraced_openSection, runTraced_openSection, values]
  exact ⟨rfl, outlines, states⟩

theorem tracedLockstep_closeSection {left right : TraceSection}
    (outlines : left.outline = right.outline) :
    TracedLockstep related Eq (closeSection tracer left) (closeSection clock right) := by
  intro trace noted start other traces relates
  obtain ⟨values, states⟩ := readings start other relates
  rw [runTraced_closeSection, runTraced_closeSection, values]
  refine ⟨rfl, ?_, states⟩
  unfold Trace.outline at traces ⊢
  rw [List.map_append, List.map_append, traces, List.map_singleton, List.map_singleton,
    TraceSection.outline_close, outlines, ← TraceSection.outline_close]

theorem tracedLockstep_tracedStep (operation : String) (describe : α → String)
    {left right : ExceptT Failure (StateM σ) α} (steps : Lockstep related Eq left.run right.run) :
    TracedLockstep related Eq (tracedStep tracer operation describe left)
      (tracedStep clock operation describe right) := by
  unfold tracedStep
  refine (tracedLockstep_openSection readings operation).bind ?_
  rintro opened _ rfl
  refine steps.traced.bind ?_
  rintro ending _ rfl
  refine (tracedLockstep_closeSection readings rfl).bind ?_
  rintro _ _ -
  exact tracedLockstep_pure rfl

end Traced

def SameFinding (left right : Except Failure Manifest) : Prop :=
  left.toOption = right.toOption

/-- The parts of two services answer alike. Their caches need not fail alike, as long as each has a
manifest where the other has the same. -/
structure Service.Alike (related : σ → σ → Prop) (left right : Service (StateM σ)) : Prop where
  manifestBytes : ∀ name version, Lockstep related Eq
    (left.archive.manifestBytes name version).run (right.archive.manifestBytes name version).run
  identifier : ∀ manifest, Lockstep related Eq
    (left.archive.identifier manifest) (right.archive.identifier manifest)
  location : ∀ file name version, Lockstep related Eq
    (left.archive.location file name version).run (right.archive.location file name version).run
  cached : ∀ resource version, Lockstep related SameFinding
    (left.store.cached resource version).run (right.store.cached resource version).run
  write : ∀ resource version bytes, Lockstep related Eq
    (left.cache.write resource version bytes).run (right.cache.write resource version bytes).run
  collect : Lockstep related Eq left.collect.run right.collect.run
  download : ∀ request, Lockstep related Eq
    (left.download request).run (right.download request).run

namespace Service.Alike

variable {related : σ → σ → Prop} {left right : Service (StateM σ)}
  (alike : Alike related left right)

include alike

theorem file (resource : String) (manifest : Manifest) (bytes : Bytes) (unchanged : Bool) :
    Lockstep related Eq (left.store.file resource manifest bytes unchanged).run
      (right.store.file resource manifest bytes unchanged).run := by
  refine (alike.write resource manifest.version bytes).bindOutcome ?_
  rintro ending _ rfl
  cases ending with
  | ok done => exact lockstep_pure rfl
  | error failure => exact lockstep_pure rfl

theorem fetch (name version : String) :
    Lockstep related Eq (left.store.fetch name version).run
      (right.store.fetch name version).run := by
  unfold Store.fetch
  refine (alike.manifestBytes name version).bindExcept fun bytes => ?_
  refine (lockstep_ofExcept (Manifest.parse bytes)).bindExcept fun manifest => ?_
  refine (alike.identifier manifest).lift.bindExcept fun resource => ?_
  refine (alike.cached resource manifest.version).bindOutcome ?_
  intro found twin finding
  -- Whether the cache held the same manifest does not depend on why it held none.
  cases found with
  | ok known =>
      cases twin with
      | ok other =>
          cases finding
          exact alike.file resource manifest bytes _
      | error cause => cases finding
  | error cause =>
      cases twin with
      | ok other => cases finding
      | error other => exact alike.file resource manifest bytes false

variable {tracer clock : StateM σ Int64} (readings : Lockstep related Eq tracer clock)

include readings

theorem resolve (name version : String) :
    TracedLockstep related Eq (left.store.resolve tracer name version)
      (right.store.resolve clock name version) :=
  tracedLockstep_tracedStep readings _ _ (alike.fetch name version)

theorem downloadManifest (name version : String) :
    TracedLockstep related Eq (left.downloadManifest tracer name version)
      (right.downloadManifest clock name version) := by
  unfold Service.downloadManifest
  refine (alike.resolve readings name version).bind ?_
  rintro result _ rfl
  exact tracedLockstep_pure rfl

theorem findFile (manifest : Manifest) :
    TracedLockstep related Eq (left.findFile tracer manifest) (right.findFile clock manifest) := by
  refine tracedLockstep_tracedStep readings _ _ ?_
  have host : Lockstep related Eq left.host.run right.host.run := by
    unfold Service.host
    refine alike.collect.bindOutcome ?_
    rintro ending _ rfl
    cases ending with
    | ok host => exact lockstep_pure rfl
    | error failure => exact lockstep_pure rfl
  exact host.bindExcept fun _ => lockstep_ofExcept _

theorem selectFile (name version : String) (opened : TraceSection) :
    TracedLockstep related
      (fun ending twin => ending.1.outline = twin.1.outline ∧ ending.2 = twin.2)
      (left.selectFile tracer name version opened)
      (right.selectFile clock name version opened) := by
  unfold Service.selectFile
  refine (alike.cached name version).traced.bind ?_
  intro found twin finding
  cases found with
  | ok manifest =>
      cases twin with
      | error cause => cases finding
      | ok other =>
          cases finding
          refine (alike.findFile readings manifest).bind ?_
          rintro file _ rfl
          exact tracedLockstep_pure ⟨rfl, rfl⟩
  | error cause =>
      cases twin with
      | ok other => cases finding
      | error other =>
          refine (alike.resolve readings name version).bind ?_
          rintro result _ rfl
          cases result with
          | error failure => exact tracedLockstep_pure ⟨rfl, rfl⟩
          | ok resolved =>
              refine (alike.findFile readings resolved.manifest).bind ?_
              rintro file _ rfl
              exact tracedLockstep_pure ⟨rfl, rfl⟩

theorem downloadFile (file : ResolvedFile) (name version : String) :
    TracedLockstep related Eq
      (left.archive.downloadFile left.download tracer file name version)
      (right.archive.downloadFile right.download clock file name version) := by
  refine tracedLockstep_tracedStep readings _ _ ?_
  unfold Archive.fetchFile
  refine (alike.location file name version).bindExcept fun sourceUrl => ?_
  refine (alike.download _).bindOutcome ?_
  rintro ending _ rfl
  cases ending with
  | error failure => exact lockstep_pure rfl
  | ok path =>
      dsimp only
      split
      · exact lockstep_pure rfl
      · exact lockstep_pure rfl

/-- An artifact is downloaded alike from two services whose parts answer alike. -/
theorem downloadArtifact (name version : String) :
    TracedLockstep related Eq (left.downloadArtifact tracer name version)
      (right.downloadArtifact clock name version) := by
  unfold Service.downloadArtifact
  refine (tracedLockstep_openSection readings _).bind ?_
  rintro opened _ rfl
  refine (alike.selectFile readings name version opened).bind ?_
  rintro ⟨noted, selected⟩ ⟨other, _⟩ ⟨outlines, rfl⟩
  dsimp only at outlines
  cases selected with
  | error failure =>
      have failed : (noted.fail failure.message).outline = (other.fail failure.message).outline :=
        congrArg (TraceSection.fail failure.message) outlines
      refine (tracedLockstep_closeSection readings failed).bind ?_
      rintro _ _ -
      exact tracedLockstep_pure rfl
  | ok file =>
      refine (tracedLockstep_closeSection readings outlines).bind ?_
      rintro _ _ -
      exact alike.downloadFile readings file name version

end Service.Alike

end Courier
