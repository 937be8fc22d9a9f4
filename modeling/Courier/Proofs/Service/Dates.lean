import Courier.Proofs.Clock
import Courier.Proofs.Passage
/-!
The dates of sections. A section is dated by the reading of the clock at which it is closed, so that
sections that are closed one after another bear dates in this order, whatever happens in between.
Main statement: the sections of the download of an artifact are dated in the order in which they are
closed, from the beginning of the download on and before anything that follows it.
-/

namespace Courier

variable {α β : Type}

namespace Computer

/-- The first computer is the second one as it was before some readings of the clock. -/
def Precedes (before after : Computer) : Prop :=
  ∃ count, after.clock = before.clock.skip count

def now (computer : Computer) : Int64 :=
  computer.clock.reading 0

variable {before after : Computer}

theorem precedes_of_clock (same : after.clock = before.clock) : before.Precedes after :=
  ⟨0, same.trans (Clock.skip_zero _).symm⟩

instance : OnlinePassage Precedes where
  refl _ := precedes_of_clock rfl
  trans early late := by
    obtain ⟨count, taken⟩ := early
    obtain ⟨more, takenLater⟩ := late
    exact ⟨count + more, by rw [takenLater, taken, Clock.skip_skip]⟩
  files _ _ := precedes_of_clock rfl
  requests _ _ := precedes_of_clock rfl
  documents _ _ := precedes_of_clock rfl
  repository _ _ := precedes_of_clock rfl

theorem Precedes.steady (precedes : before.Precedes after) (steady : before.clock.Steady) :
    after.clock.Steady := by
  obtain ⟨count, taken⟩ := precedes
  rw [taken]
  exact steady.skip count

theorem Precedes.now_le (precedes : before.Precedes after) (steady : before.clock.Steady) :
    before.now ≤ after.now := by
  obtain ⟨count, taken⟩ := precedes
  unfold now
  rw [taken]
  exact steady.le count

theorem passes_read : Passes Precedes (Clock.read : Machine Int64) :=
  fun start => ⟨1, congrArg Clock.mk (funext fun count => congrArg start.clock.reading
    (Nat.add_comm count 1))⟩

end Computer

open Computer

/-- Sections that were closed one after another, between the times of two computers. -/
structure Trace.DatedWithin (entries : Trace) (before after : Computer) : Prop where
  ordered : entries.Pairwise fun early late => early.endNanos ≤ late.endNanos
  begins : ∀ entry ∈ entries, before.now ≤ entry.endNanos
  ends : ∀ entry ∈ entries, entry.endNanos ≤ after.now

namespace Trace.DatedWithin

theorem nil (before after : Computer) : DatedWithin [] before after :=
  { ordered := .nil
    begins := fun _ member => nomatch member
    ends := fun _ member => nomatch member }

variable {entries : Trace} {first second third : Computer}

theorem later (dated : entries.DatedWithin first second) (ordered : second.now ≤ third.now) :
    entries.DatedWithin first third :=
  ⟨dated.ordered, dated.begins,
    fun entry member => Int64.le_trans (dated.ends entry member) ordered⟩

theorem earlier (dated : entries.DatedWithin second third) (ordered : first.now ≤ second.now) :
    entries.DatedWithin first third :=
  ⟨dated.ordered, fun entry member => Int64.le_trans ordered (dated.begins entry member),
    dated.ends⟩

theorem append {more : Trace} (early : entries.DatedWithin first second)
    (late : more.DatedWithin second third) (firstOrdered : first.now ≤ second.now)
    (secondOrdered : second.now ≤ third.now) : DatedWithin (entries ++ more) first third := by
  constructor
  case ordered =>
    refine List.pairwise_append.mpr ⟨early.ordered, late.ordered, ?_⟩
    intro entry member other inside
    exact Int64.le_trans (early.ends entry member) (late.begins other inside)
  case begins =>
    intro entry member
    rcases List.mem_append.mp member with before | after
    · exact early.begins entry before
    · exact (late.earlier firstOrdered).begins entry after
  case ends =>
    intro entry member
    rcases List.mem_append.mp member with before | after
    · exact (early.later secondOrdered).ends entry before
    · exact late.ends entry after

end Trace.DatedWithin

/-- A traced action that turns no clock back, and dates the sections that it closes. -/
def Dates (action : Traced Machine α) : Prop :=
  ∀ trace (start : Computer), start.clock.Steady →
    start.Precedes (runTraced action trace start).2.2 ∧
      ∃ entries, (runTraced action trace start).2.1 = trace ++ entries ∧
        entries.DatedWithin start (runTraced action trace start).2.2

section Dates

theorem Passes.dates {action : Machine α} (passes : Passes Precedes action) :
    Dates (liftM action : Traced Machine α) := by
  intro trace start steady
  exact ⟨passes start, [], (List.append_nil trace).symm, .nil _ _⟩

theorem dates_pure (value : α) : Dates (pure value) :=
  Passes.dates (passes_pure value)

theorem Dates.bind {action : Traced Machine α} {next : α → Traced Machine β}
    (first : Dates action) (later : ∀ value, Dates (next value)) : Dates (action >>= next) := by
  intro trace start steady
  obtain ⟨precedes, entries, recorded, dated⟩ := first trace start steady
  obtain ⟨follows, more, added, datedLater⟩ := later (runTraced action trace start).1
    (runTraced action trace start).2.1 _ (precedes.steady steady)
  rw [runTraced_bind]
  refine ⟨Passage.trans precedes follows, entries ++ more, ?_, ?_⟩
  · rw [added, recorded, List.append_assoc]
  · exact dated.append datedLater (precedes.now_le steady)
      (follows.now_le (precedes.steady steady))

theorem dates_openSection (operation : String) :
    Dates (openSection (Clock.read : Machine Int64) operation) :=
  passes_read.dates.bind fun _ => dates_pure _

theorem dates_closeSection (opened : TraceSection) :
    Dates (closeSection (Clock.read : Machine Int64) opened) := by
  intro trace start steady
  have ordered : start.now ≤ (tick Clock.read start).now := steady 0
  refine ⟨passes_read start, [opened.close start.now], rfl, ?_⟩
  constructor
  case ordered => exact List.pairwise_singleton _ _
  case begins =>
    intro entry member
    rw [List.mem_singleton.mp member]
    exact Int64.le_refl _
  case ends =>
    intro entry member
    rw [List.mem_singleton.mp member]
    exact ordered

theorem dates_tracedStep (operation : String) (describe : α → String)
    {step : ExceptT Failure Machine α} (passes : PassesOrFails Precedes step) :
    Dates (tracedStep (Clock.read : Machine Int64) operation describe step) :=
  (dates_openSection operation).bind fun _ => (Passes.dates passes).bind fun _ =>
    (dates_closeSection _).bind fun _ => dates_pure _

end Dates

namespace Service.Passes

variable {service : Service Machine} (passes : service.Passes Precedes)

include passes

theorem dates_resolve (name version : String) :
    Dates (service.store.resolve Clock.read name version) :=
  dates_tracedStep _ _ (passes.fetch name version)

theorem dates_findFile (manifest : Manifest) : Dates (service.findFile Clock.read manifest) :=
  dates_tracedStep _ _ (passes.host.bind fun _ => passesOrFails_ofExcept _)

theorem dates_selectFile (name version : String) (opened : TraceSection) :
    Dates (service.selectFile Clock.read name version opened) := by
  unfold selectFile
  refine (Courier.Passes.dates (passes.cached name version)).bind fun found => ?_
  cases found with
  | ok manifest => exact (passes.dates_findFile manifest).bind fun _ => dates_pure _
  | error failure =>
      refine (passes.dates_resolve name version).bind fun result => ?_
      cases result with
      | ok resolved => exact (passes.dates_findFile resolved.manifest).bind fun _ => dates_pure _
      | error failure => exact dates_pure _

theorem dates_downloadFile (file : ResolvedFile) (name version : String) :
    Dates (service.archive.downloadFile service.download Clock.read file name version) :=
  dates_tracedStep _ _ (passes.fetchFile file name version)

/-- The sections of a download are dated in the order in which they are closed. -/
theorem dates_downloadArtifact (name version : String) :
    Dates (service.downloadArtifact Clock.read name version) := by
  unfold downloadArtifact
  refine (dates_openSection _).bind fun opened =>
    (passes.dates_selectFile name version opened).bind fun selection => ?_
  obtain ⟨opened, selected⟩ := selection
  cases selected with
  | error failure => exact (dates_closeSection _).bind fun _ => dates_pure _
  | ok file =>
      exact (dates_closeSection opened).bind fun _ => passes.dates_downloadFile file name version

end Service.Passes

end Courier
