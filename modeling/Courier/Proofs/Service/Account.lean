import Courier.Proofs.Service.Course
import Courier.Proofs.Service.Reporting
/-!
What the sections that an operation leaves in the trace tell of its outcome. A step that fails
closes its own section as failed, and the section around it as well; what is recovered from only
leaves a note. Main statement: from the sections that an operation adds to the trace one can tell
whether it succeeded, and with which words it failed, and the sections of the download of an
artifact say how far it got.
-/

namespace Courier

variable {σ α β : Type}

/-- The sections tell how an operation ended: it succeeded if and only if all of them did, and if it
failed then the last one says why. -/
structure Trace.TellsOf (entries : Trace) (ending : Except Failure α) : Prop where
  succeeded : ending.isOk = true ↔ ∀ entry ∈ entries, entry.exitCode = 0
  failed : ∀ failure, ending = .error failure →
    ∃ last, entries.getLast? = some last ∧ last.exitCode = 1 ∧ last.error = some failure.message

def Trace.operations (entries : Trace) : List String :=
  entries.map (·.operation)

theorem Trace.operations_append (entries more : Trace) :
    operations (entries ++ more) = operations entries ++ operations more :=
  List.map_append

namespace Trace

theorem exitCode_close_of_unmarked {opened : TraceSection} (unmarked : opened.error = none)
    (endNanos : Int64) : (opened.close endNanos).exitCode = 0 := by
  unfold TraceSection.close
  rw [unmarked]
  rfl

theorem tellsOf_ok {entries : Trace} (succeeded : ∀ entry ∈ entries, entry.exitCode = 0)
    (value : α) : entries.TellsOf (.ok value : Except Failure α) := by
  constructor
  · exact ⟨fun _ => succeeded, fun _ => rfl⟩
  · intro failure failed
    cases failed

theorem tellsOf_error (entries : Trace) (opened : TraceSection) (failure : Failure)
    (endNanos : Int64) :
    TellsOf (entries ++ [(opened.fail failure.message).close endNanos])
      (.error failure : Except Failure α) := by
  have code : ((opened.fail failure.message).close endNanos).exitCode = 1 := rfl
  constructor
  · constructor
    · intro succeeded
      cases succeeded
    · intro succeeded
      have zero := succeeded _ (List.mem_append_right entries (List.mem_singleton_self _))
      rw [code] at zero
      exact absurd zero (by decide)
  · intro other failed
    cases failed
    exact ⟨_, List.getLast?_concat, code, rfl⟩

theorem TellsOf.after {earlier entries : Trace} {ending : Except Failure α}
    (tells : entries.TellsOf ending) (succeeded : ∀ entry ∈ earlier, entry.exitCode = 0) :
    TellsOf (earlier ++ entries) ending := by
  constructor
  · rw [tells.succeeded]
    constructor
    · intro later entry member
      rcases List.mem_append.mp member with before | within
      · exact succeeded entry before
      · exact later entry within
    · intro all entry member
      exact all entry (List.mem_append_right earlier member)
  · intro failure failed
    obtain ⟨last, ends, code, words⟩ := tells.failed failure failed
    refine ⟨last, ?_, code, words⟩
    rw [List.getLast?_append, ends]
    rfl

theorem TellsOf.of_error {entries : Trace} {failure : Failure}
    (tells : entries.TellsOf (.error failure : Except Failure α)) :
    entries.TellsOf (.error failure : Except Failure β) := by
  constructor
  · exact tells.succeeded
  · intro other failed
    cases failed
    exact tells.failed failure rfl

theorem TellsOf.map {entries : Trace} {ending : Except Failure α} (tells : entries.TellsOf ending)
    (f : α → β) : entries.TellsOf (ending.map f) := by
  cases ending with
  | ok value => exact tellsOf_ok (tells.succeeded.mp rfl) (f value)
  | error failure => exact tells.of_error

theorem tellsOf_told {opened : TraceSection} (unmarked : opened.error = none)
    (describe : α → String) (ending : Except Failure α) (endNanos : Int64) :
    TellsOf [(opened.told describe ending).close endNanos] ending := by
  cases ending with
  | error failure => exact tellsOf_error [] opened failure endNanos
  | ok value =>
      refine tellsOf_ok ?_ value
      intro entry member
      rw [List.mem_singleton.mp member]
      exact exitCode_close_of_unmarked unmarked endNanos

end Trace

/-- A traced step closes one section, which tells of the step. -/
theorem tracedStep_tells (tracer : StateM σ Int64) (operation : String) (describe : α → String)
    (step : ExceptT Failure (StateM σ) α) (trace : Trace) (state : σ) :
    let ran := runFrom step (tick tracer state)
    ∃ entries, runTraced (tracedStep tracer operation describe step) trace state =
        (ran.1, trace ++ entries, tick tracer ran.2) ∧
      entries.TellsOf ran.1 ∧ entries.operations = [operation] := by
  intro ran
  rw [runTraced_tracedStep]
  refine ⟨_, rfl, Trace.tellsOf_told rfl describe _ _, ?_⟩
  unfold TraceSection.told
  split
  · rfl
  · rfl

namespace Service

variable (service : Service (StateM σ)) (tracer : StateM σ Int64)

/-- The manifest that a call works with, and the state it is then in: the manifest cached under
exactly the name and version of the call, or else the one that the call fetches. -/
def obtained (name version : String) (start : σ) : Except Failure Manifest × σ :=
  match runFrom (service.store.cached name version) start with
  | (.ok manifest, left) => (.ok manifest, left)
  | (.error _, missed) =>
    let (fetched, left) := runFrom (service.store.fetch name version) (tick tracer missed)
    (fetched.map ResolvedManifest.manifest, tick tracer left)

/-- The file that is selected for this host, and the state in which that is known. -/
def selected (name version : String) (start : σ) : Except Failure ResolvedFile × σ :=
  match service.obtained tracer name version start with
  | (.ok manifest, left) =>
    let (found, last) := runFrom (service.search manifest) (tick tracer left)
    (found, tick tracer last)
  | (.error failure, left) => (.error failure, left)

def searchOperations (name version : String) (start : σ) : List String :=
  (if (runFrom (service.store.cached name version) start).1.isOk then []
    else ["download manifest"]) ++
  (if (service.obtained tracer name version start).1.isOk then ["resolve package variant"]
    else [])

theorem findFile_tells (manifest : Manifest) (noted : TraceSection) (trace : Trace) (state : σ) :
    let searched := runFrom (service.search manifest) (tick tracer state)
    ∃ entries,
      runTraced (do return (noted, ← service.findFile tracer manifest)) trace state =
        ((noted, searched.1), trace ++ entries, tick tracer searched.2) ∧
      entries.TellsOf searched.1 ∧ entries.operations = ["resolve package variant"] := by
  intro searched
  obtain ⟨entries, ran, tells, operations⟩ := tracedStep_tells tracer "resolve package variant"
    (fun file => "selected " ++ file.name) (service.search manifest) trace state
  refine ⟨entries, ?_, tells, operations⟩
  have found : runTraced (service.findFile tracer manifest) trace state =
    (searched.1, trace ++ entries, tick tracer searched.2) := ran
  rw [runTraced_bind, found]
  rfl

theorem selectFile_tells (name version : String) (opened : TraceSection) (trace : Trace)
    (start : σ) :
    let selected := service.selected tracer name version start
    ∃ entries noted,
      runTraced (service.selectFile tracer name version opened) trace start =
        ((noted, selected.1), trace ++ entries, selected.2) ∧
      noted.error = opened.error ∧ noted.operation = opened.operation ∧
      entries.TellsOf selected.1 ∧
      entries.operations = service.searchOperations tracer name version start := by
  intro selected
  have looked : stepFrom (service.store.cached name version).run start =
    runFrom (service.store.cached name version) start := rfl
  unfold selectFile
  rw [runTraced_bind, runTraced_monadLift, looked]
  unfold searchOperations
  rcases held : runFrom (service.store.cached name version) start with ⟨ending, missed⟩
  cases ending with
  | ok manifest =>
      obtain ⟨entries, found, tells, operations⟩ :=
        service.findFile_tells tracer manifest opened trace missed
      have same : selected = ((runFrom (service.search manifest) (tick tracer missed)).1,
          tick tracer (runFrom (service.search manifest) (tick tracer missed)).2) := by
        simp only [selected, Service.selected, obtained, held]
      rw [same]
      refine ⟨entries, opened, found, rfl, rfl, tells, ?_⟩
      rw [operations]
      simp only [obtained, held]
      rfl
  | error cause =>
      dsimp only
      rw [runTraced_bind]
      obtain ⟨fetching, ran, told, fetched⟩ := tracedStep_tells tracer "download manifest"
        Store.describe (service.store.fetch name version) trace missed
      rcases fetches : runFrom (service.store.fetch name version) (tick tracer missed) with
        ⟨answer, left⟩
      rw [fetches] at ran told
      unfold Store.resolve
      rw [ran]
      cases answer with
      | error failure =>
          have same : selected = (.error failure, tick tracer left) := by
            simp only [selected, Service.selected, obtained, held, fetches]
            rfl
          rw [same]
          refine ⟨fetching, _, rfl, rfl, rfl, told.of_error, ?_⟩
          rw [fetched]
          simp only [obtained, held, fetches]
          rfl
      | ok resolved =>
          -- The section of the download is still open, so a note in it tells nothing yet.
          let noted :=
            opened.note ("error when reading the manifest from cache " ++ cause.message)
          obtain ⟨entries, found, tells, operations⟩ :=
            service.findFile_tells tracer resolved.manifest noted (trace ++ fetching)
              (tick tracer left)
          have same : selected =
              ((runFrom (service.search resolved.manifest) (tick tracer (tick tracer left))).1,
                tick tracer
                  (runFrom (service.search resolved.manifest)
                    (tick tracer (tick tracer left))).2) := by
            simp only [selected, Service.selected, obtained, held, fetches]
            rfl
          rw [same]
          refine ⟨fetching ++ entries, noted, ?_, rfl, rfl, ?_, ?_⟩
          · rw [← List.append_assoc]
            exact found
          · exact tells.after (told.succeeded.mp rfl)
          · rw [Trace.operations_append, fetched, operations]
            simp only [obtained, held, fetches]
            rfl

theorem downloadManifest_tells (name version : String) (trace : Trace) (start : σ) :
    let ran := runTraced (service.downloadManifest tracer name version) trace start
    ∃ entries, ran.2.1 = trace ++ entries ∧ entries.TellsOf ran.1 := by
  obtain ⟨entries, resolves, tells, -⟩ := tracedStep_tells tracer "download manifest"
    Store.describe (service.store.fetch name version) trace start
  unfold downloadManifest Store.resolve
  rw [runTraced_bind, resolves]
  exact ⟨entries, rfl, tells.map _⟩

theorem report_tells (result : PackageResult) (trace : Trace) (start : σ) :
    let ran := runTraced (service.report tracer result) trace start
    ∃ entries, ran.2.1 = trace ++ entries ∧ entries.TellsOf ran.1 := by
  unfold report
  rw [Reporter.runTraced_report]
  dsimp only
  refine ⟨_, rfl, ?_⟩
  generalize (runFrom (service.reporter.submit _) _).1.mapError Reporter.rejected = ending
  cases ending with
  | error failure => exact Trace.tellsOf_error [] _ failure _
  | ok done =>
      refine Trace.tellsOf_ok ?_ done
      intro entry member
      rw [List.mem_singleton.mp member]
      exact Trace.exitCode_close_of_unmarked (Reporter.noted_error _ _) _

def downloadOperations (name version : String) (start : σ) : List String :=
  service.searchOperations tracer name version start ++ ["download artifact"] ++
    match (service.selected tracer name version start).1 with
    | .ok file => ["download " ++ file.name]
    | .error _ => []

theorem downloadArtifact_tells (name version : String) (trace : Trace) (start : σ) :
    let ran := runTraced (service.downloadArtifact tracer name version) trace start
    ∃ entries, ran.2.1 = trace ++ entries ∧ entries.TellsOf ran.1 ∧
      entries.operations = service.downloadOperations tracer name version (tick tracer start) := by
  intro ran
  let opened : TraceSection :=
    { operation := "download artifact", startNanos := (stepFrom tracer start).1 }
  obtain ⟨searching, noted, selects, unmarked, titled, tells, operations⟩ :=
    service.selectFile_tells tracer name version opened trace (tick tracer start)
  have reached : ran = runTraced (service.downloadArtifact tracer name version) trace start := rfl
  unfold downloadArtifact at reached
  rw [runTraced_bind, runTraced_openSection] at reached
  change ran = runTraced (service.selectFile tracer name version opened >>= _) trace
    (tick tracer start) at reached
  rw [runTraced_bind, selects] at reached
  unfold downloadOperations
  rcases chosen : service.selected tracer name version (tick tracer start) with ⟨found, left⟩
  rw [chosen] at tells reached
  cases found with
  | error failure =>
      refine ⟨searching ++ [(noted.fail failure.message).close (stepFrom tracer left).1],
        ?_, ?_, ?_⟩
      · rw [reached, ← List.append_assoc]
        rfl
      · rw [reached]
        exact Trace.tellsOf_error searching noted failure _
      · rw [Trace.operations_append, operations]
        change _ ++ [noted.operation] = _ ++ ["download artifact"] ++ []
        rw [titled, List.append_nil]
  | ok file =>
      obtain ⟨downloading, downloads, told, named⟩ := tracedStep_tells tracer
        ("download " ++ file.name) (fun path => "downloaded to " ++ path.text)
        (service.archive.fetchFile service.download file name version)
        (trace ++ searching ++ [noted.close (stepFrom tracer left).1]) (tick tracer left)
      have ended : ran = runTraced
        (service.archive.downloadFile service.download tracer file name version)
        (trace ++ searching ++ [noted.close (stepFrom tracer left).1]) (tick tracer left) := reached
      unfold Archive.downloadFile at ended
      rw [downloads] at ended
      have closed : (noted.close (stepFrom tracer left).1).exitCode = 0 :=
        Trace.exitCode_close_of_unmarked unmarked _
      refine ⟨searching ++ [noted.close (stepFrom tracer left).1] ++ downloading, ?_, ?_, ?_⟩
      · rw [ended, List.append_assoc, List.append_assoc, List.append_assoc]
      · rw [ended]
        refine told.after ?_
        intro entry member
        rcases List.mem_append.mp member with before | last
        · exact tells.succeeded.mp rfl entry before
        · rw [List.mem_singleton.mp last, closed]
      · rw [Trace.operations_append, Trace.operations_append, operations, named]
        exact congrArg (fun title => _ ++ [title] ++ _) titled

end Service

end Courier
