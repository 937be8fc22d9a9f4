import Courier.Proofs.Store.Fetch
import Courier.Service.Basic
/-!
The course of a download, whatever the service works with. The manifest is the cached one or else a
fetched one, the host is described once, and the downloader is asked last and at most once. Main
statement: every download is one of the ways of `Service.Course`.
-/

namespace Courier

variable {σ : Type}

namespace Service

variable (service : Service (StateM σ)) (tracer : StateM σ Int64)

def search (manifest : Manifest) : ExceptT Failure (StateM σ) ResolvedFile := do
  MonadExcept.ofExcept (manifest.select (← service.host))

theorem runFrom_host (state : σ) :
    runFrom service.host state =
      ((runFrom service.collect state).1.mapError asEnvironment,
        (runFrom service.collect state).2) := by
  unfold host
  rw [runFrom_bind, runFrom_outcome]
  rcases runFrom service.collect state with ⟨ending, left⟩
  cases ending with
  | ok host => rfl
  | error failure => rfl

theorem runFrom_search (manifest : Manifest) (state : σ) :
    runFrom (service.search manifest) state =
      (((runFrom service.collect state).1.mapError asEnvironment).bind manifest.select,
        (runFrom service.collect state).2) := by
  unfold search
  rw [runFrom_bind, runFrom_host]
  rcases runFrom service.collect state with ⟨ending, left⟩
  cases ending with
  | ok host => exact runFrom_ofExcept _ _
  | error failure => rfl

/-- The manifest that a call works with: the one cached under exactly the name and version of the
call, or else the one that the call itself fetches. -/
inductive Supplies (name version : String) (start : σ) : Manifest → σ → Prop
  | cached {manifest : Manifest} {left : σ}
      (held : runFrom (service.store.cached name version) start = (.ok manifest, left)) :
      Supplies name version start manifest left
  | fetched {cause : Failure} {resolved : ResolvedManifest} {missed left : σ}
      (unheld : runFrom (service.store.cached name version) start = (.error cause, missed))
      (fetches : runFrom (service.store.fetch name version) (tick tracer missed) =
        (.ok resolved, left)) :
      Supplies name version start resolved.manifest (tick tracer left)

/-- How a file is selected, or is not. -/
inductive Selects (name version : String) (start : σ) : Except Failure ResolvedFile → σ → Prop
  | unsupplied {cause failure : Failure} {missed left : σ}
      (unheld : runFrom (service.store.cached name version) start = (.error cause, missed))
      (fetches : runFrom (service.store.fetch name version) (tick tracer missed) =
        (.error failure, left)) :
      Selects name version start (.error failure) (tick tracer left)
  | searched {manifest : Manifest} {found : Except Failure ResolvedFile} {supplied left : σ}
      (supplies : service.Supplies tracer name version start manifest supplied)
      (searches : runFrom (service.search manifest) (tick tracer supplied) = (found, left)) :
      Selects name version start found (tick tracer left)

theorem runTraced_findFile (manifest : Manifest) (trace : Trace) (state : σ) :
    (runTraced (service.findFile tracer manifest) trace state).1 =
        (runFrom (service.search manifest) (tick tracer state)).1 ∧
      (runTraced (service.findFile tracer manifest) trace state).2.2 =
        tick tracer (runFrom (service.search manifest) (tick tracer state)).2 :=
  runTraced_tracedStep_ends tracer _ _ _ trace state

theorem selectFile_selects (name version : String) (opened : TraceSection) (trace : Trace)
    (start : σ) :
    service.Selects tracer name version start
      (runTraced (service.selectFile tracer name version opened) trace start).1.2
      (runTraced (service.selectFile tracer name version opened) trace start).2.2 := by
  unfold selectFile
  rw [runTraced_bind, runTraced_monadLift]
  rcases held : runFrom (service.store.cached name version) start with ⟨ending, missed⟩
  have looked : stepFrom (service.store.cached name version).run start = (ending, missed) := held
  rw [looked]
  cases ending with
  | ok manifest =>
      dsimp only
      rw [runTraced_bind, runTraced_pure]
      obtain ⟨found, left⟩ := service.runTraced_findFile tracer manifest trace missed
      dsimp only
      rw [found, left]
      exact .searched (.cached held) rfl
  | error cause =>
      dsimp only
      rw [runTraced_bind]
      obtain ⟨fetched, stored⟩ := service.store.runTraced_resolve tracer name version trace missed
      rcases fetches : runFrom (service.store.fetch name version) (tick tracer missed) with
        ⟨answer, left⟩
      rw [fetches] at fetched stored
      rw [fetched, stored]
      cases answer with
      | error failure => exact .unsupplied held fetches
      | ok resolved =>
          dsimp only
          rw [runTraced_bind, runTraced_pure]
          obtain ⟨found, last⟩ := service.runTraced_findFile tracer resolved.manifest
            (runTraced (service.store.resolve tracer name version) trace missed).2.1
            (tick tracer left)
          dsimp only
          rw [found, last]
          exact .searched (.fetched held fetches) rfl

/-- The ways the download of an artifact can go. -/
inductive Course (name version : String) (start : σ) : Except Failure Path → σ → Prop
  | unselected {failure : Failure} {left : σ}
      (selects : service.Selects tracer name version (tick tracer start) (.error failure) left) :
      Course name version start (.error failure) (tick tracer left)
  | unlocated {file : ResolvedFile} {failure : Failure} {selected left : σ}
      (selects : service.Selects tracer name version (tick tracer start) (.ok file) selected)
      (locates : runFrom (service.archive.location file name version)
        (tick tracer (tick tracer selected)) = (.error failure, left)) :
      Course name version start (.error failure) (tick tracer left)
  | undelivered {file : ResolvedFile} {sourceUrl : String} {cause : Failure}
      {selected located left : σ}
      (selects : service.Selects tracer name version (tick tracer start) (.ok file) selected)
      (locates : runFrom (service.archive.location file name version)
        (tick tracer (tick tracer selected)) = (.ok sourceUrl, located))
      (downloads : runFrom (service.download { sourceUrl, checksums := file.info.checksums })
        located = (.error cause, left)) :
      Course name version start (.error (.downloadFailed sourceUrl (some cause.message)))
        (tick tracer left)
  /-- The downloader names no path. -/
  | unplaced {file : ResolvedFile} {sourceUrl : String} {path : Path}
      {selected located left : σ}
      (selects : service.Selects tracer name version (tick tracer start) (.ok file) selected)
      (locates : runFrom (service.archive.location file name version)
        (tick tracer (tick tracer selected)) = (.ok sourceUrl, located))
      (downloads : runFrom (service.download { sourceUrl, checksums := file.info.checksums })
        located = (.ok path, left))
      (nowhere : path.isEmpty = true) :
      Course name version start (.error (.downloadFailed sourceUrl none)) (tick tracer left)
  | delivered {file : ResolvedFile} {sourceUrl : String} {path : Path}
      {selected located left : σ}
      (selects : service.Selects tracer name version (tick tracer start) (.ok file) selected)
      (locates : runFrom (service.archive.location file name version)
        (tick tracer (tick tracer selected)) = (.ok sourceUrl, located))
      (downloads : runFrom (service.download { sourceUrl, checksums := file.info.checksums })
        located = (.ok path, left))
      (somewhere : path.isEmpty = false) :
      Course name version start (.ok path) (tick tracer left)

theorem downloadArtifact_course (name version : String) (trace : Trace) (start : σ) :
    service.Course tracer name version start
      (runTraced (service.downloadArtifact tracer name version) trace start).1
      (runTraced (service.downloadArtifact tracer name version) trace start).2.2 := by
  unfold downloadArtifact
  rw [runTraced_bind, runTraced_openSection, runTraced_bind]
  have selects := service.selectFile_selects tracer name version
    { operation := "download artifact", startNanos := (stepFrom tracer start).1 } trace
    (tick tracer start)
  unfold tick at selects
  rcases selected : runTraced (service.selectFile tracer name version
    { operation := "download artifact", startNanos := (stepFrom tracer start).1 }) trace
    (stepFrom tracer start).2 with ⟨⟨opened, found⟩, noted, left⟩
  rw [selected] at selects
  cases found with
  | error failure => exact .unselected selects
  | ok file =>
      dsimp only
      rw [runTraced_bind, runTraced_closeSection]
      unfold Archive.downloadFile
      rw [runTraced_tracedStep]
      dsimp only
      unfold Archive.fetchFile
      rw [runFrom_bind]
      rcases locates : runFrom (service.archive.location file name version)
        (stepFrom tracer (stepFrom tracer left).2).2 with ⟨place, located⟩
      cases place with
      | error failure => exact .unlocated selects locates
      | ok sourceUrl =>
          dsimp only
          rw [runFrom_bind, runFrom_outcome]
          rcases downloads : runFrom (service.download
            { sourceUrl, checksums := file.info.checksums }) located with ⟨ending, downloaded⟩
          cases ending with
          | error cause => exact .undelivered selects locates downloads
          | ok path =>
              cases empty : path.isEmpty with
              | true =>
                  simp only [empty, if_true]
                  exact .unplaced selects locates downloads empty
              | false =>
                  simp only [empty, Bool.false_eq_true, if_false]
                  exact .delivered selects locates downloads empty

/-- How the download of an artifact goes on when it is decided which file this host installs. The
downloader gets the checksums of that file, once a location for it is found. -/
inductive Proceeds (name version : String) (decided : σ) :
    Except Failure ResolvedFile → Except Failure Path → σ → Prop
  | undecided {failure : Failure} :
      Proceeds name version decided (.error failure) (.error failure) (tick tracer decided)
  | unlocated {file : ResolvedFile} {failure : Failure} {left : σ}
      (locates : runFrom (service.archive.location file name version)
        (tick tracer (tick tracer decided)) = (.error failure, left)) :
      Proceeds name version decided (.ok file) (.error failure) (tick tracer left)
  | undelivered {file : ResolvedFile} {sourceUrl : String} {cause : Failure} {located left : σ}
      (locates : runFrom (service.archive.location file name version)
        (tick tracer (tick tracer decided)) = (.ok sourceUrl, located))
      (downloads : runFrom (service.download { sourceUrl, checksums := file.info.checksums })
        located = (.error cause, left)) :
      Proceeds name version decided (.ok file)
        (.error (.downloadFailed sourceUrl (some cause.message))) (tick tracer left)
  | unplaced {file : ResolvedFile} {sourceUrl : String} {path : Path} {located left : σ}
      (locates : runFrom (service.archive.location file name version)
        (tick tracer (tick tracer decided)) = (.ok sourceUrl, located))
      (downloads : runFrom (service.download { sourceUrl, checksums := file.info.checksums })
        located = (.ok path, left)) (nowhere : path.isEmpty = true) :
      Proceeds name version decided (.ok file) (.error (.downloadFailed sourceUrl none))
        (tick tracer left)
  | delivered {file : ResolvedFile} {sourceUrl : String} {path : Path} {located left : σ}
      (locates : runFrom (service.archive.location file name version)
        (tick tracer (tick tracer decided)) = (.ok sourceUrl, located))
      (downloads : runFrom (service.download { sourceUrl, checksums := file.info.checksums })
        located = (.ok path, left)) (somewhere : path.isEmpty = false) :
      Proceeds name version decided (.ok file) (.ok path) (tick tracer left)

/-- The download goes on with this manifest: a file is searched in it for this host, and whatever
comes of the search is gone on with. -/
def WorksWith (name version : String) (manifest : Manifest) (supplied : σ)
    (ending : Except Failure Path) (after : σ) : Prop :=
  let searched := runFrom (service.search manifest) (tick tracer supplied)
  service.Proceeds tracer name version (tick tracer searched.2) searched.1 ending after

variable {service tracer} {name version : String} {start held left after : σ}
  {manifest : Manifest} {ending : Except Failure Path}

theorem Course.decides
    (course : service.Course tracer name version start ending after) :
    ∃ found decided, service.Selects tracer name version (tick tracer start) found decided ∧
      service.Proceeds tracer name version decided found ending after := by
  cases course with
  | unselected selects => exact ⟨_, _, selects, .undecided⟩
  | unlocated selects locates => exact ⟨_, _, selects, .unlocated locates⟩
  | undelivered selects locates downloads => exact ⟨_, _, selects, .undelivered locates downloads⟩
  | unplaced selects locates downloads nowhere =>
      exact ⟨_, _, selects, .unplaced locates downloads nowhere⟩
  | delivered selects locates downloads somewhere =>
      exact ⟨_, _, selects, .delivered locates downloads somewhere⟩

theorem Selects.searched_of_held {found : Except Failure ResolvedFile}
    (selects : service.Selects tracer name version start found left)
    (holds : runFrom (service.store.cached name version) start = (.ok manifest, held)) :
    found = (runFrom (service.search manifest) (tick tracer held)).1 ∧
      left = tick tracer (runFrom (service.search manifest) (tick tracer held)).2 := by
  cases selects with
  | unsupplied unheld fetches =>
      rw [holds] at unheld
      cases unheld
  | searched supplies searches =>
      cases supplies with
      | cached heldAlso =>
          rw [holds] at heldAlso
          cases heldAlso
          rw [searches]
          exact ⟨rfl, rfl⟩
      | fetched unheld fetches =>
          rw [holds] at unheld
          cases unheld

theorem Course.worksWith_of_held
    (course : service.Course tracer name version start ending after)
    (holds : runFrom (service.store.cached name version) (tick tracer start) =
      (.ok manifest, held)) :
    service.WorksWith tracer name version manifest held ending after := by
  obtain ⟨found, decided, selects, proceeds⟩ := course.decides
  obtain ⟨rfl, rfl⟩ := selects.searched_of_held holds
  exact proceeds

/-- With none there, it works with the one that it fetches, or fails as the fetch did. -/
theorem Course.ends_of_unheld {cause : Failure} {answer : Except Failure ResolvedManifest}
    (course : service.Course tracer name version start ending after)
    (unheld : runFrom (service.store.cached name version) (tick tracer start) =
      (.error cause, held))
    (fetches : runFrom (service.store.fetch name version) (tick tracer held) = (answer, left)) :
    match answer with
    | .error failure => ending = .error failure ∧ after = tick tracer (tick tracer left)
    | .ok resolved =>
      service.WorksWith tracer name version resolved.manifest (tick tracer left) ending after := by
  obtain ⟨found, decided, selects, proceeds⟩ := course.decides
  cases selects with
  | unsupplied misses refuses =>
      rw [unheld] at misses
      cases misses
      rw [fetches] at refuses
      cases refuses
      cases proceeds
      exact ⟨rfl, rfl⟩
  | searched supplies searches =>
      cases supplies with
      | cached holds =>
          rw [unheld] at holds
          cases holds
      | fetched misses answers =>
          rw [unheld] at misses
          cases misses
          rw [fetches] at answers
          cases answers
          unfold WorksWith
          dsimp only
          rw [searches]
          exact proceeds

end Service

end Courier
