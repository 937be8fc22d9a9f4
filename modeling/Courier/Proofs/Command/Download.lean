import Courier.Proofs.Command.Session
import Courier.Proofs.Report.RoundTrip
import Courier.Proofs.Service.Account
/-!
The download command, in any session. The trace of the download becomes the steps of the result that
is kept for a later report. Main statement: the trace of an operation tells the truth about its
outcome, and so does the result that is made of it and that the file holds in the end.
-/

namespace Courier

variable {σ α β : Type}

namespace Session

variable (session : Session (StateM σ))

theorem runFrom_traced_bind (shown : Bool) (work : Traced (StateM σ) α)
    (next : α × Trace → CommandAction (StateM σ) β) (start : σ) :
    runFrom (session.traced shown work >>= next) start =
      let ran := runTraced work [] start
      runFrom (do
        if shown then session.print ran.2.1.shown
        next (ran.1, ran.2.1)) ran.2.2 := by
  unfold traced
  rw [bind_assoc, runFrom_bind, runFrom_lift]
  cases shown with
  | false => rfl
  | true =>
      dsimp only
      rw [if_pos rfl, if_pos rfl, bind_assoc]
      rfl

variable [MonadStateOf DocumentMemory (StateM σ)] [MonadStateOf RepositoryMemory (StateM σ)]

/-- What is left to do when a download has ended: its result is kept, and its path is printed. -/
def conclude (options : PackageOptions) (path : Path) (result : PackageResult)
    (entries : Trace) (ending : Except Failure Path) : CommandAction (StateM σ) Unit := do
  if options.trace then session.print entries.shown
  session.writeResult path result
  let path ← orFail ending
  session.print [path.text]

theorem runFrom_runDownload (settings : Settings) (options : PackageOptions) (path : Path)
    (start : σ) :
    runFrom (session.runDownload settings options (some path)) start =
      match runFrom (session.service settings options.service) start with
      | (.error fault, left) => (.error fault, left)
      | (.ok service, served) =>
        let begun := stepFrom session.around.clock served
        let ran := runTraced (service.downloadArtifact session.around.clock options.package
          options.version) [] begun.2
        runFrom (session.conclude options path
          (.ofDownload options begun.1 ran.2.1 ran.1.isOk) ran.2.1 ran.1) ran.2.2 := by
  unfold runDownload
  rw [runFrom_bind]
  rcases runFrom (session.service settings options.service) start with ⟨ending, served⟩
  cases ending with
  | error fault => rfl
  | ok service =>
      dsimp only
      rw [runFrom_bind, runFrom_lift]
      exact session.runFrom_traced_bind _ _ _ _

end Session

theorem PackageResult.ofDownload_exitCode {entries : Trace} {ending : Except Failure α}
    (tells : entries.TellsOf ending) (options : PackageOptions) (start : Int64) :
    let result := PackageResult.ofDownload options start entries ending.isOk
    result.exitCode = 0 ↔ ∀ step ∈ result.steps, step.exitCode = 0 := by
  intro result
  have codes : (∀ step ∈ result.steps, step.exitCode = 0) ↔
      ∀ entry ∈ entries, entry.exitCode = 0 := List.forall_mem_map
  rw [codes, ← tells.succeeded]
  change (if ending.isOk = true then exitSuccess else exitFailure) = 0 ↔ _
  cases ending.isOk with
  | true => exact ⟨fun _ => rfl, fun _ => rfl⟩
  | false =>
      constructor
      · intro impossible
        exact absurd impossible (by decide)
      · intro impossible
        cases impossible

namespace Session

open Computer

variable (peer : Peer) (source : HostSource) (places : Places)

theorem runFrom_writeResult_of_create {path : Path} {computer : Computer} {made : FileSystem}
    (created : computer.files.create path = .ok made) (result : PackageResult) :
    ∃ files, runFrom ((session peer source places).writeResult path result) computer =
      (.ok (), { computer with files }) ∧ files.read path = .ok (Utf8.encode result.text) := by
  obtain ⟨files, filled, reads⟩ :=
    FileSystem.runFrom_write_of_create created (Utf8.encode result.text)
  refine ⟨files, ?_, reads⟩
  change runFrom (ExceptT.adapt (CommandFault.unwritable path)
    ((FileSystem.access : FileAccess Machine).write path (Utf8.encode result.text))) computer = _
  rw [runFrom_adapt, filled]
  rfl

theorem runFrom_writeResult_of_refused {path : Path} {computer : Computer} {fault : IoFault}
    (refused : computer.files.create path = .error fault) (result : PackageResult) :
    runFrom ((session peer source places).writeResult path result) computer =
      (.error (.unwritable path fault), computer) := by
  change runFrom (ExceptT.adapt (CommandFault.unwritable path)
    ((FileSystem.access : FileAccess Machine).write path (Utf8.encode result.text))) computer = _
  have fails : runFrom ((FileSystem.access : FileAccess Machine).create path) computer =
      (.error fault, computer) := by
    rw [FileSystem.runFrom_create, refused]
    rfl
  unfold FileAccess.write
  rw [runFrom_adapt, runFrom_bind_error fails]
  rfl

theorem runFrom_loadResult {file : Path} {computer : Computer} {result : PackageResult}
    (holds : computer.files.read file = .ok (Utf8.encode result.text)) :
    runFrom ((session peer source places).loadResult file) computer = (.ok result, computer) := by
  unfold loadResult
  rw [runFrom_bind_ok (runFrom_readText peer source places holds), PackageResult.parse_text]
  rfl

theorem runFrom_conclude (options : PackageOptions) (path : Path) (result : PackageResult)
    (entries : Trace) (ending : Except Failure Path) (computer : Computer) :
    let concluded := runFrom ((session peer source places).conclude options path result entries
      ending) computer
    concluded.2.clock = computer.clock ∧
      match computer.files.create path with
      | .error fault => concluded.1 = .error (.unwritable path fault)
      | .ok _ => concluded.2.files.read path = .ok (Utf8.encode result.text) := by
  intro concluded
  obtain ⟨printed, shows⟩ := runFrom_shown peer source places options.trace entries.shown (do
    (session peer source places).writeResult path result
    let path ← orFail ending
    (session peer source places).print [path.text]) computer
  have runs : concluded = _ := shows
  let told : Computer := { computer with printed := computer.printed ++ printed }
  cases created : computer.files.create path with
  | error fault =>
      have refused : told.files.create path = .error fault := created
      rw [runs,
        runFrom_bind_error (runFrom_writeResult_of_refused peer source places refused result)]
      exact ⟨rfl, rfl⟩
  | ok made =>
      have makes : told.files.create path = .ok made := created
      obtain ⟨files, writes, reads⟩ :=
        runFrom_writeResult_of_create peer source places makes result
      rw [runs, runFrom_bind_ok writes]
      cases ending with
      | error failure => exact ⟨rfl, reads⟩
      | ok destination =>
          have fetched : runFrom (orFail (.ok destination) : CommandAction Machine Path)
              { told with files } = (.ok destination, { told with files }) := rfl
          rw [runFrom_bind_ok fetched, runFrom_print]
          exact ⟨rfl, reads⟩

theorem file_holds_result (settings : Settings) (options : PackageOptions) (file : Path)
    (computer : Computer) :
    let session := session peer source places
    let ended := runFrom (session.runDownload settings options (some file)) computer
    match runFrom (session.service settings options.service) computer with
    | (.error fault, left) => ended = (.error fault, left)
    | (.ok service, served) =>
      let begun := stepFrom Clock.read served
      let ran := runTraced (service.downloadArtifact Clock.read options.package options.version)
        [] begun.2
      let result := PackageResult.ofDownload options begun.1 ran.2.1 ran.1.isOk
      (result.exitCode = 0 ↔ ∀ step ∈ result.steps, step.exitCode = 0) ∧
        match ran.2.2.files.create file with
        | .error fault => ended.1 = .error (.unwritable file fault)
        | .ok _ =>
          ended.2.files.read file = .ok (Utf8.encode result.text) ∧
            runFrom (session.loadResult file) ended.2 = (.ok result, ended.2) := by
  intro session ended
  have runs : ended = _ := session.runFrom_runDownload settings options file computer
  rcases serves : runFrom (session.service settings options.service) computer with
    ⟨ending, served⟩
  rw [serves] at runs
  cases ending with
  | error fault => exact runs
  | ok service =>
      have clock : session.around.clock = Clock.read := rfl
      rw [clock] at runs
      dsimp only at runs ⊢
      obtain ⟨entries, recorded, tells, -⟩ := service.downloadArtifact_tells
        Clock.read options.package options.version [] (stepFrom Clock.read served).2
      rcases performed : runTraced (service.downloadArtifact Clock.read options.package
        options.version) [] (stepFrom Clock.read served).2 with ⟨ending, closed, left⟩
      rw [performed] at recorded tells runs
      obtain rfl : closed = entries := recorded
      refine ⟨PackageResult.ofDownload_exitCode tells options _, ?_⟩
      obtain ⟨-, written⟩ := runFrom_conclude peer source places options file
        (.ofDownload options (stepFrom Clock.read served).1 closed ending.isOk) closed ending left
      have concludes : ended = runFrom ((Computer.session peer source places).conclude options file
        (.ofDownload options (stepFrom Clock.read served).1 closed ending.isOk) closed ending)
          left := runs
      rw [← concludes] at written
      cases created : left.files.create file with
      | error fault =>
          rw [created] at written
          exact written
      | ok made =>
          rw [created] at written
          exact ⟨written, runFrom_loadResult peer source places written⟩

end Session

/-- The sections that an operation adds to the trace tell how it ended, and those of the download of
an artifact how far it got. The result that the download command keeps is made of the sections of
its download, and fails if and only if one of its steps does. On a computer its file holds exactly
this result in the end, wherever a file can be made. -/
theorem Service.trace_tells_outcome (service : Service (StateM σ)) (tracer : StateM σ Int64)
    (name version : String) (result : PackageResult) (trace : Trace) (start : σ)
    [MonadStateOf DocumentMemory (StateM σ)] [MonadStateOf RepositoryMemory (StateM σ)]
    (session : Session (StateM σ)) (settings : Settings) (options : PackageOptions) (file : Path) :
    (∃ entries : Trace,
      let ran := runTraced (service.downloadManifest tracer name version) trace start
      ran.2.1 = trace ++ entries ∧ entries.TellsOf ran.1) ∧
    (∃ entries : Trace,
      let ran := runTraced (service.report tracer result) trace start
      ran.2.1 = trace ++ entries ∧ entries.TellsOf ran.1) ∧
    (∃ entries : Trace,
      let ran := runTraced (service.downloadArtifact tracer name version) trace start
      let looking := tick tracer start
      ran.2.1 = trace ++ entries ∧ entries.TellsOf ran.1 ∧
      entries.operations =
        (if (runFrom (service.store.cached name version) looking).1.isOk then []
          else ["download manifest"]) ++
        (if (service.obtained tracer name version looking).1.isOk then ["resolve package variant"]
          else []) ++
        ["download artifact"] ++
        match (service.selected tracer name version looking).1 with
        | .ok file => ["download " ++ file.name]
        | .error _ => []) ∧
    (match runFrom (session.service settings options.service) start with
    | (.error fault, left) =>
      runFrom (session.runDownload settings options (some file)) start = (.error fault, left)
    | (.ok service, served) =>
      let begun := stepFrom session.around.clock served
      let ran := runTraced (service.downloadArtifact session.around.clock options.package
        options.version) [] begun.2
      let result := PackageResult.ofDownload options begun.1 ran.2.1 ran.1.isOk
      runFrom (session.runDownload settings options (some file)) start =
          runFrom (session.conclude options file result ran.2.1 ran.1) ran.2.2 ∧
        (result.exitCode = 0 ↔ ∀ step ∈ result.steps, step.exitCode = 0)) ∧
    ∀ (peer : Peer) (source : HostSource) (places : Places) (computer : Computer),
      let session := Computer.session peer source places
      let ended := runFrom (session.runDownload settings options (some file)) computer
      match runFrom (session.service settings options.service) computer with
      | (.error fault, left) => ended = (.error fault, left)
      | (.ok service, served) =>
        let begun := stepFrom Clock.read served
        let ran := runTraced (service.downloadArtifact Clock.read options.package options.version)
          [] begun.2
        let result := PackageResult.ofDownload options begun.1 ran.2.1 ran.1.isOk
        (result.exitCode = 0 ↔ ∀ step ∈ result.steps, step.exitCode = 0) ∧
          match ran.2.2.files.create file with
          | .error fault => ended.1 = .error (.unwritable file fault)
          | .ok _ =>
            ended.2.files.read file = .ok (Utf8.encode result.text) ∧
              runFrom (session.loadResult file) ended.2 = (.ok result, ended.2) := by
  refine ⟨service.downloadManifest_tells tracer name version trace start,
    service.report_tells tracer result trace start, ?artifact, ?command, ?computer⟩
  case artifact =>
    exact service.downloadArtifact_tells tracer name version trace start
  case command =>
    rw [session.runFrom_runDownload]
    rcases runFrom (session.service settings options.service) start with ⟨ending, served⟩
    cases ending with
    | error fault => rfl
    | ok service =>
        obtain ⟨entries, recorded, tells, -⟩ := service.downloadArtifact_tells
          session.around.clock options.package options.version []
          (stepFrom session.around.clock served).2
        refine ⟨rfl, ?_⟩
        rw [recorded]
        exact PackageResult.ofDownload_exitCode tells options _
  case computer =>
    exact fun peer source places =>
      Session.file_holds_result peer source places settings options file

end Courier
