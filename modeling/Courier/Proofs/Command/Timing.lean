import Courier.Proofs.Command.Report
import Courier.Proofs.Files.Directories
import Courier.Proofs.Web.Download
/-!
A download whose result is kept in a file, and a later report of the file. The result holds when the
download began and when each of its sections was closed; the report turns these times into
milliseconds since the beginning. Main statement: a report has one step for every section of the
download, with times that are not negative, do not go back, and do not exceed the time of the whole.
-/

namespace Courier

open Computer

variable {passage : Computer → Computer → Prop}

/-- The report tells of sections one by one, in the order in which they were closed, and when since
the beginning of the operation they were. -/
structure ResultReport.Recounts (report : ResultReport) (entries : Trace) : Prop where
  steps : report.steps.map (fun step => (step.action, step.result)) =
    entries.map fun entry => (entry.operation, entry.exitCode)
  nonnegative : ∀ step ∈ report.steps, 0 ≤ step.timing
  ordered : report.steps.Pairwise fun early late => early.timing ≤ late.timing
  within : ∀ step ∈ report.steps, step.timing ≤ report.overallTiming

theorem PackageResult.report_recounts {entries : Trace} {before after : Computer}
    (dated : entries.DatedWithin before after) {start now : Int64} (begins : start ≤ before.now)
    (ends : after.now ≤ now) (options : PackageOptions) (succeeded : Bool)
    (host : HostEnvironment) :
    ((PackageResult.ofDownload options start entries succeeded).report host now).Recounts
      entries := by
  let timing (entry : TraceEntry) : Int64 := elapsedMillis entry.endNanos start
  have steps : ((PackageResult.ofDownload options start entries succeeded).report host now).steps =
      entries.map fun entry => ⟨entry.operation, entry.exitCode, timing entry⟩ :=
    List.map_map
  constructor
  case steps =>
    rw [steps, List.map_map]
    rfl
  case nonnegative =>
    rw [steps]
    intro step member
    obtain ⟨entry, inside, rfl⟩ := List.mem_map.mp member
    exact elapsedMillis_nonneg (Int64.le_trans begins (dated.begins entry inside))
  case ordered =>
    rw [steps]
    refine List.pairwise_map.mpr (dated.ordered.imp ?_)
    intro early late ordered
    exact elapsedMillis_mono ordered start
  case within =>
    rw [steps]
    intro step member
    obtain ⟨entry, inside, rfl⟩ := List.mem_map.mp member
    exact elapsedMillis_mono (Int64.le_trans (dated.ends entry inside) ends) start

namespace Session

variable (peer : Peer) (host : HostSource) (places : Places)

theorem read_of_openLog {settings : Settings} {computer left : Computer}
    (opens : runFrom ((session peer host places).openLog settings) computer = (.ok (), left))
    {file : Path} {content : Bytes} (reads : computer.files.read file = .ok content) :
    left.files.read file = .ok content ∨ left.files.read file = .ok [] := by
  unfold openLog at opens
  rw [runFrom_adapt, runFrom_bind] at opens
  rcases made : runFrom ((session peer host places).around.files.makeDirectories
    settings.logDirectory) computer with ⟨ending, reached⟩
  rw [made] at opens
  cases ending with
  | error fault => cases opens
  | ok done =>
      have readsStill := (FileSystem.makeDirectoriesWithin_spec made).1.read reads
      have creates : runFrom ((session peer host places).around.files.create
          (settings.logDirectory.join logFileName)) reached =
          FileSystem.changed reached (reached.files.create _) :=
        FileSystem.runFrom_create _ reached
      dsimp only at opens
      rw [creates] at opens
      cases created : reached.files.create (settings.logDirectory.join logFileName) with
      | error fault =>
          rw [created] at opens
          cases opens
      | ok files =>
          rw [created] at opens
          cases opens
          exact FileSystem.read_of_create_other readsStill created

theorem read_of_begin {invocation : Invocation} {settings : Settings} {computer ready : Computer}
    (begins : runFrom ((session peer host places).begin invocation) computer =
      (.ok settings, ready)) {file : Path} {content : Bytes}
    (reads : computer.files.read file = .ok content) :
    ready.files.read file = .ok content ∨
      invocation.log = true ∧ ready.files.read file = .ok [] := by
  unfold begin at begins
  rw [runFrom_bind] at begins
  have kept : computer = (runFrom ((session peer host places).settings invocation.config)
    computer).2 := passes_settings peer host places invocation.config computer
  rcases loaded : runFrom ((session peer host places).settings invocation.config) computer with
    ⟨ending, left⟩
  rw [loaded] at begins kept
  dsimp only at kept
  subst kept
  cases ending with
  | error fault => cases begins
  | ok settings =>
      dsimp only at begins
      split at begins
      case isTrue logs =>
        rw [runFrom_bind] at begins
        rcases opened : runFrom ((session peer host places).openLog settings) computer with
          ⟨ending, left⟩
        rw [opened] at begins
        cases ending with
        | error fault => cases begins
        | ok done =>
            cases begins
            exact (read_of_openLog peer host places opened reads).imp_right (⟨logs, ·⟩)
      case isFalse =>
        cases begins
        exact .inl reads

theorem begin_eq_error {invocation : Invocation} {fault : CommandFault} {computer ready : Computer}
    (fails : runFrom ((session peer host places).begin invocation) computer =
      (.error fault, ready)) :
    (runFrom ((session peer host places).settings invocation.config) computer).1 = .error fault ∨
      invocation.log = true ∧ ∃ settings,
        (runFrom ((session peer host places).settings invocation.config) computer).1 =
          .ok settings ∧
        (runFrom ((session peer host places).openLog settings) computer).1 = .error fault := by
  unfold begin at fails
  rw [runFrom_bind] at fails
  have kept : computer = (runFrom ((session peer host places).settings invocation.config)
    computer).2 := passes_settings peer host places invocation.config computer
  rcases loaded : runFrom ((session peer host places).settings invocation.config) computer with
    ⟨ending, left⟩
  rw [loaded] at fails kept
  dsimp only at kept
  subst kept
  cases ending with
  | error cause =>
      cases fails
      exact .inl rfl
  | ok settings =>
      dsimp only at fails
      split at fails
      case isTrue logs =>
        refine .inr ⟨logs, settings, rfl, ?_⟩
        rw [runFrom_bind] at fails
        rcases opened : runFrom ((session peer host places).openLog settings) computer with
          ⟨ending, left⟩
        rw [opened] at fails
        cases ending with
        | error cause =>
            cases fails
            rfl
        | ok done => cases fails
      case isFalse => cases fails

/-- The sections of the download that an invocation begins, in the order in which they are closed,
and the files as it leaves them, or nothing if the invocation fails before. -/
def downloadSections? (session : Session Machine) (invocation : Invocation)
    (options : PackageOptions) (start : Computer) : Option (Trace × FileSystem) :=
  match runFrom (session.begin invocation) start with
  | (.error _, _) => none
  | (.ok settings, ready) =>
    match runFrom (session.service settings options.service) ready with
    | (.error _, _) => none
    | (.ok service, served) =>
      let (_, entries, left) := runTraced
        (service.downloadArtifact Clock.read options.package options.version) []
        (tick Clock.read served)
      some (entries, left.files)

theorem passes_of_service {settings : Settings} {options : ServiceOptions}
    {service : Service Machine} {computer served : Computer}
    (serves : runFrom ((session peer host places).service settings options) computer =
      (.ok service, served)) : service.Passes Precedes := by
  obtain ⟨inHand, endpoint, -, rfl⟩ := service_eq_ok peer host places serves
  exact ServiceConfig.serviceAt_passes _ peer host endpoint

end Session

inductive Computer.Holds (entries : Trace) (file : Path) (computer : Computer) : Prop
  | mk {options : PackageOptions} {start : Int64} {succeeded : Bool} {before after : Computer}
      (dated : entries.DatedWithin before after) (begins : start ≤ before.now)
      (ends : after.now ≤ computer.now)
      (reads : computer.files.read file = .ok (Utf8.encode
        (PackageResult.ofDownload options start entries succeeded).text))

theorem Computer.Holds.later {entries : Trace} {file : Path} {computer later : Computer}
    (holds : computer.Holds entries file) (ordered : computer.now ≤ later.now)
    (kept : later.files.read file = computer.files.read file) : later.Holds entries file := by
  obtain ⟨dated, begins, ends, reads⟩ := holds
  exact ⟨dated, begins, Int64.le_trans ends ordered, kept.trans reads⟩

namespace Session

variable (peer : Peer) (host : HostSource) (places : Places)

/-- A download that is begun leaves its result in the file wherever a file can be made, and says
elsewhere that it cannot be written. -/
theorem run_download {invocation : Invocation} {options : PackageOptions} {file : Path}
    (downloads : invocation.command = .download options (some file)) {computer : Computer}
    (steady : computer.clock.Steady) :
    let ran := runFrom ((session peer host places).run invocation) computer
    match (session peer host places).downloadSections? invocation options computer with
    | none => ∃ fault, ran.1 = .error fault
    | some (entries, files) =>
      match files.create file with
      | .error fault => ran.1 = .error (.unwritable file fault)
      | .ok _ => ran.2.clock.Steady ∧ ran.2.Holds entries file := by
  intro ran
  have runs : ran = runFrom (do
      let settings ← (session peer host places).begin invocation
      (session peer host places).runDownload settings options (some file)) computer := by
    simp only [ran, run, downloads]
  have begins : computer.Precedes
      (runFrom ((session peer host places).begin invocation) computer).2 :=
    passes_begin peer host places invocation computer
  unfold downloadSections?
  rw [runFrom_bind] at runs
  rcases begun : runFrom ((session peer host places).begin invocation) computer with
    ⟨ending, ready⟩
  rw [begun] at runs begins
  cases ending with
  | error fault => exact ⟨fault, congrArg Prod.fst runs⟩
  | ok settings =>
      have serves : ready.Precedes
          (runFrom ((session peer host places).service settings options.service) ready).2 :=
        passes_service peer host places settings options.service ready
      dsimp only at runs begins ⊢
      rw [runFrom_runDownload] at runs
      rcases service : runFrom ((session peer host places).service settings options.service) ready
        with ⟨ending, served⟩
      rw [service] at runs serves
      cases ending with
      | error fault => exact ⟨fault, congrArg Prod.fst runs⟩
      | ok found =>
          have passes := passes_of_service peer host places service
          have clock : (session peer host places).around.clock = Clock.read := rfl
          have reading : stepFrom Clock.read served = (served.now, tick Clock.read served) := rfl
          dsimp only at runs serves ⊢
          rw [clock, reading] at runs
          have steadyServed : served.clock.Steady :=
            Precedes.steady serves (Precedes.steady begins steady)
          -- The reading that the result begins with is taken before any section is opened.
          have ticks : served.Precedes (tick Clock.read served) := passes_read served
          have steadyLater := ticks.steady steadyServed
          obtain ⟨lasts, entries, recorded, dated⟩ :=
            passes.dates_downloadArtifact options.package options.version []
              (tick Clock.read served) steadyLater
          rcases performed : runTraced (found.downloadArtifact Clock.read options.package
            options.version) [] (tick Clock.read served) with ⟨ending, closed, left⟩
          rw [performed] at lasts recorded dated runs
          obtain rfl : closed = entries := recorded
          dsimp only at runs
          obtain ⟨clock, written⟩ := runFrom_conclude peer host places options file
            (.ofDownload options served.now closed ending.isOk) closed ending left
          rw [← runs] at clock written
          have concludes : left.Precedes ran.2 := precedes_of_clock clock
          cases created : left.files.create file with
          | error fault =>
              rw [created] at written
              exact written
          | ok made =>
              rw [created] at written
              have steadyLeft := Precedes.steady lasts steadyLater
              exact ⟨concludes.steady steadyLeft,
                .mk dated (ticks.now_le steadyServed) (concludes.now_le steadyLeft) written⟩

end Session

/-! ### The second run -/

namespace Computer

/-- The report was handed on, and no other one: it was printed before anything else, or it was
posted. -/
def HandsOn (computer : Computer) (dryRun : Bool) (report : ResultReport) : Prop :=
  if dryRun then
    computer.printed.head? = some report.toJson.pretty ∧ computer.requests = []
  else computer.requests.map (·.body) = [some report.toJson]

def HandsOnNothing (computer : Computer) (dryRun : Bool) : Prop :=
  computer.requests = [] ∧ (dryRun = true → computer.printed = [])

end Computer

namespace Session

variable (peer : Peer) (host : HostSource) (places : Places)

/-- Why a report of these sections is not handed on, and how it fails: its settings cannot be read
or its log cannot be made, or the log takes the place of the result; or it is to be posted, and
there is no service for it, or the address of the service takes no report. -/
inductive Undelivered (session : Session Machine) (invocation : Invocation)
    (reporting : ReportOptions) (entries : Trace) (start : Computer) : CommandFault → Prop
  | settings {fault : CommandFault}
      (fails : (runFrom (session.settings invocation.config) start).1 = .error fault) :
      Undelivered session invocation reporting entries start fault
  | log {settings : Settings} {fault : CommandFault} (logs : invocation.log = true)
      (loads : (runFrom (session.settings invocation.config) start).1 = .ok settings)
      (fails : (runFrom (session.openLog settings) start).1 = .error fault) :
      Undelivered session invocation reporting entries start fault
  | emptied {settings : Settings} {ready : Computer} {reason : String}
      (logs : invocation.log = true)
      (begins : runFrom (session.begin invocation) start = (.ok settings, ready))
      (empty : ready.files.read reporting.result = .ok []) :
      Undelivered session invocation reporting entries start
        (.invalidContent reporting.result reason)
  | service {settings : Settings} {ready : Computer} {fault : CommandFault}
      (posts : reporting.dryRun = false)
      (begins : runFrom (session.begin invocation) start = (.ok settings, ready))
      (fails : (runFrom (session.service settings reporting.service) ready).1 = .error fault) :
      Undelivered session invocation reporting entries start fault
  | address {settings : Settings} {ready : Computer} {endpoint : Endpoint} {report : ResultReport}
      {reason : String} (posts : reporting.dryRun = false)
      (begins : runFrom (session.begin invocation) start = (.ok settings, ready))
      (described :
        (reporting.service.override (ServiceConfig.ofSettings settings)).controlEndpoint =
          .ok endpoint)
      (recounts : report.Recounts entries)
      (refused : ¬(endpoint.reportRequest report).Sendable) :
      Undelivered session invocation reporting entries start
        (.service (.reportSubmission reason))

def Reports (session : Session Machine) (invocation : Invocation) (reporting : ReportOptions)
    (entries : Trace) (start : Computer) (ran : Except CommandFault Unit × Computer) : Prop :=
  (∃ fault, session.Undelivered invocation reporting entries start fault ∧
    ran.1 = .error fault ∧ ran.2.HandsOnNothing reporting.dryRun) ∨
  ∃ report : ResultReport, report.Recounts entries ∧ ran.2.HandsOn reporting.dryRun report

theorem parse_empty : ∃ reason, PackageResult.parse "" = .error reason :=
  ⟨_, rfl⟩

theorem runFrom_loadResult_empty {file : Path} {computer : Computer}
    (emptied : computer.files.read file = .ok []) :
    ∃ reason, runFrom ((session peer host places).loadResult file) computer =
      (.error (.invalidContent file reason), computer) := by
  obtain ⟨reason, unreadable⟩ := parse_empty
  have empty : computer.files.read file = .ok (Utf8.encode "") := emptied
  unfold loadResult
  rw [runFrom_bind_ok (runFrom_readText peer host places empty), unreadable]
  exact ⟨reason, rfl⟩

variable {invocation : Invocation} {settings : Settings} {reporting : ReportOptions}
  {result : PackageResult} {entries : Trace} {computer ready : Computer}

theorem now_le_of_tick (steady : computer.clock.Steady) :
    computer.now ≤ (tick Clock.read computer).now :=
  Precedes.now_le (passes_read computer) steady

section Loaded

variable
  (begins : runFrom ((session peer host places).begin invocation) computer = (.ok settings, ready))
  (loads : runFrom ((session peer host places).loadResult reporting.result) ready =
    (.ok result, ready))
  (recounts : (result.reportOn host settings.host.overrides ready).Recounts entries)
  (unsent : ready.requests = [])

include loads recounts unsent

theorem reports_dry (dry : reporting.dryRun = true) (unsaid : ready.printed = []) :
    (session peer host places).Reports invocation reporting entries computer
      (runFrom ((session peer host places).runReport settings reporting) ready) := by
  obtain ⟨lines, ran⟩ := @runFrom_runReport_dry peer host places settings reporting result
    ready dry loads
  refine .inr ⟨_, recounts, ?_⟩
  rw [ran, dry]
  unfold HandsOn
  rw [if_pos rfl]
  constructor
  · change (ready.printed ++ _ :: lines).head? = _
    rw [unsaid]
    rfl
  · exact unsent

include begins

theorem reports_posted (real : reporting.dryRun = false) :
    (session peer host places).Reports invocation reporting entries computer
      (runFrom ((session peer host places).runReport settings reporting) ready) := by
  rcases serves : runFrom ((session peer host places).service settings reporting.service) ready
    with ⟨ending, served⟩
  cases ending with
  | error fault =>
      have kept : ready = served := by
        have passes : ready = (runFrom ((session peer host places).service settings
            reporting.service) ready).2 :=
          passes_service peer host places settings reporting.service ready
        rw [serves] at passes
        exact passes
      have ended : runFrom ((session peer host places).runReport settings reporting) ready =
          (.error fault, served) := by
        unfold runReport
        rw [runFrom_bind_ok loads]
        dsimp only
        rw [if_neg (Bool.eq_false_iff.mp real), runFrom_bind_error serves]
      refine .inl ⟨fault, .service real begins (congrArg Prod.fst serves), ?_⟩
      rw [ended, ← kept, real]
      exact ⟨rfl, unsent, fun impossible => nomatch impossible⟩
  | ok service =>
      obtain ⟨endpoint, described, posts⟩ := runFrom_runReport_real peer host places real loads
        (congrArg Prod.fst serves)
      dsimp only at posts
      split at posts
      case isTrue =>
        refine .inr ⟨_, recounts, ?_⟩
        unfold HandsOn
        rw [if_neg (Bool.eq_false_iff.mp real), posts, unsent]
        rfl
      case isFalse refused =>
        obtain ⟨requests, reason, failed⟩ := posts
        refine .inl ⟨_, .address real begins described recounts refused, failed, ?_⟩
        rw [real]
        exact ⟨requests.trans unsent, fun impossible => nomatch impossible⟩

end Loaded

theorem run_report (reports : invocation.command = .report reporting)
    (holds : computer.Holds entries reporting.result) (steady : computer.clock.Steady)
    (unsent : computer.requests = []) (unsaid : computer.printed = []) :
    (session peer host places).Reports invocation reporting entries computer
      (runFrom ((session peer host places).run invocation) computer) := by
  have runs : runFrom ((session peer host places).run invocation) computer = runFrom (do
      let settings ← (session peer host places).begin invocation
      (session peer host places).runReport settings reporting) computer := by
    simp only [run, reports]
  rw [runs, runFrom_bind]
  have begins : computer.Quiet
      (runFrom ((session peer host places).begin invocation) computer).2 :=
    passes_begin peer host places invocation computer
  rcases begun : runFrom ((session peer host places).begin invocation) computer with
    ⟨ending, ready⟩
  rw [begun] at begins
  have idle : ready.HandsOnNothing reporting.dryRun :=
    ⟨begins.requests.trans unsent, fun _ => begins.printed.trans unsaid⟩
  cases ending with
  | error fault =>
      refine .inl ⟨fault, ?_, rfl, idle⟩
      rcases begin_eq_error peer host places begun with unread | ⟨logs, settings, loads, fails⟩
      · exact .settings unread
      · exact .log logs loads fails
  | ok settings =>
      obtain @⟨options, start, succeeded, before, after, dated, earliest, latest, reads⟩ := holds
      have steadyReady := Precedes.steady begins.precedes steady
      -- A log that is kept in the file of the result has emptied it by now.
      rcases read_of_begin peer host places begun reads with kept | ⟨logs, emptied⟩
      case inr =>
        obtain ⟨reason, fails⟩ := runFrom_loadResult_empty peer host places emptied
        have ended : runFrom ((session peer host places).runReport settings reporting) ready =
            (.error (.invalidContent reporting.result reason), ready) := by
          unfold runReport
          exact runFrom_bind_error fails _
        dsimp only
        rw [ended]
        exact .inl ⟨_, .emptied logs begun emptied, rfl, idle⟩
      case inl =>
        have loads := runFrom_loadResult peer host places kept
        have ordered := Precedes.now_le begins.precedes steady
        have recounts := PackageResult.report_recounts dated earliest (Int64.le_trans latest
          (Int64.le_trans ordered (now_le_of_tick steadyReady))) options succeeded
          (Reporter.reportedHost (host.describedOn settings.host.overrides ready))
        cases dry : reporting.dryRun with
        | true =>
            exact reports_dry peer host places loads recounts (begins.requests.trans unsent) dry
              (begins.printed.trans unsaid)
        | false =>
            exact reports_posted peer host places begun loads recounts
              (begins.requests.trans unsent) dry

end Session

namespace Computer

variable {computer : Computer} {peer : Peer} {host : HostSource} {places : Places}
  {arguments laterArguments : List String} {invocation laterInvocation : Invocation}
  {options : PackageOptions} {file : Path} {reporting : ReportOptions} {later : Computer}

/-- A download and a later report of its result, where the clock never goes back. A download that
gets as far as its first section leaves its result in the file, unless no file can be made there.
The report then recounts the sections of the download and is handed on, or it hands on nothing and
fails for one of the causes that there are. -/
theorem report_of_download (steady : computer.clock.Steady)
    (asks : Invocation.read arguments = .ok invocation)
    (downloads : invocation.command = .download options (some file))
    (follows : (computer.execute peer host places arguments).2.Precedes later)
    (kept : later.files.read file =
      (computer.execute peer host places arguments).2.files.read file)
    (asksLater : Invocation.read laterArguments = .ok laterInvocation)
    (reports : laterInvocation.command = .report reporting) (same : reporting.result = file)
    (laterPeer : Peer) (laterHost : HostSource) (laterPlaces : Places) :
    let download := computer.execute peer host places arguments
    let report := later.execute laterPeer laterHost laterPlaces laterArguments
    let laterSession := session laterPeer laterHost laterPlaces
    match (session peer host places).downloadSections? invocation options computer.fresh with
    | none => download.1.exitCode = 1
    | some (entries, files) =>
      match files.create file with
      | .error fault =>
        download.1 = { exitCode := 1, complaints := (CommandFault.unwritable file fault).lines }
      | .ok _ =>
        (∃ fault, laterSession.Undelivered laterInvocation reporting entries later.fresh fault ∧
          report.1 = { exitCode := 1, complaints := fault.lines } ∧
          report.2.HandsOnNothing reporting.dryRun) ∨
        ∃ recounting : ResultReport, recounting.Recounts entries ∧
          report.2.HandsOn reporting.dryRun recounting := by
  intro download report laterSession
  have downloaded : download = _ := computer.execute_eq peer host places asks
  have reported : report = _ := later.execute_eq laterPeer laterHost laterPlaces asksLater
  have steadyFresh : computer.fresh.clock.Steady := steady
  have runs := Session.run_download peer host places downloads steadyFresh
  rcases ran : runFrom ((session peer host places).run invocation) computer.fresh with
    ⟨ending, left⟩
  rw [ran] at downloaded
  dsimp only at downloaded runs
  rw [ran] at runs
  cases sections : (session peer host places).downloadSections? invocation options computer.fresh
    with
  | none =>
      rw [sections] at runs
      obtain ⟨fault, failed⟩ := runs
      dsimp only at failed
      subst failed
      rw [downloaded]
      rfl
  | some closed =>
      obtain ⟨entries, files⟩ := closed
      rw [sections] at runs
      dsimp only at runs ⊢
      cases created : files.create file with
      | error fault =>
          rw [created] at runs
          dsimp only at runs ⊢
          subst runs
          exact congrArg Prod.fst downloaded
      | ok made =>
          rw [created] at runs
          obtain ⟨steadyLeft, holds⟩ := runs
          have reached : (computer.execute peer host places arguments).2 = left :=
            congrArg Prod.snd downloaded
          rw [reached] at follows kept
          have holdsLater : later.fresh.Holds entries reporting.result := by
            rw [same]
            exact holds.later (follows.now_le steadyLeft) kept
          have steadyLater : later.fresh.clock.Steady := follows.steady steadyLeft
          have ends := Session.run_report laterPeer laterHost laterPlaces reports holdsLater
            steadyLater rfl rfl
          rw [reported]
          refine ends.imp_left ?_
          rintro ⟨fault, cause, failed, nothing⟩
          exact ⟨fault, cause, congrArg endingOf failed, nothing⟩

/-- Nobody answers, so that the download fails in the first of its two sections; the report comes
three milliseconds after the download began, and is printed. -/
theorem report_of_unanswered_download :
    let clock : Clock := ⟨fun count => if count < 4 then 5000000 else 8000000⟩
    let computer : Computer := { clock }
    let places : Places := { home := ⟨"/home"⟩ }
    let arguments :=
      ["download", "pkg", "--endpoint", "http://127.0.0.1", "--result-out", "/result.json"]
    let options : PackageOptions :=
      { package := "pkg", service := { endpoint := some "http://127.0.0.1" } }
    let invocation : Invocation := { command := .download options (some ⟨"/result.json"⟩) }
    let download := computer.execute Peer.absent {} places arguments
    let laterArguments := ["report", "--result", "/result.json", "--dry-run"]
    let reporting : ReportOptions := { result := ⟨"/result.json"⟩, dryRun := true }
    let laterInvocation : Invocation := { command := .report reporting }
    let report := download.2.execute Peer.absent {} places laterArguments
    let sections := (session Peer.absent {} places).downloadSections? invocation options
      computer.fresh
    clock.Steady ∧ Invocation.read arguments = .ok invocation ∧
      Invocation.read laterArguments = .ok laterInvocation ∧
      ∃ entries files, sections = some (entries, files) ∧
        (entries.map fun entry => (entry.operation, entry.endNanos)) =
          [("download manifest", 5000000), ("download artifact", 8000000)] ∧
        (files.create ⟨"/result.json"⟩).isOk = true ∧
        ∃ recounting : ResultReport, recounting.Recounts entries ∧
          report.2.HandsOn true recounting := by
  intro clock computer places arguments options invocation download laterArguments reporting
    laterInvocation report sections
  have steady : clock.Steady := by
    intro count
    dsimp only [clock]
    split
    · split
      · decide
      · decide
    · rw [if_neg (by omega)]
      decide
  have asks : Invocation.read arguments = .ok invocation := by decide +kernel
  have asksLater : Invocation.read laterArguments = .ok laterInvocation := by decide +kernel
  have ends : (sections.map fun (entries, files) =>
      (entries.map fun entry => (entry.operation, entry.endNanos),
        (files.create ⟨"/result.json"⟩).isOk)) =
      some ([("download manifest", 5000000), ("download artifact", 8000000)], true) := by
    decide +kernel
  have loads : (runFrom ((session Peer.absent {} places).settings none) download.2.fresh).1.isOk =
      true := by decide +kernel
  have executed : computer.execute Peer.absent {} places arguments = download := rfl
  have reported : download.2.execute Peer.absent {} places laterArguments = report := rfl
  have closed : (session Peer.absent {} places).downloadSections? invocation options
    computer.fresh = sections := rfl
  have downloads : invocation.command = .download options (some ⟨"/result.json"⟩) := rfl
  -- From here on nothing is to be carried out again.
  clear_value report download sections invocation
  have follows : (computer.execute Peer.absent {} places arguments).2.Precedes download.2 := by
    rw [executed]
    exact Passage.refl download.2
  have kept : download.2.files.read ⟨"/result.json"⟩ =
      (computer.execute Peer.absent {} places arguments).2.files.read ⟨"/result.json"⟩ := by
    rw [executed]
  have recounts := @report_of_download computer Peer.absent {} places arguments laterArguments
    invocation laterInvocation options ⟨"/result.json"⟩ reporting download.2 steady asks downloads
    follows kept asksLater rfl rfl Peer.absent {} places
  rw [closed, executed, reported] at recounts
  cases sections with
  | none => cases ends
  | some left =>
      obtain ⟨entries, files⟩ := left
      obtain ⟨dates, made⟩ := Prod.mk.inj (Option.some.inj ends)
      refine ⟨steady, asks, asksLater, entries, files, rfl, dates, made, ?_⟩
      cases created : files.create ⟨"/result.json"⟩ with
      | error fault =>
          rw [created] at made
          cases made
      | ok files =>
          simp only [created] at recounts
          rcases recounts with ⟨fault, cause, -, -⟩ | handed
          · -- The report is printed and keeps no log, so that only its settings could be missing.
            cases cause with
            | settings fails =>
                rw [fails] at loads
                cases loads
            | log logs loads fails => cases logs
            | emptied logs begins empty => cases logs
            | service posts begins fails => cases posts
            | address posts begins described recounts refused => cases posts
          · exact handed

end Computer

end Courier
