import Courier.Proofs.Command.Download
import Courier.Proofs.Service.Reporting
import Courier.Proofs.Web.Submission
/-!
The report command. Both of its modes describe the host by the settings, read the clock twice and
make one report; the first reading opens the section of the report, the second one dates it. Main
statements: what a dry run leaves, and what the other one leaves once its service is built.
-/

namespace Courier

open Computer

def PackageResult.reportOn (result : PackageResult) (source : HostSource)
    (overrides : HostEnvironment) (ready : Computer) : ResultReport :=
  result.report (Reporter.reportedHost (source.describedOn overrides ready))
    (tick Clock.read ready).now

theorem Reporter.runTraced_report_on {reporter : Reporter Machine} {source : HostSource}
    {overrides : HostEnvironment}
    (collects : reporter.collect = source.collect FileSystem.access overrides)
    (clock : reporter.clock = Clock.read) (result : PackageResult) (trace : Trace)
    (ready : Computer) :
    let submitted := runFrom (reporter.submit (result.reportOn source overrides ready))
      (tick Clock.read (tick Clock.read ready))
    let reported := runTraced (reporter.report Clock.read result) trace ready
    reported.1 = submitted.1.mapError rejected ∧ reported.2.2 = tick Clock.read submitted.2 := by
  have unchanged : (tick Clock.read ready).files = ready.files := rfl
  rw [runTraced_report, collects, clock]
  dsimp only
  change _ ∧ _
  have describes : runFrom (source.collect FileSystem.access overrides)
      (stepFrom Clock.read ready).2 =
      (source.describedOn overrides ready, tick Clock.read ready) := by
    rw [source.runFrom_collect]
    exact Prod.ext (source.describedOn_congr overrides
      (congrArg (·.read source.releasePath) unchanged)) rfl
  rw [describes]
  exact ⟨rfl, rfl⟩

namespace Session

variable (peer : Peer) (source : HostSource) (places : Places) {settings : Settings}
  {reporting : ReportOptions} {result : PackageResult} {ready : Computer}

theorem passes_loadResult {passage : Computer → Computer → Prop} [Passage passage] (file : Path) :
    PassesOrFails passage ((session peer source places).loadResult file) := by
  refine (passes_readText peer source places file).bind fun text => ?_
  split
  · exact passesOrFails_pure _
  · exact passesOrFails_throw _

theorem runFrom_runReport_dry (dry : reporting.dryRun = true)
    (loads : runFrom ((session peer source places).loadResult reporting.result) ready =
      (.ok result, ready)) :
    let report := result.reportOn source settings.host.overrides ready
    ∃ lines, runFrom ((session peer source places).runReport settings reporting) ready =
      (.ok (), { tick Clock.read (tick Clock.read (tick Clock.read ready)) with
        printed := ready.printed ++ report.toJson.pretty :: lines }) := by
  intro report
  let reporter := (session peer source places).printingReporter settings
  obtain ⟨ended, left⟩ := @Reporter.runTraced_report_on reporter source settings.host.overrides
    rfl rfl result [] ready
  rcases reported : runTraced (reporter.report Clock.read result) [] ready with
    ⟨outcome, entries, final⟩
  have ended : outcome = .ok () := by
    rw [reported] at ended
    exact ended
  have left : final = { tick Clock.read (tick Clock.read (tick Clock.read ready)) with
      printed := ready.printed ++ [report.toJson.pretty] } := by
    rw [reported] at left
    exact left
  obtain ⟨lines, shows⟩ := runFrom_shown peer source places reporting.trace entries.shown
    (orFail outcome) final
  refine ⟨lines, ?_⟩
  unfold runReport
  rw [runFrom_bind_ok loads]
  dsimp only
  rw [if_pos dry, runFrom_traced_bind]
  have works : runTraced (reporter.report (session peer source places).around.clock result) []
      ready = (outcome, entries, final) := reported
  rw [works]
  refine shows.trans ?_
  rw [runFrom_orFail, ended, left]
  simp only [List.append_assoc, List.singleton_append]
  rfl

theorem runFrom_finish (shown : Bool) (lines : List String) (ending : Except Failure Unit)
    (said : String) (computer : Computer) :
    let finished := runFrom (do
      if shown then (session peer source places).print lines
      orFail ending
      (session peer source places).print [said] : CommandAction Machine Unit) computer
    finished.2.requests = computer.requests ∧
      ∀ failure, ending = .error failure → finished.1 = .error (.service failure) := by
  obtain ⟨printed, shows⟩ := runFrom_shown peer source places shown lines (do
    orFail ending
    (session peer source places).print [said]) computer
  intro finished
  have finishes : finished = _ := shows
  rw [finishes, runFrom_bind, runFrom_orFail]
  cases ending with
  | error failure =>
      refine ⟨rfl, ?_⟩
      intro other same
      cases same
      rfl
  | ok done =>
      dsimp only [Except.mapError]
      rw [runFrom_print]
      refine ⟨rfl, ?_⟩
      intro failure impossible
      cases impossible

/-- A run that is no dry run hands the report to the service, and sends nothing besides. -/
private theorem runReport_submits (real : reporting.dryRun = false)
    (loads : runFrom ((session peer source places).loadResult reporting.result) ready =
      (.ok result, ready)) {service : Service Machine}
    (serves : (runFrom ((session peer source places).service settings reporting.service)
      ready).1 = .ok service) :
    let report := result.reportOn source settings.host.overrides ready
    let submitted := runFrom (service.submit report) (tick Clock.read (tick Clock.read ready))
    let ran := runFrom ((session peer source places).runReport settings reporting) ready
    ran.2.requests = submitted.2.requests ∧
      ∀ failure, submitted.1 = .error failure →
        ran.1 = .error (.service (Reporter.rejected failure)) := by
  intro report submitted ran
  have kept : ready = (runFrom ((session peer source places).service settings reporting.service)
      ready).2 := passes_service peer source places settings reporting.service ready
  have built : runFrom ((session peer source places).service settings reporting.service) ready =
      (.ok service, ready) := Prod.ext serves kept.symm
  obtain ⟨collects, clock⟩ : service.reporter.collect =
      source.collect FileSystem.access settings.host.overrides ∧
      service.reporter.clock = Clock.read := by
    obtain ⟨inHand, endpoint, -, rfl⟩ := service_eq_ok peer source places built
    exact ⟨rfl, rfl⟩
  obtain ⟨ended, left⟩ := Reporter.runTraced_report_on collects clock result [] ready
  rcases reported : runTraced (service.reporter.report Clock.read result) [] ready with
    ⟨outcome, entries, final⟩
  rw [reported] at ended left
  have ended : outcome = submitted.1.mapError Reporter.rejected := ended
  have left : final = tick Clock.read submitted.2 := left
  have works : runTraced (service.report (session peer source places).around.clock result) []
      ready = (outcome, entries, final) := reported
  obtain ⟨requests, fails⟩ := runFrom_finish peer source places reporting.trace entries.shown
    outcome result.shown final
  have finishes : ran = runFrom (do
      if reporting.trace then (session peer source places).print entries.shown
      orFail outcome
      (session peer source places).print [result.shown] : CommandAction Machine Unit) final := by
    simp only [ran]
    unfold runReport
    rw [runFrom_bind_ok loads]
    dsimp only
    rw [if_neg (Bool.eq_false_iff.mp real), runFrom_bind_ok built, runFrom_traced_bind, works]
  rw [← finishes] at requests fails
  constructor
  · rw [requests, left]
    rfl
  · intro failure failed
    apply fails
    rw [ended, failed]
    rfl

/-- A run that is no dry run posts the report below the endpoint and sends nothing besides, or fails
for the address of the report and sends nothing. -/
theorem runFrom_runReport_real (real : reporting.dryRun = false)
    (loads : runFrom ((session peer source places).loadResult reporting.result) ready =
      (.ok result, ready)) {service : Service Machine}
    (serves : (runFrom ((session peer source places).service settings reporting.service)
      ready).1 = .ok service) :
    ∃ endpoint,
      (reporting.service.override (ServiceConfig.ofSettings settings)).controlEndpoint =
        .ok endpoint ∧
      let request := endpoint.reportRequest
        (result.reportOn source settings.host.overrides ready)
      let ran := runFrom ((session peer source places).runReport settings reporting) ready
      if request.Sendable then ran.2.requests = ready.requests ++ [request.asSent]
      else ran.2.requests = ready.requests ∧
        ∃ reason, ran.1 = .error (.service (.reportSubmission reason)) := by
  obtain ⟨requests, fails⟩ := runReport_submits peer source places real loads serves
  rcases built : runFrom ((session peer source places).service settings reporting.service) ready
    with ⟨ending, served⟩
  rw [built] at serves
  dsimp only at serves
  subst serves
  obtain ⟨inHand, endpoint, described, rfl⟩ := service_eq_ok peer source places built
  obtain ⟨address, -, accepted⟩ := ServiceConfig.controlEndpoint_eq_ok described
  have submits := Endpoint.runFrom_submit accepted peer
    (result.reportOn source settings.host.overrides ready)
    (tick Clock.read (tick Clock.read ready))
  refine ⟨endpoint, described, ?_⟩
  intro request ran
  have requests : ran.2.requests = (runFrom (endpoint.submit (exchange peer) _) _).2.requests :=
    requests
  dsimp only at submits
  split
  case isTrue sendable =>
    rw [if_pos sendable] at submits
    rw [requests, submits]
    rfl
  case isFalse refused =>
    rw [if_neg refused] at submits
    rw [requests, submits]
    exact ⟨rfl, _, fails _ (congrArg Prod.fst submits)⟩

end Session

end Courier
