import Courier.Proofs.Command.Report
/-!
A dry run of the report command beside the run that posts. Both read the same settings and the same
result; one prints the report, the other one has a service post it. Main statement: what the dry run
prints is what the other run posts, unless the address of the reports is one that no request is sent
to.
-/

namespace Courier

open Computer

def attributeNames : List String := [
  "architecture", "availabilityZone", "instanceID", "instanceType", "platformName",
  "platformVersion", "region"]

theorem attributes_reportedHost_error (cause : Failure) :
    (Reporter.reportedHost (.error cause)).attributes.toList = attributeNames.map (·, "") := by
  have unknown : ({} : HostEnvironment).attributes.toList = attributeNames.map (·, "") := by
    decide +kernel
  exact unknown

namespace Session

variable (peer : Peer) (source : HostSource) (places : Places)

theorem runFrom_runReport_unloaded {settings : Settings} {reporting : ReportOptions}
    {ready : Computer} {fault : CommandFault}
    (unloaded : (runFrom ((session peer source places).loadResult reporting.result) ready).1 =
      .error fault) :
    runFrom ((session peer source places).runReport settings reporting) ready =
      (.error fault, ready) := by
  have kept : ready = (runFrom ((session peer source places).loadResult reporting.result)
      ready).2 := passes_loadResult peer source places reporting.result ready
  exact runFrom_bind_error (Prod.ext unloaded kept.symm) _

end Session

namespace Computer

variable {computer ready : Computer} {peer : Peer} {source : HostSource} {places : Places}
  {arguments dryArguments : List String} {invocation : Invocation} {reporting : ReportOptions}
  {settings : Settings} {service : Service Machine}

theorem execute_report (asks : Invocation.read arguments = .ok invocation)
    (reports : invocation.command = .report reporting)
    (begins : runFrom ((session peer source places).begin invocation) computer.fresh =
      (.ok settings, ready)) {ended : Except CommandFault Unit} {left : Computer}
    (ran : runFrom ((session peer source places).runReport settings reporting) ready =
      (ended, left)) :
    computer.execute peer source places arguments = (endingOf ended, left) := by
  refine computer.execute_of_run peer source places asks ?_
  unfold Session.run
  rw [reports]
  exact (runFrom_bind_ok begins _).trans ran

/-- A dry run and a run that posts, on equal computers and with equal arguments but for the dry run.
They reject the file of the result alike and send nothing, or the dry run prints the report that the
other run posts below the endpoint. That run sends nothing else, and nothing at all if the address
is refused; then the report was not submitted. A host that cannot be described has all attributes,
and they are empty. -/
theorem dry_run_prints_report (asks : Invocation.read arguments = .ok invocation)
    (reports : invocation.command = .report reporting) (real : reporting.dryRun = false)
    (asksDry : Invocation.read dryArguments =
      .ok { invocation with command := .report { reporting with dryRun := true } })
    (begins : runFrom ((session peer source places).begin invocation) computer.fresh =
      (.ok settings, ready))
    (serves : (runFrom ((session peer source places).service settings reporting.service)
      ready).1 = .ok service) :
    let dry := computer.execute peer source places dryArguments
    let posting := computer.execute peer source places arguments
    match (runFrom ((session peer source places).loadResult reporting.result) ready).1 with
    | .error fault =>
      dry = (endingOf (.error fault), ready) ∧ posting = dry ∧
        ready.requests = [] ∧ ready.printed = []
    | .ok result =>
      let report := result.reportOn source settings.host.overrides ready
      dry.1 = endingOf (.ok ()) ∧ dry.2.printed.head? = some report.toJson.pretty ∧
      dry.2.requests = [] ∧
      (∀ cause, source.describedOn settings.host.overrides ready = .error cause →
        report.attributes.toList = attributeNames.map (·, "")) ∧
      ∃ endpoint,
        (reporting.service.override (ServiceConfig.ofSettings settings)).controlEndpoint =
          .ok endpoint ∧
        let request := endpoint.reportRequest report
        if request.Sendable then posting.2.requests = [request.asSent]
        else posting.2.requests = [] ∧
          ∃ reason, posting.1 = endingOf (.error (.service (.reportSubmission reason))) := by
  intro dry posting
  -- Nothing is sent or printed until the command begins, so all of it comes from the report.
  have quiet : computer.fresh.Quiet ready := by
    have passes : computer.fresh.Quiet
        (runFrom ((session peer source places).begin invocation) computer.fresh).2 :=
      Session.passes_begin peer source places invocation computer.fresh
    rw [begins] at passes
    exact passes
  have beginsDry : runFrom ((session peer source places).begin
      { invocation with command := .report { reporting with dryRun := true } }) computer.fresh =
      (.ok settings, ready) := begins
  cases loads : (runFrom ((session peer source places).loadResult reporting.result) ready).1 with
  | error fault =>
      have dryRan : dry = (endingOf (.error fault), ready) :=
        execute_report asksDry rfl beginsDry
          (Session.runFrom_runReport_unloaded peer source places loads)
      have postingRan : posting = (endingOf (.error fault), ready) :=
        execute_report asks reports begins
          (Session.runFrom_runReport_unloaded peer source places loads)
      exact ⟨dryRan, postingRan.trans dryRan.symm, quiet.requests, quiet.printed⟩
  | ok result =>
      have kept : ready = (runFrom ((session peer source places).loadResult reporting.result)
          ready).2 := Session.passes_loadResult peer source places reporting.result ready
      have loaded : runFrom ((session peer source places).loadResult reporting.result) ready =
          (.ok result, ready) := Prod.ext loads kept.symm
      obtain ⟨lines, printed⟩ := @Session.runFrom_runReport_dry peer source places settings
        { reporting with dryRun := true } result ready rfl loaded
      obtain ⟨endpoint, described, posts⟩ :=
        Session.runFrom_runReport_real peer source places real loaded serves
      have dryRan := execute_report asksDry rfl beginsDry printed
      rcases ran : runFrom ((session peer source places).runReport settings reporting) ready with
        ⟨ending, left⟩
      rw [ran] at posts
      have postingRan : posting = _ := execute_report asks reports begins ran
      refine ⟨congrArg Prod.fst dryRan, ?printed, ?unsent, ?attributes, endpoint, described,
        ?posted⟩
      case printed =>
        rw [show dry = _ from dryRan]
        change (ready.printed ++ _ :: lines).head? = _
        rw [quiet.printed]
        rfl
      case unsent =>
        rw [show dry = _ from dryRan]
        exact quiet.requests
      case attributes =>
        intro cause unknown
        change (Reporter.reportedHost (source.describedOn settings.host.overrides
          ready)).attributes.toList = _
        rw [unknown, attributes_reportedHost_error]
      case posted =>
        intro request
        rw [postingRan]
        dsimp only at posts ⊢
        split
        case isTrue sendable =>
          rw [if_pos sendable, quiet.requests] at posts
          exact posts
        case isFalse refused =>
          rw [if_neg refused, quiet.requests] at posts
          obtain ⟨requests, reason, failed⟩ := posts
          subst failed
          exact ⟨requests, reason, rfl⟩

def withResult : Computer :=
  { files := .holding [(["result.json"], .file (Utf8.encode ({} : PackageResult).text))] }

/-- The host is unknown, and nobody answers the request that is sent. -/
theorem dry_run_prints_report_unknown_host :
    let places : Places := { home := ⟨"/home"⟩ }
    let arguments := ["report", "--result", "/result.json", "--endpoint", "http://127.0.0.1"]
    let posting := withResult.execute Peer.absent {} places arguments
    let dry := withResult.execute Peer.absent {} places (arguments ++ ["--dry-run"])
    ∃ (report : ResultReport) (endpoint : Endpoint),
      report.attributes.toList = attributeNames.map (·, "") ∧
      dry.1 = endingOf (.ok ()) ∧ dry.2.printed.head? = some report.toJson.pretty ∧
      dry.2.requests = [] ∧ endpoint.url.text = "http://127.0.0.1/" ∧
      posting.2.requests = [(endpoint.reportRequest report).asSent] := by
  intro places arguments posting dry
  let reporting : ReportOptions :=
    { result := ⟨"/result.json"⟩, service := { endpoint := some "http://127.0.0.1" } }
  let invocation : Invocation := { command := .report reporting }
  let settings := Settings.initial places
  let known : Endpoint :=
    { url := { scheme := "http", host := some (.ipv4 2130706433), path := .segments [""] }
      timeoutMillis := 30000 }
  have asks : Invocation.read arguments = .ok invocation := by decide +kernel
  have asksDry : Invocation.read (arguments ++ ["--dry-run"]) =
      .ok { invocation with command := .report { reporting with dryRun := true } } := by
    decide +kernel
  have begins : runFrom ((session Peer.absent {} places).begin invocation) withResult.fresh =
      (.ok settings, withResult.fresh) := by
    have loads : (runFrom ((session Peer.absent {} places).settings invocation.config)
        withResult.fresh).1 = .ok settings := by decide +kernel
    rw [Session.runFrom_begin_unlogged Peer.absent {} places rfl, loads]
  have built : (runFrom ((session Peer.absent {} places).service settings reporting.service)
      withResult.fresh).1.isOk = true := by decide +kernel
  have parsed : (reporting.service.override (ServiceConfig.ofSettings settings)).controlEndpoint =
      .ok known := by decide +kernel
  have unknown : (HostSource.describedOn {} settings.host.overrides withResult.fresh).isOk =
      false := by decide +kernel
  have loaded : runFrom ((session Peer.absent {} places).loadResult reporting.result)
      withResult.fresh = (.ok {}, withResult.fresh) :=
    Session.runFrom_loadResult Peer.absent {} places (by decide +kernel)
  have sendable : ∀ report, (known.reportRequest report).Sendable := by
    intro report
    have usable : (known.reportRequest {}).Sendable := by decide +kernel
    exact usable
  have text : known.url.text = "http://127.0.0.1/" := by decide +kernel
  have posted : withResult.execute Peer.absent {} places arguments = posting := rfl
  have ran : withResult.execute Peer.absent {} places (arguments ++ ["--dry-run"]) = dry := rfl
  -- From here on nothing is to be carried out again.
  clear_value posting dry known
  cases serves : (runFrom ((session Peer.absent {} places).service settings reporting.service)
    withResult.fresh).1 with
  | error fault =>
      rw [serves] at built
      cases built
  | ok service =>
      have agrees := @dry_run_prints_report withResult withResult.fresh Peer.absent {} places
        arguments (arguments ++ ["--dry-run"]) invocation reporting settings service asks rfl rfl
        asksDry begins serves
      rw [loaded, posted, ran] at agrees
      dsimp only at agrees
      generalize PackageResult.reportOn _ _ _ _ = report at agrees
      obtain ⟨ended, printed, unsent, attributes, endpoint, described, posts⟩ := agrees
      cases undescribed : HostSource.describedOn {} settings.host.overrides withResult.fresh with
      | ok host =>
          rw [undescribed] at unknown
          cases unknown
      | error cause =>
          rw [parsed] at described
          obtain rfl := Except.ok.inj described
          rw [if_pos (sendable report)] at posts
          exact ⟨report, known, attributes cause undescribed, ended, printed, unsent, text, posts⟩

/-- No request is sent to an address with braces, whatever a dry run prints. -/
theorem dry_run_without_post :
    let places : Places := { home := ⟨"/home"⟩ }
    let arguments :=
      ["report", "--result", "/result.json", "--endpoint", "http://$\x7bHOST\x7d/v1"]
    let posting := withResult.execute Peer.absent {} places arguments
    let dry := withResult.execute Peer.absent {} places (arguments ++ ["--dry-run"])
    let service := (session Peer.absent {} places).service (Settings.initial places)
      { endpoint := some "http://$\x7bHOST\x7d/v1" }
    (runFrom service withResult.fresh).1.isOk = true ∧ dry.1.exitCode = 0 ∧
      dry.2.printed.length = 1 ∧ posting.1.exitCode = 1 ∧ posting.2.requests.length = 0 := by
  decide +kernel

end Computer

end Courier
