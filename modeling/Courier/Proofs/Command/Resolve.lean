import Courier.Proofs.Command.Session
import Courier.Proofs.Service.Failures
/-!
Resolution on this host beside a download by the service. The resolve command describes the host and
searches a manifest in a file; the service does the same with a manifest in its cache, in sections
of a trace and with failures put into its own words. Main statement: where the settings, the host
and the text of the manifest are the same, both decide for the same file or fail for the same cause.
-/

namespace Courier

open Computer

namespace HostSource

variable (source : HostSource) (overrides : HostEnvironment)

theorem failsWith_collect :
    FailsWith (fun failure => ∃ reason, failure = .environment reason)
      (source.collect (FileSystem.access : FileAccess Machine) overrides) := by
  unfold collect
  split
  · exact (failsWith_pure _).bind fun _ => failsWith_pure _
  · refine (failsWith_lift _).bind fun ending => ?_
    cases ending with
    | ok content => exact (failsWith_pure _).bind fun _ => failsWith_pure _
    | error fault => exact (failsWith_throw ⟨_, rfl⟩).bind fun _ => failsWith_pure _

theorem mapError_describedOn (computer : Computer) :
    (source.describedOn overrides computer).mapError asEnvironment =
      source.describedOn overrides computer := by
  cases described : source.describedOn overrides computer with
  | ok host => rfl
  | error failure =>
      obtain ⟨reason, rfl⟩ := source.failsWith_collect overrides computer failure described
      rfl

def decisionOn (computer : Computer) (manifest : Manifest) : Except Failure ResolvedFile :=
  (source.describedOn overrides computer).bind manifest.select

theorem ofSelection_of_decisionOn {computer : Computer} {manifest : Manifest} {failure : Failure}
    (undecided : source.decisionOn overrides computer manifest = .error failure) :
    failure.OfSelection := by
  unfold decisionOn at undecided
  cases described : source.describedOn overrides computer with
  | error cause =>
      obtain ⟨reason, rfl⟩ := source.failsWith_collect overrides computer cause described
      rw [described] at undecided
      cases undecided
      exact .environment reason
  | ok host =>
      rw [described] at undecided
      exact Manifest.select_eq_error undecided

end HostSource

def ResolveOptions.overrides (options : ResolveOptions) (settings : Settings) : HostEnvironment :=
  { settings.host.overrides with
    operatingSystem := options.override settings.host.overrides.operatingSystem }

namespace Session

def hostLines : Except Failure HostEnvironment → List String
  | .ok host => [
    "Platform:          " ++ host.operatingSystem.platform,
    "Platform version:  " ++ host.operatingSystem.platformVersion,
    "Architecture:      " ++ host.operatingSystem.architecture]
  | .error _ => []

/-- What is printed of a file once it is selected: its name, each of its checksums with the
algorithm in a column of eight characters, and where it is, if its manifest says so. -/
def fileLines : Except Failure ResolvedFile → List String
  | .ok file =>
    ["File:              " ++ file.name] ++
    (file.info.checksums.toList.map fun (algorithm, digest) =>
      "  " ++ algorithm ++ String.ofList (List.replicate (8 - algorithm.length) ' ') ++ " " ++
        digest) ++
    file.info.downloadLocation.toList.map ("Location:          " ++ ·)
  | .error _ => []

theorem hostLines_ok (host : HostEnvironment) :
    hostLines (.ok host) = host.operatingSystem.shown := rfl

theorem fileLines_ok (file : ResolvedFile) : fileLines (.ok file) = file.shown := rfl

variable (peer : Peer) (source : HostSource) (places : Places)

theorem resolveHost_eq (settings : Settings) (options : ResolveOptions) :
    (session peer source places).resolveHost settings options =
      source.collect FileSystem.access (options.overrides settings) :=
  rfl

/-- Resolution prints the host and the file for it, or fails as the decision did. -/
theorem runFrom_runResolve {settings : Settings} {options : ResolveOptions} {ready : Computer}
    {content : String} {manifest : Manifest}
    (spelled : Manifest.parse (Utf8.encode content) = .ok manifest)
    (holds : ready.files.read options.manifest = .ok (Utf8.encode content)) :
    let described := source.describedOn (options.overrides settings) ready
    let decision := source.decisionOn (options.overrides settings) ready manifest
    runFrom ((session peer source places).runResolve settings options) ready =
      ((decision.map fun _ => ()).mapError CommandFault.service,
        { ready with printed := ready.printed ++ hostLines described ++ fileLines decision }) := by
  intro described decision
  unfold runResolve
  rw [runFrom_bind_ok (runFrom_readText peer source places holds), spelled]
  dsimp only
  rw [runFrom_bind_ok (runFrom_pure manifest ready), resolveHost_eq, runFrom_bind,
    runFrom_adapt, source.runFrom_collect]
  cases describes : source.describedOn (options.overrides settings) ready with
  | error cause =>
      have undecided : decision = .error cause := by
        simp only [decision, HostSource.decisionOn, describes, Except.bind]
      rw [undecided]
      simp only [described, describes, hostLines, fileLines, List.append_nil]
      rfl
  | ok host =>
      have decides : decision = manifest.select host := by
        simp only [decision, HostSource.decisionOn, describes, Except.bind]
      dsimp only [Except.mapError]
      rw [runFrom_bind_ok (runFrom_print peer source places _ ready), runFrom_bind,
        runFrom_orFail, decides]
      cases manifest.select host with
      | error failure =>
          simp only [described, describes, hostLines_ok, fileLines, List.append_nil]
          rfl
      | ok found =>
          dsimp only [Except.mapError]
          rw [runFrom_print]
          simp only [described, describes, hostLines_ok, fileLines_ok]
          rfl

end Session

theorem FileCache.runFrom_read_of_read (cache : FileCache) {resource version : String}
    {computer : Computer} {bytes : Bytes}
    (holds : computer.files.read (cache.manifestPath resource version) = .ok bytes) :
    runFrom (cache.read (FileSystem.access : FileAccess Machine) resource version) computer =
      (.ok bytes, computer) := by
  unfold read
  dsimp only
  rw [runFrom_bind, runFrom_outcome, FileSystem.runFrom_read, holds]
  rfl

namespace Service

variable {peer : Peer} {source : HostSource} {settings : Settings} {service : Service Machine}

/-- A service of these settings, with a manifest in its cache, decides as its host is described when
the download begins, and has sent and written nothing by then. -/
theorem downloadArtifact_proceeds {config : ServiceConfig}
    (serves : config.service (surroundings peer source) = .ok service)
    {name version : String} {bytes : Bytes} {manifest : Manifest} {online : Computer}
    (spelled : Manifest.parse bytes = .ok manifest)
    (cached : online.files.read (config.cache.manifestPath name version) = .ok bytes)
    (trace : Trace) :
    let downloaded := runTraced (service.downloadArtifact Clock.read name version) trace online
    service.Proceeds Clock.read name version
      (tick Clock.read (tick Clock.read (tick Clock.read online)))
      (source.decisionOn config.hostOverrides online manifest) downloaded.1 downloaded.2.2 := by
  obtain ⟨endpoint, -, same⟩ := ServiceConfig.service_eq_ok serves
  have looks : service.store.cache.read name version =
      config.cache.read FileSystem.access name version := by
    rw [same]
    rfl
  have collects : service.collect = source.collect FileSystem.access config.hostOverrides := by
    rw [same]
    rfl
  have holds : runFrom (service.store.cached name version) (tick Clock.read online) =
      (.ok manifest, tick Clock.read online) := by
    have reads : runFrom (config.cache.read FileSystem.access name version)
        (tick Clock.read online) = (.ok bytes, tick Clock.read online) :=
      config.cache.runFrom_read_of_read cached
    rw [Store.runFrom_cached, looks, reads]
    exact Prod.ext spelled rfl
  have searches : runFrom (service.search manifest) (tick Clock.read (tick Clock.read online)) =
      (source.decisionOn config.hostOverrides online manifest,
        tick Clock.read (tick Clock.read online)) := by
    have unchanged : (tick Clock.read (tick Clock.read online)).files = online.files := rfl
    rw [runFrom_search, collects, source.runFrom_collect, source.mapError_describedOn,
      source.describedOn_congr config.hostOverrides
        (congrArg (·.read source.releasePath) unchanged)]
    rfl
  have course := service.downloadArtifact_course Clock.read name version trace online
  have works := course.worksWith_of_held holds
  unfold WorksWith at works
  rw [searches] at works
  exact works

end Service

namespace Computer

variable {peer servicePeer : Peer} {source : HostSource} {places : Places}
  {offline ready online : Computer} {invocation : Invocation} {settings : Settings} {file : Path}
  {content name version : String} {manifest : Manifest} {service : Service Machine}

/-- The resolve command without options on the host, for a manifest in a file, and the download of
an artifact by a service of the same settings that has the same text in its cache. There is one
decision about the file: it fails in a way of the selection of files, and then so do both, for the
same cause; or the command prints the file with its checksums, and the downloader gets those, once a
location for it is found. -/
theorem resolve_decides_as_download (resolves : invocation.command = .resolve { manifest := file })
    (begins : runFrom ((session peer source places).begin invocation) offline =
      (.ok settings, ready))
    (holds : ready.files.read file = .ok (Utf8.encode content))
    (spelled : Manifest.parse (Utf8.encode content) = .ok manifest)
    (serves : (ServiceConfig.ofSettings settings).service (surroundings servicePeer source) =
      .ok service)
    (cached : online.files.read
      ((ServiceConfig.ofSettings settings).cache.manifestPath name version) =
        .ok (Utf8.encode content))
    (sameHost : online.files.read source.releasePath = ready.files.read source.releasePath)
    (trace : Trace) :
    let described := source.describedOn settings.host.overrides ready
    let decision := described.bind manifest.select
    let resolved := runFrom ((session peer source places).run invocation) offline
    let downloaded := runTraced (service.downloadArtifact Clock.read name version) trace online
    (∀ failure, decision = .error failure → failure.OfSelection) ∧
    resolved = ((decision.map fun _ => ()).mapError CommandFault.service,
      { ready with printed :=
        ready.printed ++ Session.hostLines described ++ Session.fileLines decision }) ∧
    service.Proceeds Clock.read name version
      (tick Clock.read (tick Clock.read (tick Clock.read online))) decision downloaded.1
      downloaded.2.2 := by
  intro described decision resolved downloaded
  refine ⟨?selection, ?command, ?service⟩
  case selection =>
    intro failure undecided
    exact source.ofSelection_of_decisionOn settings.host.overrides undecided
  case command =>
    have runs : resolved = runFrom (do
        let settings ← (session peer source places).begin invocation
        (session peer source places).runResolve settings { manifest := file }) offline := by
      simp only [resolved, Session.run, resolves]
    rw [runs, runFrom_bind_ok begins]
    exact Session.runFrom_runResolve peer source places spelled holds
  case service =>
    have proceeds := Service.downloadArtifact_proceeds serves spelled cached trace
    have same : source.decisionOn settings.host.overrides online manifest = decision := by
      unfold HostSource.decisionOn
      rw [source.describedOn_congr settings.host.overrides sameHost]
    rw [← same]
    exact proceeds

/-- The system's own file names the platform, and the wildcard stands for its version. -/
theorem resolve_decides_as_download_detected :
    let places : Places := { home := ⟨"/home"⟩ }
    let settings : Settings :=
      { Settings.initial places with
        service := { endpoint := some "http://a" }
        cacheDirectory := ⟨"/c"⟩ }
    let config := ServiceConfig.ofSettings settings
    let content := "\x7b\"packages\":\x7b\"debian\":\x7b\"_any\":\x7b\"x86_64\":" ++
      "\x7b\"file\":\"a\"\x7d\x7d\x7d\x7d,\"files\":\x7b\"a\":\x7b\"checksums\":\x7b" ++
      "\"md5\":\"0f\",\"sha256\":\"1e\"\x7d,\"downloadLocation\":\"http://a/b\"\x7d\x7d\x7d"
    let info : FileInfo :=
      { checksums := .ofList [("md5", "0f"), ("sha256", "1e")]
        downloadLocation := some "http://a/b" }
    let variant : PackageVariant := { fileName := "a" }
    let variants : Table PackageVariant := .ofList [("x86_64", variant)]
    let versions : Table (Table PackageVariant) := .ofList [("_any", variants)]
    let manifest : Manifest :=
      { packages := .ofList [("debian", versions)], files := .ofList [("a", info)] }
    let release : List (Place × Node) :=
      [(["etc"], .directory),
        (["etc", "os-release"], .file (Utf8.encode "ID=Debian\nVERSION_ID=12\n"))]
    let settingsText := "[service]\nendpoint=http://a\n[cache]\ndirectory=/c\n"
    let offline : Computer := { files := .holding (release ++ [
      (["config.ini"], .file (Utf8.encode settingsText)),
      (["manifest.json"], .file (Utf8.encode content))]) }
    let online : Computer := { files := .holding (release ++ [
      (["c"], .directory),
      (["c", resourceDigest "pkg"], .directory),
      (["c", resourceDigest "pkg", "1.0.json"], .file (Utf8.encode content))]) }
    let invocation : Invocation :=
      { config := some ⟨"/config.ini"⟩, command := .resolve { manifest := ⟨"/manifest.json"⟩ } }
    let described := HostSource.describedOn {} settings.host.overrides offline
    let decision := described.bind manifest.select
    let resolved := runFrom ((session Peer.absent {} places).run invocation) offline
    decision = .ok ⟨"a", info⟩ ∧
    ∃ service, config.service (surroundings Peer.absent {}) = .ok service ∧
      let downloaded := runTraced (service.downloadArtifact Clock.read "pkg" "1.0") [] online
      (∀ failure, decision = .error failure → failure.OfSelection) ∧
      resolved = ((decision.map fun _ => ()).mapError CommandFault.service,
        { offline with printed :=
          offline.printed ++ Session.hostLines described ++ Session.fileLines decision }) ∧
      resolved.2.printed = [
        "Platform:          debian",
        "Platform version:  12",
        "Architecture:      x86_64",
        "File:              a",
        "  md5      0f",
        "  sha256   1e",
        "Location:          http://a/b"] ∧
      service.Proceeds Clock.read "pkg" "1.0"
        (tick Clock.read (tick Clock.read (tick Clock.read online))) decision downloaded.1
        downloaded.2.2 := by
  intro places settings config content info variant variants versions manifest release
    settingsText offline online invocation described decision resolved
  have loads : (runFrom ((session Peer.absent {} places).settings invocation.config) offline).1 =
      .ok settings := by decide +kernel
  have holds : offline.files.read ⟨"/manifest.json"⟩ = .ok (Utf8.encode content) := by
    decide +kernel
  have spelled : Manifest.parse (Utf8.encode content) = .ok manifest := by decide +kernel
  have cached : online.files.read (config.cache.manifestPath "pkg" "1.0") =
      .ok (Utf8.encode content) := by decide +kernel
  have sameHost : online.files.read osReleasePath = offline.files.read osReleasePath := by
    decide +kernel
  have decides : decision = .ok ⟨"a", info⟩ := by decide +kernel
  have prints : offline.printed ++ Session.hostLines described ++ Session.fileLines decision =
      ["Platform:          debian", "Platform version:  12", "Architecture:      x86_64",
        "File:              a", "  md5      0f", "  sha256   1e",
        "Location:          http://a/b"] := by decide +kernel
  have accepted : config.controlEndpoint.isOk = true := by decide +kernel
  have begins : runFrom ((session Peer.absent {} places).begin invocation) offline =
      (.ok settings, offline) := by
    rw [Session.runFrom_begin_unlogged Peer.absent {} places rfl, loads]
  -- From here on nothing is to be carried out again.
  clear_value content manifest offline online
  have serves : ∃ service, config.service (surroundings Peer.absent {}) = .ok service := by
    unfold ServiceConfig.service
    cases parsed : config.controlEndpoint with
    | error failure =>
        rw [parsed] at accepted
        cases accepted
    | ok endpoint => exact ⟨_, rfl⟩
  obtain ⟨service, serves⟩ := serves
  have agrees := @resolve_decides_as_download Peer.absent Peer.absent {} places offline offline
    online invocation settings ⟨"/manifest.json"⟩ content "pkg" "1.0" manifest service rfl begins
    holds spelled serves cached sameHost []
  obtain ⟨selects, resolves, proceeds⟩ := agrees
  have printed := congrArg (·.2.printed) resolves
  exact ⟨decides, service, serves, selects, resolves, printed.trans prints, proceeds⟩

end Computer

end Courier
