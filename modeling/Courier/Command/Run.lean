import Courier.Command.Display
import Courier.Command.Fault
import Courier.Command.Invocation
import Courier.Config.File
import Courier.Report.Codec
import Courier.Service.Config
/-!
Running commands. A command works in a session: it reads settings, asks the service that they
describe, and prints what came of it. A result that is written to a file can be read from it by a
later report.
-/

namespace Courier

structure Session (m : Type → Type) where
  around : Surroundings m
  places : Places
  say : String → m Unit

abbrev CommandAction (m : Type → Type) (α : Type) := ExceptT CommandFault m α

def logFileName : String := "pkgfetch.log"

/-- What came of a download, with a step for every section of its trace. -/
def PackageResult.ofDownload (options : PackageOptions) (start : Int64) (trace : Trace)
    (succeeded : Bool) : PackageResult :=
  { packageName := options.package
    version := options.version
    operation := "Download"
    exitCode := if succeeded then exitSuccess else exitFailure
    startTimestampNanos := start
    steps := trace.resultSteps }

def PackageResult.text (result : PackageResult) : String :=
  result.toJson.pretty

def PackageResult.parse (text : String) : Except String PackageResult :=
  match Json.parse reader (Utf8.encode text) with
  | .ok result => .ok result
  | .error fault => .error fault.message

def ServiceOptions.override (options : ServiceOptions) (config : ServiceConfig) : ServiceConfig :=
  { config with
    endpoint := (options.endpoint.map (Text.trimRightChar '/')).or config.endpoint
    archive := options.archive.getD config.archive }

/-- The system with the fields that the options give, also when they give an empty one. -/
def ResolveOptions.override (options : ResolveOptions) (system : OperatingSystem) :
    OperatingSystem :=
  { platform := (options.platform.map Text.lower).getD system.platform
    platformVersion := options.platformVersion.getD system.platformVersion
    architecture := options.architecture.getD system.architecture }

namespace Session

variable {m : Type → Type} [Monad m] (session : Session m)

def print (lines : List String) : CommandAction m Unit :=
  lines.forM fun line => ExceptT.lift (session.say line)

def readText (path : Path) : CommandAction m String :=
  ExceptT.adapt (CommandFault.unreadable path) (session.around.files.readText path)

/-- Goes on with a value, or fails as the service did. -/
def orFail {α : Type} (result : Except Failure α) : CommandAction m α :=
  ExceptT.adapt CommandFault.service (MonadExcept.ofExcept result)

def settingsFile (named : Option Path) : Path :=
  named.getD session.places.configFile

def settings (named : Option Path) : CommandAction m Settings :=
  ExceptT.adapt CommandFault.config
    (Settings.load session.around.files session.places (session.settingsFile named))

def openLog (settings : Settings) : CommandAction m Unit :=
  ExceptT.adapt CommandFault.logging do
    session.around.files.makeDirectories settings.logDirectory
    session.around.files.create (settings.logDirectory.join logFileName)

def serviceConfig (settings : Settings) (options : ServiceOptions) :
    CommandAction m ServiceConfig := do
  let config := options.override (ServiceConfig.ofSettings settings)
  match options.manifestFile with
  | none => return config
  | some path =>
    if config.archive ≠ .repository then
      throw (.misconfigured ("--manifest-file requires the repository archive. " ++
        "Set archive = repository in config.ini or use --archive repository"))
    return { config with repositoryManifest := some (← session.readText path) }

/-- Does traced work, and prints its trace if that is asked for. -/
def traced {α : Type} (shown : Bool) (work : Traced m α) : CommandAction m (α × Trace) := do
  let (value, trace) ← ExceptT.lift (work.run [])
  if shown then session.print trace.shown
  return (value, trace)

/-! ### Settings -/

def initSettings (path : Path) (force : Bool) : CommandAction m Unit := do
  let files := session.around.files
  if force then
    ExceptT.adapt CommandFault.config
      ((Settings.initial session.places).save files session.places path)
    session.print ["Wrote default configuration to " ++ path.text]
  else if ← ExceptT.adapt CommandFault.config (Settings.ensureExists files session.places path) then
    session.print ["Created " ++ path.text,
      "Set [service] endpoint before running remote commands."]
  else throw (.misconfigured (path.text ++ " already exists. Use --force to overwrite it."))

def runConfig (named : Option Path) (command : ConfigCommand) : CommandAction m Unit := do
  let path := session.settingsFile named
  match command with
  | .init force => session.initSettings path force
  | .path => session.print [path.text]
  | .show => session.print ((← session.settings named).shown path)

/-- The host as the options, the settings and the system describe it, in this order. -/
def resolveHost (settings : Settings) (options : ResolveOptions) :
    ExceptT Failure m HostEnvironment :=
  let known := settings.host.overrides
  session.around.host.collect session.around.files
    { known with operatingSystem := options.override known.operatingSystem }

def runResolve (settings : Settings) (options : ResolveOptions) : CommandAction m Unit := do
  let text ← session.readText options.manifest
  let manifest ← match Manifest.parse (Utf8.encode text) with
    | .ok manifest => pure manifest
    | .error failure => throw (.invalidContent options.manifest failure.message)
  let host ← ExceptT.adapt CommandFault.service (session.resolveHost settings options)
  session.print host.operatingSystem.shown
  let file ← orFail (manifest.select host)
  session.print file.shown

/-! ### Commands that ask a service -/

variable [MonadStateOf DocumentMemory m] [MonadStateOf RepositoryMemory m]

def service (settings : Settings) (options : ServiceOptions) : CommandAction m (Service m) := do
  let config ← session.serviceConfig settings options
  orFail (config.service session.around)

def runManifest (settings : Settings) (options : PackageOptions) : CommandAction m Unit := do
  let service ← session.service settings options.service
  let (result, _) ← session.traced options.trace
    (service.downloadManifest session.around.clock options.package options.version)
  let summary ← orFail result
  session.print (summary.shown (← ExceptT.lift service.archive.name))

def writeResult (path : Path) (result : PackageResult) : CommandAction m Unit :=
  ExceptT.adapt (CommandFault.unwritable path)
    (session.around.files.write path (Utf8.encode result.text))

def runDownload (settings : Settings) (options : PackageOptions) (resultFile : Option Path) :
    CommandAction m Unit := do
  let service ← session.service settings options.service
  let start ← ExceptT.lift session.around.clock
  let (result, trace) ← session.traced options.trace
    (service.downloadArtifact session.around.clock options.package options.version)
  if let some path := resultFile then
    session.writeResult path (.ofDownload options start trace result.isOk)
  let path ← orFail result
  session.print [path.text]

def loadResult (path : Path) : CommandAction m PackageResult := do
  let text ← session.readText path
  match PackageResult.parse text with
  | .ok result => return result
  | .error reason => throw (.invalidContent path reason)

def printingReporter (settings : Settings) : Reporter m :=
  { collect := session.around.host.collect session.around.files settings.host.overrides
    submit := fun report => ExceptT.lift (session.say report.toJson.pretty)
    clock := session.around.clock }

def runReport (settings : Settings) (options : ReportOptions) : CommandAction m Unit := do
  let result ← session.loadResult options.result
  let clock := session.around.clock
  if options.dryRun then
    let (outcome, _) ← session.traced options.trace
      ((session.printingReporter settings).report clock result)
    orFail outcome
  else
    let service ← session.service settings options.service
    let (outcome, _) ← session.traced options.trace (service.report clock result)
    orFail outcome
    session.print [result.shown]

def begin (invocation : Invocation) : CommandAction m Settings := do
  let settings ← session.settings invocation.config
  if invocation.log then session.openLog settings
  return settings

/-- Runs what a command line asks for. A command on the settings themselves loads none before. -/
def run (invocation : Invocation) : CommandAction m Unit := do
  match invocation.command with
  | .manifest options => session.runManifest (← session.begin invocation) options
  | .download options resultFile =>
    session.runDownload (← session.begin invocation) options resultFile
  | .resolve options => session.runResolve (← session.begin invocation) options
  | .report options => session.runReport (← session.begin invocation) options
  | .config command => session.runConfig invocation.config command

end Session

end Courier
