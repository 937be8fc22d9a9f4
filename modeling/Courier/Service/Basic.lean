import Courier.Manifest.Selector
import Courier.Report.Submission
import Courier.Service.Store
import Courier.Web.Download
/-!
The package service. It binds an archive to a cache, a description of the host, a downloader and a
place for reports. Every operation leaves its sections in the trace and gives its outcome as a
value.
-/

namespace Courier

structure Service (m : Type → Type) where
  archive : Archive m
  cache : ManifestCache m
  collect : ExceptT Failure m HostEnvironment
  download : DownloadRequest → ExceptT Failure m Path
  submit : ResultReport → ExceptT Failure m Unit
  clock : m Int64

structure ManifestSummary where
  resource : String
  version : String
  unchanged : Bool
  deriving DecidableEq, Repr, Inhabited

/-- A failed description of the host as such, whatever went wrong. -/
def asEnvironment : Failure → Failure
  | failure@(.environment _) => failure
  | other => .environment other.message

def Manifest.select (manifest : Manifest) (host : HostEnvironment) :
    Except Failure ResolvedFile := do
  let system := host.operatingSystem
  let variant ←
    manifest.resolveVariant system.platform system.platformVersion system.architecture
  manifest.locateFile variant

section

variable {m : Type → Type} [Monad m]

def Archive.fetchFile (archive : Archive m) (download : DownloadRequest → ExceptT Failure m Path)
    (file : ResolvedFile) (name version : String) : ExceptT Failure m Path := do
  let sourceUrl ← archive.location file name version
  match ← outcome (download { sourceUrl, checksums := file.info.checksums }) with
  | .ok path => if path.isEmpty then throw (.downloadFailed sourceUrl none) else return path
  | .error failure => throw (.downloadFailed sourceUrl (some failure.message))

def Archive.downloadFile (archive : Archive m)
    (download : DownloadRequest → ExceptT Failure m Path) (tracer : m Int64) (file : ResolvedFile)
    (name version : String) : Traced m (Except Failure Path) :=
  tracedStep tracer ("download " ++ file.name) (fun path => "downloaded to " ++ path.text)
    (archive.fetchFile download file name version)

end

namespace Service

variable {m : Type → Type} [Monad m] (service : Service m) (tracer : m Int64)

def store : Store m :=
  { archive := service.archive, cache := service.cache }

def reporter : Reporter m :=
  { collect := service.collect, submit := service.submit, clock := service.clock }

def downloadManifest (name version : String) : Traced m (Except Failure ManifestSummary) := do
  let result ← service.store.resolve tracer name version
  return result.map fun resolved =>
    { resource := resolved.resource
      version := resolved.manifest.version
      unchanged := resolved.unchanged }

def host : ExceptT Failure m HostEnvironment := do
  match ← outcome service.collect with
  | .ok host => return host
  | .error failure => throw (asEnvironment failure)

def findFile (manifest : Manifest) : Traced m (Except Failure ResolvedFile) :=
  tracedStep tracer "resolve package variant" (fun file => "selected " ++ file.name) do
    MonadExcept.ofExcept (manifest.select (← service.host))

/-- The file to download: that of the manifest cached under exactly this name and version, or else
of the manifest that the archive has. -/
def selectFile (name version : String) (opened : TraceSection) :
    Traced m (TraceSection × Except Failure ResolvedFile) := do
  match ← (service.store.cached name version).run with
  | .ok manifest => return (opened, ← service.findFile tracer manifest)
  | .error failure =>
    let opened :=
      opened.note ("error when reading the manifest from cache " ++ failure.message)
    match ← service.store.resolve tracer name version with
    | .ok resolved => return (opened, ← service.findFile tracer resolved.manifest)
    | .error failure => return (opened, .error failure)

/-- Downloads the file of a package that this host installs. -/
def downloadArtifact (name version : String) : Traced m (Except Failure Path) := do
  let opened ← openSection tracer "download artifact"
  let (opened, selected) ← service.selectFile tracer name version opened
  match selected with
  | .error failure =>
    closeSection tracer (opened.fail failure.message)
    return .error failure
  | .ok file =>
    closeSection tracer opened
    service.archive.downloadFile service.download tracer file name version

def report (result : PackageResult) : Traced m (Except Failure Unit) :=
  service.reporter.report tracer result

end Service

end Courier
