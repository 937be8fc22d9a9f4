import Courier.Archive.Document
import Courier.Archive.Repository
import Courier.Cache.Files
import Courier.Config.Basic
import Courier.Host.Detection
import Courier.Service.Basic
import Courier.Web.ControlPlane
/-!
The package service that settings describe: an archive on a control plane on the web, a cache in
files, and a host that is detected where the settings do not describe it.
-/

namespace Courier

structure ServiceConfig where
  endpoint : Option String := none
  archive : ArchiveKind := .document
  /-- A manifest for the archive of the repository, so that none is fetched. -/
  repositoryManifest : Option String := none
  cacheDirectory : Path
  downloadDirectory : Path
  serviceTimeoutMillis : Nat := 30000
  downloadTimeoutMillis : Nat := 300000
  /-- What is known of the host; what is empty is detected. -/
  hostOverrides : HostEnvironment := {}
  deriving DecidableEq, Repr, Inhabited

def HostSettings.overrides (host : HostSettings) : HostEnvironment :=
  { operatingSystem :=
      { platform := host.platform.getD ""
        platformVersion := host.platformVersion.getD ""
        architecture := host.architecture.getD "" }
    cloud :=
      { instanceId := host.instanceId.getD ""
        instanceType := host.instanceType.getD ""
        region := host.region.getD ""
        availabilityZone := host.availabilityZone.getD "" } }

structure Surroundings (m : Type → Type) where
  files : FileAccess m
  network : Network m
  clock : m Int64
  host : HostSource := {}

namespace ServiceConfig

def initial (places : Places) : ServiceConfig :=
  { cacheDirectory := places.cacheDirectory, downloadDirectory := places.downloadDirectory }

def ofSettings (settings : Settings) : ServiceConfig :=
  { endpoint := settings.service.endpoint
    archive := settings.service.archive
    cacheDirectory := settings.cacheDirectory
    downloadDirectory := settings.download.directory
    serviceTimeoutMillis := 1000 * settings.service.timeoutSeconds.toNat
    downloadTimeoutMillis := 1000 * settings.download.timeoutSeconds.toNat
    hostOverrides := settings.host.overrides }

def cache (config : ServiceConfig) : FileCache :=
  ⟨config.cacheDirectory⟩

def downloader (config : ServiceConfig) : Downloader :=
  { directory := config.downloadDirectory, timeoutMillis := config.downloadTimeoutMillis }

def controlEndpoint (config : ServiceConfig) : Except Failure Endpoint :=
  match config.endpoint with
  | some address => Endpoint.parse address config.serviceTimeoutMillis
  | none => .error (.invalidConfig "no control plane endpoint configured")

variable {m : Type → Type} [Monad m] [MonadStateOf DocumentMemory m]
  [MonadStateOf RepositoryMemory m]

def archiveOn (config : ServiceConfig) (plane : ControlPlane m) : Archive m :=
  match config.archive with
  | .document => plane.documentArchive
  | .repository => plane.repositoryArchive config.repositoryManifest

def serviceAt (config : ServiceConfig) (around : Surroundings m) (endpoint : Endpoint) :
    Service m :=
  { archive := config.archiveOn (endpoint.controlPlane around.network)
    cache := config.cache.manifestCache around.files
    collect := around.host.collect around.files config.hostOverrides
    download := config.downloader.download around.files around.network
    submit := endpoint.submit around.network
    clock := around.clock }

def service (config : ServiceConfig) (around : Surroundings m) : Except Failure (Service m) :=
  config.controlEndpoint.map (config.serviceAt around)

end ServiceConfig

end Courier
