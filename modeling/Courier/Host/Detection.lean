import Courier.Failure
import Courier.Files.Access
import Courier.Host.Basic
import Courier.Host.OsRelease
/-!
Detection of the host. The system's os-release file names the platform and its version, the machine
its architecture; a field that is overridden is not detected, and nothing is read when all three
are. Instance attributes come from the overrides alone.
-/

namespace Courier

def osReleasePath : Path := ⟨"/etc/os-release"⟩

def normalizeArchitecture (name : String) : String :=
  if name = "aarch64" then "arm64"
  else if name = "x86" then "i386"
  else name

def OperatingSystem.detected (release : OsRelease) (architecture : String) : OperatingSystem :=
  { platform := release.id.getD "linux"
    platformVersion := release.versionId.getD ""
    architecture := normalizeArchitecture architecture }

/-- Whether no field is left to detection. -/
def OperatingSystem.isComplete (system : OperatingSystem) : Bool :=
  !system.platform.isEmpty && !system.platformVersion.isEmpty && !system.architecture.isEmpty

/-- The override if there is one, else what was detected. -/
def preferred (override detected : String) : String :=
  if override.isEmpty then detected else override

def OperatingSystem.overriddenBy (system overrides : OperatingSystem) : OperatingSystem :=
  { platform := preferred overrides.platform system.platform
    platformVersion := preferred overrides.platformVersion system.platformVersion
    architecture := preferred overrides.architecture system.architecture }

structure HostSource where
  releasePath : Path := osReleasePath
  architecture : String := "x86_64"
  deriving DecidableEq, Repr, Inhabited

/-- The host as the overrides and, where they leave a field open, the system describe it. -/
def HostSource.collect {m : Type → Type} [Monad m] (source : HostSource) (files : FileAccess m)
    (overrides : HostEnvironment) : ExceptT Failure m HostEnvironment := do
  let system ←
    if overrides.operatingSystem.isComplete then pure {}
    else
      match ← outcome (files.readText source.releasePath) with
      | .ok content =>
        pure (OperatingSystem.detected (OsRelease.parse content) source.architecture)
      | .error fault =>
        throw (.environment ("cannot read " ++ source.releasePath.text ++ ": " ++ fault.message))
  return { operatingSystem := system.overriddenBy overrides.operatingSystem
           cloud := overrides.cloud }

end Courier
