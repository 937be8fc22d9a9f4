import Courier.Config.Basic
import Courier.Service.Basic
/-!
What commands print, line by line.
-/

namespace Courier

/-- A closed section with the messages and the error that it left. -/
def TraceEntry.shown (entry : TraceEntry) : List String :=
  let status := if entry.error.isSome then "FAILED" else "ok"
  let millis := toString (elapsedMillis entry.endNanos entry.startNanos).toInt
  ("  [" ++ status ++ "] " ++ entry.operation ++ " (" ++ millis ++ " ms)") ::
    (entry.info.map ("      " ++ ·) ++ entry.error.toList.map ("      error: " ++ ·))

def Trace.shown (trace : Trace) : List String :=
  trace.flatMap TraceEntry.shown

def ManifestSummary.shown (summary : ManifestSummary) (archive : String) : List String := [
  "Archive:   " ++ archive,
  "Resource:  " ++ summary.resource,
  "Version:   " ++ summary.version,
  "Status:    " ++ (if summary.unchanged then "unchanged from cache" else "new or changed")]

def OperatingSystem.shown (system : OperatingSystem) : List String := [
  "Platform:          " ++ system.platform,
  "Platform version:  " ++ system.platformVersion,
  "Architecture:      " ++ system.architecture]

/-- A digest, with the name of its algorithm in a column of eight characters. -/
def digestLine (algorithm digest : String) : String :=
  "  " ++ algorithm ++ String.ofList (List.replicate (8 - algorithm.length) ' ') ++ " " ++ digest

def ResolvedFile.shown (file : ResolvedFile) : List String :=
  ("File:              " ++ file.name) ::
    (file.info.checksums.toList.map (fun (algorithm, digest) => digestLine algorithm digest) ++
      file.info.downloadLocation.toList.map ("Location:          " ++ ·))

def PackageResult.shown (result : PackageResult) : String :=
  "Reported " ++ result.operation ++ (if result.exitCode = 0 then " success" else " failure") ++
    " for " ++ result.packageName ++ " " ++ result.version

def shownSection (name : String) (values : List (String × String)) : List String :=
  ("[" ++ name ++ "]") :: values.map fun (key, value) => "  " ++ key ++ " = " ++ value

def Settings.shown (settings : Settings) (file : Path) : List String :=
  let detected (value : Option String) : String := value.getD "(detected)"
  let host := settings.host
  List.intercalate [""] [
    ["Configuration (" ++ file.text ++ ")", "======================"],
    shownSection "service" [
      ("endpoint", settings.service.endpoint.getD "(not set)"),
      ("archive", settings.service.archive.name),
      ("timeout", toString settings.service.timeoutSeconds.toNat)],
    shownSection "cache" [("directory", settings.cacheDirectory.text)],
    shownSection "download" [
      ("directory", settings.download.directory.text),
      ("timeout", toString settings.download.timeoutSeconds.toNat)],
    shownSection "host" [
      ("platform", detected host.platform),
      ("platform_version", detected host.platformVersion),
      ("architecture", detected host.architecture),
      ("instance_id", detected host.instanceId),
      ("instance_type", detected host.instanceType),
      ("region", detected host.region),
      ("availability_zone", detected host.availabilityZone)],
    shownSection "logging" [("directory", settings.logDirectory.text)]]

end Courier
