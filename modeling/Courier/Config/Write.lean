import Courier.Config.Basic
import Courier.Ini.Basic
/-!
Settings as text, with a comment for everything that can be set. What is not set is written with an
empty value, which sets nothing when it is read.
-/

namespace Courier.Settings

def serviceLines (service : ServiceSettings) : List IniLine := [
  .heading "service",
  .comment "Control plane base URL, e.g. https://ssm.us-east-1.amazonaws.com",
  .comment "Required by every command that talks to the service",
  .entry "endpoint" (service.endpoint.getD ""),
  .comment "Archive backend serving manifests and artifacts:",
  .comment "  document   - manifest embedded in a document, artifacts as attachments",
  .comment
    "  repository - manifest from the package repository, artifacts at their listed location",
  .entry "archive" service.archive.name,
  .comment "Control plane request timeout in seconds",
  .entry "timeout" (toString service.timeoutSeconds.toNat)]

def hostLines (host : HostSettings) : List IniLine := [
  .heading "host",
  .comment "Host identity overrides. Leave empty to detect at runtime.",
  .comment "Platform and platform version come from /etc/os-release on Linux.",
  .entry "platform" (host.platform.getD ""),
  .entry "platform_version" (host.platformVersion.getD ""),
  .entry "architecture" (host.architecture.getD ""),
  .comment "Instance attributes attached to result reports",
  .entry "instance_id" (host.instanceId.getD ""),
  .entry "instance_type" (host.instanceType.getD ""),
  .entry "region" (host.region.getD ""),
  .entry "availability_zone" (host.availabilityZone.getD "")]

def lines (places : Places) (settings : Settings) : List IniLine :=
  serviceLines settings.service ++ [
    .blank,
    .heading "cache",
    .comment "Directory for cached manifests (one file per package version)",
    .entry "directory" (places.shorten settings.cacheDirectory),
    .blank,
    .heading "download",
    .comment "Staging directory for downloaded artifacts",
    .entry "directory" (places.shorten settings.download.directory),
    .comment "Artifact download timeout in seconds",
    .entry "timeout" (toString settings.download.timeoutSeconds.toNat),
    .blank] ++
  hostLines settings.host ++ [
    .blank,
    .heading "logging",
    .comment "Directory for log files",
    .entry "directory" (places.shorten settings.logDirectory)]

def text (places : Places) (settings : Settings) : String :=
  IniLine.join (settings.lines places)

end Courier.Settings
