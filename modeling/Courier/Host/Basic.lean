import Courier.Json.Basic
/-!
What is known about a host: the operating system that variants are selected for, and the attributes
of the cloud instance that reports carry along.
-/

namespace Courier

structure OperatingSystem where
  platform : String := ""
  platformVersion : String := ""
  architecture : String := ""
  deriving DecidableEq, Repr, Inhabited

structure InstanceInfo where
  instanceId : String := ""
  instanceType : String := ""
  region : String := ""
  availabilityZone : String := ""
  deriving DecidableEq, Repr, Inhabited

structure HostEnvironment where
  operatingSystem : OperatingSystem := {}
  cloud : InstanceInfo := {}
  deriving DecidableEq, Repr, Inhabited

/-- The attributes of a report. All seven are present, also when they are empty. -/
def HostEnvironment.attributes (host : HostEnvironment) : Table String :=
  .ofList [
    ("platformName", host.operatingSystem.platform),
    ("platformVersion", host.operatingSystem.platformVersion),
    ("architecture", host.operatingSystem.architecture),
    ("instanceID", host.cloud.instanceId),
    ("instanceType", host.cloud.instanceType),
    ("region", host.cloud.region),
    ("availabilityZone", host.cloud.availabilityZone)]

end Courier
