import Courier.Clock
import Courier.Host.Basic
import Courier.Json.Basic
import Courier.Trace
/-!
Results of package operations, and the reports made of them. A result holds times since the epoch; a
report holds milliseconds since the operation started, and says on what host it ran.
-/

namespace Courier

structure ResultStep where
  operation : String := ""
  exitCode : Int64 := 0
  timestampNanos : Int64 := 0
  deriving DecidableEq, Repr, Inhabited

/-- What came of an operation, as its caller recorded it. The previous version is empty when there
was none. -/
structure PackageResult where
  packageName : String := ""
  version : String := ""
  previousVersion : String := ""
  operation : String := ""
  exitCode : Int64 := 0
  startTimestampNanos : Int64 := 0
  steps : List ResultStep := []
  deriving DecidableEq, Repr, Inhabited

structure ReportStep where
  action : String := ""
  result : Int64 := 0
  timing : Int64 := 0
  deriving DecidableEq, Repr, Inhabited

structure ResultReport where
  packageName : String := ""
  packageVersion : String := ""
  previousPackageVersion : Option String := none
  operation : String := ""
  /-- Milliseconds from the start of the operation until the report was made. -/
  overallTiming : Int64 := 0
  result : Int64 := 0
  attributes : Table String := ∅
  steps : List ReportStep := []
  deriving DecidableEq, Inhabited

/-- The step that a closed section of a trace makes; it is dated by its end. -/
def TraceEntry.resultStep (entry : TraceEntry) : ResultStep :=
  { operation := entry.operation, exitCode := entry.exitCode, timestampNanos := entry.endNanos }

def Trace.resultSteps (trace : Trace) : List ResultStep :=
  trace.map TraceEntry.resultStep

def ResultStep.report (start : Int64) (step : ResultStep) : ReportStep :=
  { action := step.operation
    result := step.exitCode
    timing := elapsedMillis step.timestampNanos start }

def PackageResult.report (result : PackageResult) (host : HostEnvironment) (now : Int64) :
    ResultReport :=
  { packageName := result.packageName
    packageVersion := result.version
    previousPackageVersion :=
      if result.previousVersion.isEmpty then none else some result.previousVersion
    operation := result.operation
    overallTiming := elapsedMillis now result.startTimestampNanos
    result := result.exitCode
    attributes := host.attributes
    steps := result.steps.map (ResultStep.report result.startTimestampNanos) }

end Courier
