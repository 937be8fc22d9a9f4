import Courier.Manifest.Codec
import Courier.Report.Basic
/-!
Results and reports as JSON.
-/

namespace Courier

open Json (RecordField)

def ResultStep.fields : List (RecordField ResultStep) := [
  .required "operation" Json.text fun operation step => { step with operation },
  .required "exitCode" Json.signed64 fun exitCode step => { step with exitCode },
  .required "timestampNanos" Json.signed64 fun timestampNanos step => { step with timestampNanos }]

def ResultStep.reader : Json.Reader ResultStep :=
  Json.record "struct ResultStep" fields {}

def PackageResult.fields : List (RecordField PackageResult) := [
  .required "packageName" Json.text fun packageName result => { result with packageName },
  .required "version" Json.text fun version result => { result with version },
  .of "previousVersion" Json.text fun previousVersion result => { result with previousVersion },
  .required "operation" Json.text fun operation result => { result with operation },
  .required "exitCode" Json.signed64 fun exitCode result => { result with exitCode },
  .required "startTimestampNanos" Json.signed64
    fun startTimestampNanos result => { result with startTimestampNanos },
  .of "steps" (Json.list ResultStep.reader) fun steps result => { result with steps }]

def PackageResult.reader : Json.Reader PackageResult :=
  Json.record "struct PackageResult" fields {}

def ReportStep.fields : List (RecordField ReportStep) := [
  .required "Action" Json.text fun action step => { step with action },
  .required "Result" Json.signed64 fun result step => { step with result },
  .required "Timing" Json.signed64 fun timing step => { step with timing }]

def ReportStep.reader : Json.Reader ReportStep :=
  Json.record "struct ReportStep" fields {}

def ResultReport.fields : List (RecordField ResultReport) := [
  .required "PackageName" Json.text fun packageName report => { report with packageName },
  .required "PackageVersion" Json.text fun packageVersion report => { report with packageVersion },
  .of "PreviousPackageVersion" (Json.optional Json.text)
    fun previousPackageVersion report => { report with previousPackageVersion },
  .required "Operation" Json.text fun operation report => { report with operation },
  .required "OverallTiming" Json.signed64 fun overallTiming report => { report with overallTiming },
  .required "Result" Json.signed64 fun result report => { report with result },
  .required "Attributes" (Json.table Json.text) fun attributes report => { report with attributes },
  .required "Steps" (Json.list ReportStep.reader) fun steps report => { report with steps }]

def ResultReport.reader : Json.Reader ResultReport :=
  Json.record "struct ResultReport" fields {}

def Json.ofInt64 (value : Int64) : Json :=
  .integer value.toInt

def ResultStep.toJson (step : ResultStep) : Json :=
  .object [("operation", .string step.operation), ("exitCode", .ofInt64 step.exitCode),
    ("timestampNanos", .ofInt64 step.timestampNanos)]

def PackageResult.toJson (result : PackageResult) : Json :=
  .object [("packageName", .string result.packageName), ("version", .string result.version),
    ("previousVersion", .string result.previousVersion), ("operation", .string result.operation),
    ("exitCode", .ofInt64 result.exitCode),
    ("startTimestampNanos", .ofInt64 result.startTimestampNanos),
    ("steps", .array (result.steps.map ResultStep.toJson))]

def ReportStep.toJson (step : ReportStep) : Json :=
  .object [("Action", .string step.action), ("Result", .ofInt64 step.result),
    ("Timing", .ofInt64 step.timing)]

def ResultReport.toJson (report : ResultReport) : Json :=
  .object (
    [("PackageName", .string report.packageName),
      ("PackageVersion", .string report.packageVersion)] ++
    Json.optionalMember "PreviousPackageVersion" (report.previousPackageVersion.map .string) ++
    [("Operation", .string report.operation), ("OverallTiming", .ofInt64 report.overallTiming),
      ("Result", .ofInt64 report.result),
      ("Attributes", Table.toJson .string report.attributes),
      ("Steps", .array (report.steps.map ReportStep.toJson))])

end Courier
