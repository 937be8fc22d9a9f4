import Courier.Command.Run
import Courier.Proofs.Json.Members
/-!
Results that are kept in a file. Main statement: a result is read back from its text, whatever its
numbers and its texts are.
-/

namespace Courier

open Json

theorem understands_resultStep (step : ResultStep) :
    Understands ResultStep.reader step.toJson step := by
  have operations := understands_text step.operation
  have exitCodes := understands_signed64 step.exitCode
  have timestamps := understands_signed64 step.timestampNanos
  exact understands_record (.next rfl (by simp) (operations.map _)
    (.next rfl (by simp [RecordField.required, RecordField.of]) (exitCodes.map _)
      (.next rfl (by simp [RecordField.required, RecordField.of]) (timestamps.map _)
        (.done _)))) rfl

theorem understands_packageResult (result : PackageResult) :
    Understands PackageResult.reader result.toJson result := by
  have names := understands_text result.packageName
  have versions := understands_text result.version
  have previous := understands_text result.previousVersion
  have operations := understands_text result.operation
  have exitCodes := understands_signed64 result.exitCode
  have starts := understands_signed64 result.startTimestampNanos
  have steps := understands_list understands_resultStep result.steps
  exact understands_record (.next rfl (by simp) (names.map _)
    (.next rfl (by simp [RecordField.required, RecordField.of]) (versions.map _)
      (.next rfl (by simp [RecordField.required, RecordField.of]) (previous.map _)
        (.next rfl (by simp [RecordField.required, RecordField.of]) (operations.map _)
          (.next rfl (by simp [RecordField.required, RecordField.of]) (exitCodes.map _)
            (.next rfl (by simp [RecordField.required, RecordField.of]) (starts.map _)
              (.next rfl (by simp [RecordField.required, RecordField.of]) (steps.map _)
                (.done _)))))))) rfl

theorem PackageResult.parse_text (result : PackageResult) :
    PackageResult.parse result.text = .ok result := by
  have written := (written_encode result.toJson).2
  have reads := understands_packageResult result _ written
  unfold PackageResult.parse PackageResult.text
  rw [parse_of_reads reads]

end Courier
