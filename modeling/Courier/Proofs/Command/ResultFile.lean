import Courier.Proofs.Command.Report
/-!
Results kept in files between two commands: one writes what came of its work, and a later one loads
it and makes a report of it. Main statement: wherever a file can be made, what is loaded from it is
the result that was written, whatever its texts and numbers are, and so both make the same reports.
-/

namespace Courier

open Computer

namespace PackageResult

variable (result : PackageResult) (host : HostEnvironment) (now : Int64)

theorem steps_report :
    (result.report host now).steps.map (fun step => (step.action, step.result)) =
      result.steps.map fun step => (step.operation, step.exitCode) := by
  change (result.steps.map (ResultStep.report result.startTimestampNanos)).map _ = _
  rw [List.map_map]
  rfl

theorem previousPackageVersion_report (previous : String) :
    (result.report host now).previousPackageVersion = some previous ↔
      previous = result.previousVersion ∧ previous ≠ "" := by
  change (if result.previousVersion.isEmpty then none else some result.previousVersion) = _ ↔ _
  cases empty : result.previousVersion.isEmpty with
  | true =>
      rw [if_pos rfl, String.isEmpty_iff.mp empty]
      constructor
      · intro impossible
        cases impossible
      · rintro ⟨same, filled⟩
        exact absurd same filled
  | false =>
      rw [if_neg Bool.false_ne_true, Option.some_inj]
      constructor
      · intro same
        refine ⟨same.symm, ?_⟩
        rw [← same]
        exact fun none => Bool.false_ne_true (empty.symm.trans (String.isEmpty_iff.mpr none))
      · rintro ⟨same, -⟩
        exact same.symm

end PackageResult

namespace Session

variable (peer : Peer) (source : HostSource) (places : Places) (result : PackageResult)

/-- Writing a result fails where no file can be made, and changes nothing then. Everywhere else the
result is loaded again as it was, and the reports of what is loaded are those of the result: with
the same steps in the same order, and with a previous version if and only if it is not empty. -/
theorem loadResult_writeResult (path : Path) (computer : Computer) :
    let written := runFrom ((session peer source places).writeResult path result) computer
    match computer.files.create path with
    | .error fault => written = (.error (.unwritable path fault), computer)
    | .ok _ =>
      written.1 = .ok () ∧ ∃ loaded,
        runFrom ((session peer source places).loadResult path) written.2 =
          (.ok loaded, written.2) ∧
        loaded = result ∧
        ∀ host now, loaded.report host now = result.report host now ∧
          (loaded.report host now).steps.map (fun step => (step.action, step.result)) =
            result.steps.map (fun step => (step.operation, step.exitCode)) ∧
          ∀ previous, (loaded.report host now).previousPackageVersion = some previous ↔
            previous = result.previousVersion ∧ previous ≠ "" := by
  intro written
  cases created : computer.files.create path with
  | error fault => exact runFrom_writeResult_of_refused peer source places created result
  | ok made =>
      obtain ⟨files, writes, reads⟩ :=
        runFrom_writeResult_of_create peer source places created result
      have ended : written = (.ok (), { computer with files }) := writes
      rw [ended]
      have loads : runFrom ((session peer source places).loadResult path)
          { computer with files } = (.ok result, { computer with files }) :=
        runFrom_loadResult peer source places reads
      refine ⟨rfl, result, loads, rfl, fun host now => ⟨rfl, ?_, ?_⟩⟩
      · exact result.steps_report host now
      · exact result.previousPackageVersion_report host now

end Session

end Courier
