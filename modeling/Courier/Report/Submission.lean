import Courier.Failure
import Courier.Report.Basic
/-!
Submission of reports. A host that cannot be described is reported without a description; a report
that cannot be handed on fails the submission.
-/

namespace Courier

structure Reporter (m : Type → Type) where
  collect : ExceptT Failure m HostEnvironment
  submit : ResultReport → ExceptT Failure m Unit
  clock : m Int64

def Reporter.report {m : Type → Type} [Monad m] (reporter : Reporter m) (tracer : m Int64)
    (result : PackageResult) : Traced m (Except Failure Unit) := do
  let step ← openSection tracer "report result"
  let (host, step) ← match ← reporter.collect.run with
    | .ok host => pure (host, step)
    | .error cause => pure ({}, step.note ("host data unavailable: " ++ cause.message))
  let now ← reporter.clock
  match ← (reporter.submit (result.report host now)).run with
  | .ok () =>
    closeSection tracer step
    return .ok ()
  | .error cause =>
    let failure : Failure := .reportSubmission cause.message
    closeSection tracer (step.fail failure.message)
    return .error failure

end Courier
