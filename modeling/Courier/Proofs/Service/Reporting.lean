import Courier.Proofs.Run
import Courier.Service.Basic
/-!
The course of a report, whatever the service works with: the host is described, the clock is read,
and the report is handed on once. Main statement: what a report comes to, which section it leaves in
the trace, and in which order the parts of the service are asked.
-/

namespace Courier

variable {σ : Type}

namespace Reporter

/-- The host that is reported where the description of it may have failed. -/
def reportedHost (described : Except Failure HostEnvironment) : HostEnvironment :=
  described.toOption.getD {}

def noted (opened : TraceSection) : Except Failure HostEnvironment → TraceSection
  | .ok _ => opened
  | .error cause => opened.note ("host data unavailable: " ++ cause.message)

theorem noted_error (opened : TraceSection) (described : Except Failure HostEnvironment) :
    (noted opened described).error = opened.error := by
  cases described with
  | ok host => rfl
  | error cause => rfl

def rejected (cause : Failure) : Failure :=
  .reportSubmission cause.message

def ended (opened : TraceSection) : Except Failure Unit → TraceSection
  | .ok () => opened
  | .error failure => opened.fail failure.message

variable (reporter : Reporter (StateM σ))

private theorem runTraced_submission (tracer : StateM σ Int64) (result : PackageResult)
    (host : HostEnvironment) (opened : TraceSection) (trace : Trace) (state : σ) :
    runTraced (do
      let now ← liftM reporter.clock
      match ← liftM (reporter.submit (result.report host now)).run with
      | .ok () =>
        closeSection tracer opened
        return .ok ()
      | .error cause =>
        let failure : Failure := .reportSubmission cause.message
        closeSection tracer (opened.fail failure.message)
        return .error failure : Traced (StateM σ) (Except Failure Unit)) trace state =
      let now := stepFrom reporter.clock state
      let submitted := runFrom (reporter.submit (result.report host now.1)) now.2
      let ending := submitted.1.mapError rejected
      let closed := stepFrom tracer submitted.2
      (ending, trace ++ [(ended opened ending).close closed.1], closed.2) := by
  rw [runTraced_bind, runTraced_monadLift, runTraced_bind, runTraced_monadLift]
  dsimp only
  rcases submits : stepFrom
    (reporter.submit (result.report host (stepFrom reporter.clock state).1)).run
    (stepFrom reporter.clock state).2 with ⟨ending, left⟩
  have submitted : runFrom (reporter.submit (result.report host (stepFrom reporter.clock state).1))
    (stepFrom reporter.clock state).2 = (ending, left) := submits
  rw [submitted]
  cases ending with
  | ok done => rfl
  | error cause => rfl

theorem runTraced_report (tracer : StateM σ Int64) (result : PackageResult) (trace : Trace)
    (state : σ) :
    runTraced (reporter.report tracer result) trace state =
      let opened := stepFrom tracer state
      let described := runFrom reporter.collect opened.2
      let now := stepFrom reporter.clock described.2
      let submitted := runFrom
        (reporter.submit (result.report (reportedHost described.1) now.1)) now.2
      let ending := submitted.1.mapError rejected
      let closed := stepFrom tracer submitted.2
      let entry := ended
        (noted { operation := "report result", startNanos := opened.1 } described.1) ending
      (ending, trace ++ [entry.close closed.1], closed.2) := by
  unfold report
  rw [runTraced_bind, runTraced_openSection, runTraced_bind, runTraced_monadLift]
  dsimp only
  rcases describes : stepFrom reporter.collect.run (stepFrom tracer state).2 with ⟨host, left⟩
  have described : runFrom reporter.collect (stepFrom tracer state).2 = (host, left) := describes
  rw [described]
  cases host with
  | ok host => exact reporter.runTraced_submission tracer result host _ trace left
  | error cause => exact reporter.runTraced_submission tracer result {} _ trace left

end Reporter

end Courier
