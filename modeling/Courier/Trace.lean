/-!
The trace of an operation. A section is opened for every step and closed when the step ends; the
trace holds the closed sections in the order in which they were closed.
-/

namespace Courier

def exitSuccess : Int64 := 0
def exitFailure : Int64 := 1

structure TraceEntry where
  operation : String
  exitCode : Int64
  startNanos : Int64
  endNanos : Int64
  info : List String
  error : Option String
  deriving DecidableEq, Repr, Inhabited

structure TraceSection where
  operation : String
  startNanos : Int64
  info : List String := []
  error : Option String := none
  deriving DecidableEq, Repr, Inhabited

namespace TraceSection

def note (message : String) (step : TraceSection) : TraceSection :=
  { step with info := step.info ++ [message] }

/-- Marks the section as failed; a later mark replaces an earlier one. -/
def fail (message : String) (step : TraceSection) : TraceSection :=
  { step with error := some message }

def close (step : TraceSection) (endNanos : Int64) : TraceEntry :=
  { operation := step.operation
    exitCode := if step.error.isSome then exitFailure else exitSuccess
    startNanos := step.startNanos
    endNanos
    info := step.info
    error := step.error }

end TraceSection

/-- The closed sections, in the order in which they were closed. -/
abbrev Trace := List TraceEntry

abbrev Traced (m : Type → Type) := StateT Trace m

/-- How a trace is shown where its content does not matter. -/
def Trace.summary (trace : Trace) : String :=
  "Tracer \x7b entries: " ++ toString trace.length ++ " \x7d"

variable {m : Type → Type} [Monad m]

def openSection (clock : m Int64) (operation : String) : Traced m TraceSection := do
  return { operation, startNanos := ← clock }

def closeSection (clock : m Int64) (step : TraceSection) : Traced m Unit := do
  let endNanos ← clock
  modify (· ++ [step.close endNanos])

end Courier
