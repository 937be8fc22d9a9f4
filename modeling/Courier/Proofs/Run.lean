import Courier.Failure
import Courier.Trace
import Mathlib.Control.Monad.Basic
/-!
Actions that start in a state: how they end, and the state they leave. The library's actions work in
any monad; here the monad is a state, so an action that may fail is a function from states to an
ending and a state, and a traced one also carries its trace along. The equations below take such
actions apart, so that nothing after this module opens a monad.
-/

namespace Courier

variable {σ ε ε' α β : Type}

/-- What an action comes to in a state, and the state it leaves. -/
def stepFrom (action : StateM σ α) (state : σ) : α × σ :=
  action.run state

/-- How an action that may fail ends in a state, and the state it leaves. -/
def runFrom (action : ExceptT ε (StateM σ) α) (state : σ) : Except ε α × σ :=
  stepFrom action.run state

/-- What a traced action comes to, the trace it leaves, and the state it leaves. -/
def runTraced (action : Traced (StateM σ) α) (trace : Trace) (state : σ) : α × Trace × σ :=
  let ((value, after), left) := stepFrom (action.run trace) state
  (value, after, left)

def tick (tracer : StateM σ Int64) (state : σ) : σ :=
  (stepFrom tracer state).2

@[simp] theorem stepFrom_pure (value : α) (state : σ) :
    stepFrom (pure value : StateM σ α) state = (value, state) := rfl

@[simp] theorem stepFrom_bind (action : StateM σ α) (next : α → StateM σ β) (state : σ) :
    stepFrom (action >>= next) state =
      stepFrom (next (stepFrom action state).1) (stepFrom action state).2 := rfl

theorem bind_eq_ok {ε α β : Type} {first : Except ε α} {next : α → Except ε β} {result : β}
    (ends : first >>= next = .ok result) :
    ∃ value, first = .ok value ∧ next value = .ok result := by
  cases first with
  | error cause => cases ends
  | ok value => exact ⟨value, rfl, ends⟩

@[simp] theorem runFrom_pure (value : α) (state : σ) :
    runFrom (pure value : ExceptT ε (StateM σ) α) state = (.ok value, state) := rfl

@[simp] theorem runFrom_throw (cause : ε) (state : σ) :
    runFrom (throw cause : ExceptT ε (StateM σ) α) state = (.error cause, state) := rfl

theorem runFrom_bind (action : ExceptT ε (StateM σ) α) (next : α → ExceptT ε (StateM σ) β)
    (state : σ) :
    runFrom (action >>= next) state =
      match runFrom action state with
      | (.ok value, left) => runFrom (next value) left
      | (.error cause, left) => (.error cause, left) := by
  change stepFrom (ExceptT.bindCont next (stepFrom action.run state).1)
    (stepFrom action.run state).2 = _
  unfold runFrom
  rcases stepFrom action.run state with ⟨ending, left⟩
  cases ending with
  | ok value => rfl
  | error cause => rfl

theorem runFrom_bind_ok {action : ExceptT ε (StateM σ) α} {value : α} {state left : σ}
    (succeeds : runFrom action state = (.ok value, left))
    (next : α → ExceptT ε (StateM σ) β) :
    runFrom (action >>= next) state = runFrom (next value) left := by
  rw [runFrom_bind, succeeds]

theorem runFrom_bind_error {action : ExceptT ε (StateM σ) α} {cause : ε} {state left : σ}
    (fails : runFrom action state = (.error cause, left))
    (next : α → ExceptT ε (StateM σ) β) :
    runFrom (action >>= next) state = (.error cause, left) := by
  rw [runFrom_bind, fails]

@[simp] theorem runFrom_outcome (action : ExceptT ε (StateM σ) α) (state : σ) :
    runFrom (outcome action : ExceptT ε' (StateM σ) (Except ε α)) state =
      (.ok (runFrom action state).1, (runFrom action state).2) := rfl

@[simp] theorem runFrom_ofExcept (result : Except ε α) (state : σ) :
    runFrom (MonadExcept.ofExcept result : ExceptT ε (StateM σ) α) state = (result, state) := by
  cases result with
  | ok value => rfl
  | error cause => rfl

@[simp] theorem runFrom_lift (action : StateM σ α) (state : σ) :
    runFrom (ExceptT.lift action : ExceptT ε (StateM σ) α) state =
      (.ok (stepFrom action state).1, (stepFrom action state).2) := rfl

@[simp] theorem runFrom_monadLift (action : StateM σ α) (state : σ) :
    runFrom (liftM action : ExceptT ε (StateM σ) α) state =
      (.ok (stepFrom action state).1, (stepFrom action state).2) := rfl

@[simp] theorem runFrom_adapt (f : ε → ε') (action : ExceptT ε (StateM σ) α) (state : σ) :
    runFrom (ExceptT.adapt f action) state =
      ((runFrom action state).1.mapError f, (runFrom action state).2) := rfl

@[simp] theorem runTraced_pure (value : α) (trace : Trace) (state : σ) :
    runTraced (pure value) trace state = (value, trace, state) := rfl

@[simp] theorem runTraced_bind (action : Traced (StateM σ) α) (next : α → Traced (StateM σ) β)
    (trace : Trace) (state : σ) :
    runTraced (action >>= next) trace state =
      runTraced (next (runTraced action trace state).1) (runTraced action trace state).2.1
        (runTraced action trace state).2.2 := rfl

@[simp] theorem runTraced_monadLift (action : StateM σ α) (trace : Trace) (state : σ) :
    runTraced (liftM action) trace state =
      ((stepFrom action state).1, trace, (stepFrom action state).2) := rfl

@[simp] theorem runTraced_openSection (clock : StateM σ Int64) (operation : String)
    (trace : Trace) (state : σ) :
    runTraced (openSection clock operation) trace state =
      ({ operation, startNanos := (stepFrom clock state).1 }, trace, (stepFrom clock state).2) :=
  rfl

@[simp] theorem runTraced_closeSection (clock : StateM σ Int64) (opened : TraceSection)
    (trace : Trace) (state : σ) :
    runTraced (closeSection clock opened) trace state =
      ((), trace ++ [opened.close (stepFrom clock state).1], (stepFrom clock state).2) :=
  rfl

/-- What actions come to that are carried out one after another, and the state they leave. One that
fails does not stop those after it. -/
def answersFrom : List (ExceptT ε (StateM σ) α) → σ → List (Except ε α) × σ
  | [], state => ([], state)
  | action :: rest, state =>
    let (ending, left) := runFrom action state
    let (endings, last) := answersFrom rest left
    (ending :: endings, last)

theorem answersFrom_cons {action : ExceptT ε (StateM σ) α} {state left : σ} {ending : Except ε α}
    (ends : runFrom action state = (ending, left)) (rest : List (ExceptT ε (StateM σ) α)) :
    answersFrom (action :: rest) state =
      (ending :: (answersFrom rest left).1, (answersFrom rest left).2) := by
  simp only [answersFrom, ends]

theorem getElem?_answersFrom (earlier : List (ExceptT ε (StateM σ) α))
    (action : ExceptT ε (StateM σ) α) (later : List (ExceptT ε (StateM σ) α)) (state : σ) :
    (answersFrom (earlier ++ action :: later) state).1[earlier.length]? =
      some (runFrom action (answersFrom earlier state).2).1 := by
  induction earlier generalizing state with
  | nil => rfl
  | cons first earlier ih => exact ih (runFrom first state).2

end Courier
