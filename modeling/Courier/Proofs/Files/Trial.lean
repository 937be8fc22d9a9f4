import Courier.Files.System
import Courier.Proofs.Run
/-!
Files on which anything may go wrong. Every operation has a fate: it is carried out as far as the
file system lets it be, or it fails when a part of it has been done, or the process stops in it or
after it, and from then on nothing is done any more. Main statements: what an operation does to the
files whatever its fate is, and that an operation that succeeds was carried out.
-/

namespace Courier

/-- What becomes of an operation, apart from what the file system makes of it. -/
inductive Fate where
  | carriedOut
  /-- The operation fails when `extent` of it has been done. -/
  | fails (extent : Nat) (fault : IoFault)
  /-- The process stops when `extent` of the operation has been done. -/
  | stopsWithin (extent : Nat)
  | stopsAfter
  deriving DecidableEq, Repr, Inhabited

/-- A file system under a process that may be stopped. -/
structure Trial where
  files : FileSystem
  /-- The fates of the operations to come. Those that come after all of them are carried out. -/
  fates : List Fate := []
  stopped : Bool := false
  /-- The moves of files that were carried out, from a path to a path. -/
  moves : List (Path × Path) := []

namespace Trial

/-- A change, as a whole, and as far as it has come when it fails or the process stops in it. -/
structure Change where
  whole : Trial → Except IoFault Trial
  part : Nat → Trial → Trial

namespace Change

def ofFiles (operation : FileSystem → Except IoFault FileSystem) (trial : Trial) :
    Except IoFault Trial :=
  (operation trial.files).map fun files => { trial with files }

def orNothing (operation : Trial → Except IoFault Trial) (trial : Trial) : Trial :=
  match operation trial with
  | .ok left => left
  | .error _ => trial

/-- A change that is made or not, but may be reported as failed although it was made. -/
def atOnce (operation : FileSystem → Except IoFault FileSystem) : Change where
  whole := ofFiles operation
  part extent := if extent = 0 then id else orNothing (ofFiles operation)

def filling (path : Path) (bytes : Bytes) : Change where
  whole := ofFiles (·.append path bytes)
  part extent := orNothing (ofFiles (·.append path (bytes.take extent)))

def moving (source target : Path) : Change where
  whole trial := (trial.files.rename source target).map fun files =>
    { trial with files, moves := trial.moves ++ [(source, target)] }
  part _ := id

end Change

/-- What is left of the operations of a process that has stopped; nobody is there to see it. -/
def interrupted : IoFault :=
  .reported .other "the process has stopped"

def advance (trial : Trial) : Trial :=
  { trial with fates := trial.fates.tail }

def attempt (change : Change) (trial : Trial) : Except IoFault Unit × Trial :=
  if trial.stopped then (.error interrupted, trial)
  else
    match trial.fates.headD .carriedOut with
    | .carriedOut =>
      match change.whole trial.advance with
      | .ok left => (.ok (), left)
      | .error fault => (.error fault, trial.advance)
    | .fails extent fault => (.error fault, change.part extent trial.advance)
    | .stopsWithin extent =>
      (.error interrupted, { change.part extent trial.advance with stopped := true })
    | .stopsAfter =>
      (.error interrupted, { Change.orNothing change.whole trial.advance with stopped := true })

def look {α : Type} (question : FileSystem → Except IoFault α) (trial : Trial) :
    Except IoFault α × Trial :=
  if trial.stopped then (.error interrupted, trial)
  else
    match trial.fates.headD .carriedOut with
    | .carriedOut => (question trial.files, trial.advance)
    | .fails _ fault => (.error fault, trial.advance)
    | .stopsWithin _ | .stopsAfter => (.error interrupted, { trial.advance with stopped := true })

def change (change : Change) : FileAction (StateM Trial) Unit :=
  .mk (modifyGet (attempt change))

def ask {α : Type} (question : FileSystem → Except IoFault α) : FileAction (StateM Trial) α :=
  .mk (modifyGet (look question))

/-- Whether a question has an answer. One that fails has none. -/
def answers {α : Type} (question : FileSystem → Except IoFault α) : StateM Trial Bool :=
  modifyGet fun trial => ((look question trial).1.isOk, (look question trial).2)

def access : FileAccess (StateM Trial) where
  present path := answers (·.find path)
  isDirectory path := answers fun system =>
    if system.isDirectory path then .ok () else .error .notDirectory
  read path := ask (·.read path)
  makeDirectory path := change (.atOnce (·.makeDirectory path))
  create path := change (.atOnce (·.create path))
  append path bytes := change (.filling path bytes)
  sync path := do
    let _ ← ask (·.find path)
  rename source target := change (.moving source target)
  remove path := change (.atOnce (·.remove path))

theorem attempt_eq_ok {change : Change} {trial left : Trial}
    (succeeds : attempt change trial = (.ok (), left)) :
    change.whole trial.advance = .ok left := by
  unfold attempt at succeeds
  split at succeeds
  · cases succeeds
  · dsimp only at succeeds
    split at succeeds
    · split at succeeds
      · next after made =>
          cases succeeds
          exact made
      · cases succeeds
    · cases succeeds
    · cases succeeds
    · cases succeeds

theorem ofFiles_eq_ok {operation : FileSystem → Except IoFault FileSystem} {trial left : Trial}
    (made : Change.ofFiles operation trial = .ok left) :
    operation trial.files = .ok left.files ∧ left.moves = trial.moves := by
  unfold Change.ofFiles at made
  cases operated : operation trial.files with
  | error fault =>
      rw [operated] at made
      cases made
  | ok files =>
      rw [operated] at made
      cases made
      exact ⟨rfl, rfl⟩

theorem create_eq_ok {path : Path} {trial left : Trial}
    (created : runFrom (access.create path) trial = (.ok (), left)) :
    trial.files.create path = .ok left.files := by
  have made : Change.ofFiles (·.create path) trial.advance = .ok left := attempt_eq_ok created
  exact (ofFiles_eq_ok made).1

theorem append_eq_ok {path : Path} {bytes : Bytes} {trial left : Trial}
    (appended : runFrom (access.append path bytes) trial = (.ok (), left)) :
    trial.files.append path bytes = .ok left.files := by
  have made : Change.ofFiles (·.append path bytes) trial.advance = .ok left :=
    attempt_eq_ok appended
  exact (ofFiles_eq_ok made).1

/-- The ways the move of a file can go. If it was carried out and is not reported so, then nobody
is there to report it to. -/
inductive Moves (source target : Path) (before : Trial) : Except IoFault Unit → Trial → Prop
  | carriedOut {after : Trial}
      (renamed : before.files.rename source target = .ok after.files)
      (moves : after.moves = before.moves ++ [(source, target)]) :
      Moves source target before (.ok ()) after
  | unseen {fault : IoFault} {after : Trial}
      (renamed : before.files.rename source target = .ok after.files)
      (moves : after.moves = before.moves ++ [(source, target)]) (stopped : after.stopped = true) :
      Moves source target before (.error fault) after
  | refused {fault : IoFault} {after : Trial}
      (files : after.files = before.files) (moves : after.moves = before.moves) :
      Moves source target before (.error fault) after

theorem rename_moves (source target : Path) (trial : Trial) :
    Moves source target trial (runFrom (access.rename source target) trial).1
      (runFrom (access.rename source target) trial).2 := by
  change Moves source target trial (attempt (.moving source target) trial).1
    (attempt (.moving source target) trial).2
  unfold attempt Change.orNothing Change.moving
  dsimp only
  cases renamed : trial.advance.files.rename source target with
  | ok files =>
      split
      · exact .refused rfl rfl
      · split
        · exact .carriedOut renamed rfl
        · exact .refused rfl rfl
        · exact .refused rfl rfl
        · exact .unseen renamed rfl rfl
  | error fault =>
      split
      · exact .refused rfl rfl
      · split
        · exact .refused rfl rfl
        · exact .refused rfl rfl
        · exact .refused rfl rfl
        · exact .refused rfl rfl

theorem runFrom_remove_of_stopped {path : Path} {trial : Trial} (stopped : trial.stopped = true) :
    runFrom (access.remove path) trial = (.error interrupted, trial) := by
  change attempt (.atOnce (·.remove path)) trial = _
  unfold attempt
  exact if_pos stopped

/-! ### What is kept whatever happens -/

/-- A relation between the files before and after a run: it holds where nothing is done, and of two
runs together if it holds of each. -/
class RunRelation (related : FileSystem → FileSystem → Prop) : Prop where
  refl : ∀ files, related files files
  trans : ∀ {first second third}, related first second → related second third →
    related first third

instance : RunRelation Eq :=
  ⟨Eq.refl, Eq.trans⟩

variable {α β ε ε' : Type} {related : FileSystem → FileSystem → Prop}

/-- An action that moves no file and leaves the files related to those it finds, whatever becomes
of its operations. -/
structure Keeps (related : FileSystem → FileSystem → Prop)
    (action : ExceptT ε (StateM Trial) α) : Prop where
  files : ∀ trial, related trial.files (runFrom action trial).2.files
  moves : ∀ trial, (runFrom action trial).2.moves = trial.moves

section RunRelation

variable [RunRelation related]

theorem keeps_of_same {action : ExceptT ε (StateM Trial) α}
    (same : ∀ trial, (runFrom action trial).2 = trial) : Keeps related action := by
  constructor
  · intro trial
    rw [same]
    exact RunRelation.refl trial.files
  · intro trial
    rw [same]

theorem keeps_pure (value : α) : Keeps related (pure value : ExceptT ε (StateM Trial) α) :=
  keeps_of_same fun _ => rfl

theorem keeps_throw (cause : ε) : Keeps related (throw cause : ExceptT ε (StateM Trial) α) :=
  keeps_of_same fun _ => rfl

theorem Keeps.bind {action : ExceptT ε (StateM Trial) α} {next : α → ExceptT ε (StateM Trial) β}
    (first : Keeps related action) (later : ∀ value, Keeps related (next value)) :
    Keeps related (action >>= next) := by
  constructor
  · intro trial
    have early := first.files trial
    rw [runFrom_bind]
    rcases ran : runFrom action trial with ⟨ending, left⟩
    rw [ran] at early
    cases ending with
    | ok value => exact RunRelation.trans early ((later value).files left)
    | error cause => exact early
  · intro trial
    have early := first.moves trial
    rw [runFrom_bind]
    rcases ran : runFrom action trial with ⟨ending, left⟩
    rw [ran] at early
    cases ending with
    | ok value => exact ((later value).moves left).trans early
    | error cause => exact early

omit [RunRelation related] in
theorem Keeps.outcome {action : ExceptT ε (StateM Trial) α} (keeps : Keeps related action) :
    Keeps related (Courier.outcome action : ExceptT ε' (StateM Trial) (Except ε α)) :=
  ⟨keeps.files, keeps.moves⟩

theorem files_look (question : FileSystem → Except IoFault α) (trial : Trial) :
    (look question trial).2.files = trial.files ∧ (look question trial).2.moves = trial.moves := by
  unfold look
  split
  · exact ⟨rfl, rfl⟩
  · dsimp only
    split
    · exact ⟨rfl, rfl⟩
    · exact ⟨rfl, rfl⟩
    · exact ⟨rfl, rfl⟩
    · exact ⟨rfl, rfl⟩

theorem keeps_of_look {action : ExceptT ε (StateM Trial) α}
    {question : FileSystem → Except IoFault β}
    (looks : ∀ trial, (runFrom action trial).2 = (look question trial).2) :
    Keeps related action := by
  constructor
  · intro trial
    rw [looks, (files_look question trial).1]
    exact RunRelation.refl trial.files
  · intro trial
    rw [looks, (files_look question trial).2]

theorem keeps_ask (question : FileSystem → Except IoFault α) : Keeps related (ask question) :=
  keeps_of_look fun _ => rfl

theorem keeps_answers (question : FileSystem → Except IoFault α) :
    Keeps related (liftM (answers question) : ExceptT ε (StateM Trial) Bool) :=
  keeps_of_look fun _ => rfl

theorem keeps_sync (path : Path) : Keeps related (access.sync path) :=
  (keeps_ask _).bind fun _ => keeps_pure ()

theorem orNothing_of_whole {operation : Trial → Except IoFault Trial}
    (whole : ∀ trial left, operation trial = .ok left →
      related trial.files left.files ∧ left.moves = trial.moves) (trial : Trial) :
    related trial.files (Change.orNothing operation trial).files ∧
      (Change.orNothing operation trial).moves = trial.moves := by
  unfold Change.orNothing
  split
  · next left made => exact whole trial left made
  · exact ⟨RunRelation.refl trial.files, rfl⟩

theorem keeps_change {change : Change}
    (whole : ∀ trial left, change.whole trial = .ok left →
      related trial.files left.files ∧ left.moves = trial.moves)
    (part : ∀ extent trial, related trial.files (change.part extent trial).files ∧
      (change.part extent trial).moves = trial.moves) :
    Keeps related (Trial.change change) := by
  have either : ∀ trial, related trial.files (attempt change trial).2.files ∧
      (attempt change trial).2.moves = trial.moves := by
    intro trial
    unfold attempt
    split
    · exact ⟨RunRelation.refl trial.files, rfl⟩
    · dsimp only
      split
      · split
        · next left made => exact whole trial.advance left made
        · exact ⟨RunRelation.refl trial.files, rfl⟩
      · next extent fault fate => exact part extent trial.advance
      · next extent fate => exact part extent trial.advance
      · exact orNothing_of_whole whole trial.advance
  exact ⟨fun trial => (either trial).1, fun trial => (either trial).2⟩

theorem keeps_atOnce {operation : FileSystem → Except IoFault FileSystem}
    (whole : ∀ files left, operation files = .ok left → related files left) :
    Keeps related (Trial.change (.atOnce operation)) := by
  have made : ∀ trial left, Change.ofFiles operation trial = .ok left →
      related trial.files left.files ∧ left.moves = trial.moves := by
    intro trial left succeeds
    obtain ⟨operated, same⟩ := ofFiles_eq_ok succeeds
    exact ⟨whole _ _ operated, same⟩
  refine keeps_change made ?_
  intro extent trial
  unfold Change.atOnce
  dsimp only
  split
  · exact ⟨RunRelation.refl trial.files, rfl⟩
  · exact orNothing_of_whole made trial

theorem keeps_append {path : Path} {bytes : Bytes}
    (whole : ∀ files left part, files.append path part = .ok left → related files left) :
    Keeps related (access.append path bytes) := by
  have made : ∀ part trial left, Change.ofFiles (·.append path part) trial = .ok left →
      related trial.files left.files ∧ left.moves = trial.moves := by
    intro part trial left succeeds
    obtain ⟨operated, same⟩ := ofFiles_eq_ok succeeds
    exact ⟨whole _ _ _ operated, same⟩
  refine keeps_change (made bytes) ?_
  intro extent trial
  exact orNothing_of_whole (made _) trial

private theorem keeps_unlessDirectory (path : Path) (fault : IoFault) :
    Keeps related (do
      if ← access.isDirectory path then return else throw fault :
      FileAction (StateM Trial) Unit) := by
  refine (keeps_answers _).bind ?_
  intro there
  cases there with
  | true => exact keeps_pure ()
  | false => exact keeps_throw fault

theorem keeps_ensureDirectory
    (makes : ∀ path, Keeps related (access.makeDirectory path)) (path : Path) :
    Keeps related (access.ensureDirectory path) := by
  unfold FileAccess.ensureDirectory
  refine (makes path).outcome.bind ?_
  intro ending
  cases ending with
  | ok done => exact keeps_pure ()
  | error fault => exact keeps_unlessDirectory path fault

theorem keeps_makeDirectoriesWithin
    (makes : ∀ path, Keeps related (access.makeDirectory path)) (levels : Nat) (path : Path) :
    Keeps related (access.makeDirectoriesWithin levels path) := by
  induction levels generalizing path with
  | zero => exact keeps_throw _
  | succ levels ih =>
      unfold FileAccess.makeDirectoriesWithin
      split
      · exact keeps_pure ()
      · refine (makes path).outcome.bind ?_
        intro ending
        cases ending with
        | ok done => exact keeps_pure ()
        | error fault =>
            dsimp only
            split
            · cases path.parent? with
              | none => exact keeps_throw _
              | some parent =>
                  exact (ih parent).bind fun _ => keeps_ensureDirectory makes path
            · exact keeps_unlessDirectory path fault

end RunRelation

end Trial

end Courier
