import Courier.Archive.Document
import Courier.Proofs.Run
import Courier.Service.Basic
/-!
The archive of documents at its desk. The desk keeps what the archive remembers, and what was asked
of the control plane and of the downloader, in order; everything else is outside, where anything may
happen but to the desk. Main statement: a file is located without a word to the control plane where
the remembered document answers for the package, and with one question otherwise.
-/

namespace Courier

namespace Desk

inductive Event where
  | asked (name version : String) (answer : Except Failure DocumentResponse)
  | requested (request : DownloadRequest)

end Desk

/-- What an archive of documents remembers, what happened so far, and the state of all that is
outside. -/
structure Desk (σ : Type) where
  memory : DocumentMemory := none
  events : List Desk.Event := []
  outside : σ

variable {σ ε α : Type}

namespace Desk

def start (outside : σ) : Desk σ :=
  { outside }

def record (event : Event) (desk : Desk σ) : Desk σ :=
  { desk with events := desk.events ++ [event] }

instance : MonadStateOf DocumentMemory (StateM (Desk σ)) where
  get desk := (desk.memory, desk)
  set memory desk := ((), { desk with memory })
  modifyGet change desk :=
    let (value, memory) := change desk.memory
    (value, { desk with memory })

def abroad (action : StateM σ α) : StateM (Desk σ) α := fun desk =>
  let (value, outside) := stepFrom action desk.outside
  (value, { desk with outside })

def venture (action : ExceptT ε (StateM σ) α) : ExceptT ε (StateM (Desk σ)) α :=
  ExceptT.mk (abroad action.run)

/-- A control plane outside. It is remembered what it was asked for, and what it answered. -/
def plane (plane : ControlPlane (StateM σ)) : ControlPlane (StateM (Desk σ)) where
  getManifest name version := venture (plane.getManifest name version)
  getDocument name version := ExceptT.mk do
    let answer ← abroad (plane.getDocument name version).run
    modifyThe (Desk σ) (record (.asked name version answer))
    return answer

def archive (source : ControlPlane (StateM σ)) : Archive (StateM (Desk σ)) :=
  (plane source).documentArchive

/-- A service over the archive, with its other parts outside. It is remembered what the downloader
is asked for. -/
def service (source : ControlPlane (StateM σ)) (parts : Service (StateM σ)) :
    Service (StateM (Desk σ)) where
  archive := archive source
  cache :=
    { read := fun resource version => venture (parts.cache.read resource version)
      write := fun resource version bytes => venture (parts.cache.write resource version bytes) }
  collect := venture parts.collect
  download request := do
    ExceptT.lift (modifyThe (Desk σ) (record (.requested request)))
    venture (parts.download request)
  submit report := venture (parts.submit report)
  clock := abroad parts.clock

/-- Two desks with one memory, at which the same happened. -/
structure Agrees (before after : Desk σ) : Prop where
  memory : after.memory = before.memory
  events : after.events = before.events

theorem Agrees.refl (desk : Desk σ) : Agrees desk desk :=
  ⟨rfl, rfl⟩

theorem Agrees.trans {first second third : Desk σ} (early : Agrees first second)
    (late : Agrees second third) : Agrees first third :=
  ⟨late.memory.trans early.memory, late.events.trans early.events⟩

theorem agrees_abroad (action : StateM σ α) (desk : Desk σ) :
    Agrees desk (stepFrom (abroad action) desk).2 :=
  ⟨rfl, rfl⟩

theorem agrees_venture (action : ExceptT ε (StateM σ) α) (desk : Desk σ) :
    Agrees desk (runFrom (venture action) desk).2 :=
  ⟨rfl, rfl⟩

variable (source : ControlPlane (StateM σ))

def answer (name version : String) (desk : Desk σ) : Except Failure DocumentResponse :=
  (runFrom (source.getDocument name version) desk.outside).1

def remembered (name version : String) (answered : Except Failure DocumentResponse)
    (memory : DocumentMemory) : DocumentMemory :=
  match answered with
  | .ok response => some (.ofResponse name version response)
  | .error _ => memory

def afterFetch (name version : String) (desk : Desk σ) : Desk σ :=
  { memory := remembered name version (desk.answer source name version) desk.memory
    events := desk.events ++ [.asked name version (desk.answer source name version)]
    outside := (runFrom (source.getDocument name version) desk.outside).2 }

theorem runFrom_fetchDocument (name version : String) (desk : Desk σ) :
    runFrom ((plane source).fetchDocument name version) desk =
      (desk.answer source name version, desk.afterFetch source name version) := by
  have asks : runFrom ((plane source).getDocument name version) desk =
      (desk.answer source name version,
        { desk with
          events := desk.events ++ [.asked name version (desk.answer source name version)]
          outside := (runFrom (source.getDocument name version) desk.outside).2 }) := rfl
  unfold ControlPlane.fetchDocument afterFetch
  rw [runFrom_bind, asks]
  cases desk.answer source name version with
  | ok response => rfl
  | error failure => rfl

theorem runFrom_manifestBytes (name version : String) (desk : Desk σ) :
    runFrom ((archive source).manifestBytes name version) desk =
      ((desk.answer source name version).map fun response => Utf8.encode response.content,
        desk.afterFetch source name version) := by
  change runFrom (do return Utf8.encode (← (plane source).fetchDocument name version).content)
    desk = _
  rw [runFrom_bind, runFrom_fetchDocument]
  cases desk.answer source name version with
  | ok response => rfl
  | error failure => rfl

theorem runFrom_attachments (name version : String) (desk : Desk σ) :
    runFrom ((plane source).attachments name version) desk =
      match desk.memory.attachments? name version with
      | some attachments => (.ok attachments, desk)
      | none => ((desk.answer source name version).map (·.attachments),
          desk.afterFetch source name version) := by
  have looks : runFrom (ExceptT.lift MonadStateOf.get :
      ExceptT Failure (StateM (Desk σ)) DocumentMemory) desk = (.ok desk.memory, desk) := rfl
  unfold ControlPlane.attachments
  rw [runFrom_bind_ok looks]
  cases desk.memory.attachments? name version with
  | some attachments => rfl
  | none =>
      dsimp only
      rw [runFrom_bind, runFrom_fetchDocument]
      cases desk.answer source name version with
      | ok response => rfl
      | error failure => rfl

theorem runFrom_location (file : ResolvedFile) (name version : String) (desk : Desk σ) :
    runFrom ((archive source).location file name version) desk =
      match desk.memory.attachments? name version with
      | some attachments => (attachmentUrl attachments file name version, desk)
      | none => ((desk.answer source name version).bind fun response =>
          attachmentUrl response.attachments file name version,
          desk.afterFetch source name version) := by
  change runFrom (do
    let attachments ← (plane source).attachments name version
    MonadExcept.ofExcept (attachmentUrl attachments file name version)) desk = _
  rw [runFrom_bind, runFrom_attachments]
  cases desk.memory.attachments? name version with
  | some attachments => exact runFrom_ofExcept _ _
  | none =>
      dsimp only
      cases desk.answer source name version with
      | ok response => exact runFrom_ofExcept _ _
      | error failure => rfl

end Desk

end Courier
