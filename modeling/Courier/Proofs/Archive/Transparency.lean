import Courier.Proofs.Archive.Desk
/-!
What the archive of documents remembers saves questions and nothing else. A control plane may give
one document under several names and versions; where it does so for every name and version that a
document goes by, the remembered document is always what the control plane would have answered.
Main statement: any calls are answered as by an archive that remembers nothing.
-/

namespace Courier

variable {σ : Type}

inductive ArchiveCall where
  | manifest (name version : String)
  | location (file : ResolvedFile) (name version : String)

namespace ArchiveCall

inductive Answer where
  | bytes (manifest : Bytes)
  | address (url : String)
  deriving DecidableEq, Repr

def perform {m : Type → Type} [Monad m] (archive : Archive m) :
    ArchiveCall → ExceptT Failure m Answer
  | manifest name version => do return .bytes (← archive.manifestBytes name version)
  | location file name version => do return .address (← archive.location file name version)

theorem runFrom_perform_manifest (archive : Archive (StateM σ)) (name version : String)
    (state : σ) :
    runFrom ((manifest name version).perform archive) state =
      ((runFrom (archive.manifestBytes name version) state).1.map .bytes,
        (runFrom (archive.manifestBytes name version) state).2) := by
  unfold perform
  rw [runFrom_bind]
  rcases runFrom (archive.manifestBytes name version) state with ⟨ending, left⟩
  cases ending with
  | ok bytes => rfl
  | error failure => rfl

theorem runFrom_perform_location (archive : Archive (StateM σ)) (file : ResolvedFile)
    (name version : String) (state : σ) :
    runFrom ((location file name version).perform archive) state =
      ((runFrom (archive.location file name version) state).1.map .address,
        (runFrom (archive.location file name version) state).2) := by
  unfold perform
  rw [runFrom_bind]
  rcases runFrom (archive.location file name version) state with ⟨ending, left⟩
  cases ending with
  | ok url => rfl
  | error failure => rfl

end ArchiveCall

namespace ControlPlane

/-- The archive of documents that asks the control plane in every call. -/
def forgetfulArchive {m : Type → Type} [Monad m] (plane : ControlPlane m) : Archive m where
  name := return "document"
  manifestBytes name version := do
    return Utf8.encode (← plane.getDocument name version).content
  identifier _ := return ""
  canonical name version := return (name, version)
  location file name version := do
    let response ← plane.getDocument name version
    MonadExcept.ofExcept (attachmentUrl response.attachments file name version)

variable (plane : ControlPlane (StateM σ))

/-- What the control plane answers does not hang on what happened before. -/
def Answers (answer : String → String → Except Failure DocumentResponse) : Prop :=
  ∀ name version state, (runFrom (plane.getDocument name version) state).1 = answer name version

end ControlPlane

/-- A document is given under all the names and versions that it goes by: those it was asked for
under, its own ones, and the empty version where it is the newest one. -/
def AliasConsistent (answer : String → String → Except Failure DocumentResponse) : Prop :=
  ∀ name version response, answer name version = .ok response →
    ∀ otherName otherVersion, (otherName = name ∨ otherName = response.name) →
      (otherVersion = version ∨ otherVersion = response.documentVersion ∨
        (otherVersion = "" ∧ version = latestVersion)) →
      answer otherName otherVersion = .ok response

variable {answer : String → String → Except Failure DocumentResponse}

namespace DocumentMemory

/-- What is remembered is what the control plane answered. -/
def Faithful (answer : String → String → Except Failure DocumentResponse)
    (memory : DocumentMemory) : Prop :=
  ∀ fetched, memory = some fetched → ∃ name version response,
    answer name version = .ok response ∧ fetched = .ofResponse name version response

theorem faithful_none : Faithful answer none := by
  intro fetched nothing
  cases nothing

theorem Faithful.remembered {memory : DocumentMemory} (faithful : Faithful answer memory)
    (name version : String) :
    Faithful answer (Desk.remembered name version (answer name version) memory) := by
  unfold Desk.remembered
  cases answered : answer name version with
  | error failure => exact faithful
  | ok response =>
      intro fetched same
      exact ⟨name, version, response, answered, (Option.some.inj same).symm⟩

theorem Faithful.answered {memory : DocumentMemory} (faithful : Faithful answer memory)
    (consistent : AliasConsistent answer) {name version : String} {attachments : List Attachment}
    (found : memory.attachments? name version = some attachments) :
    ∃ response, answer name version = .ok response ∧ response.attachments = attachments := by
  cases memory with
  | none => cases found
  | some fetched =>
      obtain ⟨asked, askedVersion, response, answers, same⟩ := faithful fetched rfl
      subst same
      unfold DocumentMemory.attachments? at found
      dsimp only at found
      split at found
      · next covers =>
          have goes : (name = asked ∨ name = response.name) ∧
              (version = askedVersion ∨ version = response.documentVersion ∨
                (version = "" ∧ askedVersion = latestVersion)) := by
            simpa [FetchedDocument.answers, FetchedDocument.ofResponse, or_assoc] using covers
          exact ⟨response, consistent asked askedVersion response answers name version goes.1
            goes.2, Option.some.inj found⟩
      · cases found

end DocumentMemory

namespace Desk

variable {source : ControlPlane (StateM σ)}

theorem answer_of_answers (fixed : source.Answers answer) (name version : String)
    (desk : Desk σ) : desk.answer source name version = answer name version :=
  fixed name version desk.outside

theorem runFrom_forgetful_manifestBytes (fixed : source.Answers answer) (name version : String)
    (state : σ) :
    (runFrom (source.forgetfulArchive.manifestBytes name version) state).1 =
      (answer name version).map fun response => Utf8.encode response.content := by
  have answered := fixed name version state
  change (runFrom (do return Utf8.encode (← source.getDocument name version).content) state).1 = _
  rw [runFrom_bind, ← answered]
  rcases runFrom (source.getDocument name version) state with ⟨ending, left⟩
  cases ending with
  | ok response => rfl
  | error failure => rfl

theorem runFrom_forgetful_location (fixed : source.Answers answer) (file : ResolvedFile)
    (name version : String) (state : σ) :
    (runFrom (source.forgetfulArchive.location file name version) state).1 =
      (answer name version).bind fun response =>
        attachmentUrl response.attachments file name version := by
  have answered := fixed name version state
  change (runFrom (do
    let response ← source.getDocument name version
    MonadExcept.ofExcept (attachmentUrl response.attachments file name version)) state).1 = _
  rw [runFrom_bind, ← answered]
  rcases runFrom (source.getDocument name version) state with ⟨ending, left⟩
  cases ending with
  | ok response => exact congrArg Prod.fst (runFrom_ofExcept _ _)
  | error failure => rfl

/-- One call is answered as without a memory, and the memory stays faithful. -/
theorem perform_eq_forgetful (fixed : source.Answers answer) (consistent : AliasConsistent answer)
    {desk : Desk σ} (faithful : desk.memory.Faithful answer) (call : ArchiveCall) (state : σ) :
    (runFrom (call.perform (archive source)) desk).1 =
        (runFrom (call.perform source.forgetfulArchive) state).1 ∧
      (runFrom (call.perform (archive source)) desk).2.memory.Faithful answer := by
  have after : ∀ name version, (desk.afterFetch source name version).memory.Faithful answer := by
    intro name version
    unfold afterFetch
    rw [answer_of_answers fixed]
    exact faithful.remembered name version
  cases call with
  | manifest name version =>
      rw [ArchiveCall.runFrom_perform_manifest, ArchiveCall.runFrom_perform_manifest,
        runFrom_manifestBytes, runFrom_forgetful_manifestBytes fixed, answer_of_answers fixed]
      exact ⟨rfl, after name version⟩
  | location file name version =>
      rw [ArchiveCall.runFrom_perform_location, ArchiveCall.runFrom_perform_location,
        runFrom_location, runFrom_forgetful_location fixed]
      cases found : desk.memory.attachments? name version with
      | none =>
          rw [answer_of_answers fixed]
          exact ⟨rfl, after name version⟩
      | some attachments =>
          obtain ⟨response, answered, same⟩ := faithful.answered consistent found
          rw [answered, ← same]
          exact ⟨rfl, faithful⟩

theorem answersFrom_eq_forgetful (fixed : source.Answers answer)
    (consistent : AliasConsistent answer) (calls : List ArchiveCall) {desk : Desk σ}
    (faithful : desk.memory.Faithful answer) (state : σ) :
    (answersFrom (calls.map (ArchiveCall.perform (archive source))) desk).1 =
      (answersFrom (calls.map (ArchiveCall.perform source.forgetfulArchive)) state).1 := by
  -- The two archives need not leave the same state outside: what is answered does not hang on it.
  induction calls generalizing desk state with
  | nil => rfl
  | cons call rest ih =>
      obtain ⟨same, kept⟩ := perform_eq_forgetful fixed consistent faithful call state
      rcases remembers : runFrom (call.perform (archive source)) desk with ⟨ending, left⟩
      rcases forgets : runFrom (call.perform source.forgetfulArchive) state with ⟨other, last⟩
      rw [remembers, forgets] at same
      rw [remembers] at kept
      dsimp only at same kept
      rw [List.map_cons, List.map_cons, answersFrom_cons remembers, answersFrom_cons forgets, same,
        ih kept last]

/-- The memory of the archive is transparent: over a control plane whose answers are fixed and
consistent, any calls, failing ones included, are answered as by the archive that remembers
nothing. -/
theorem calls_eq_forgetful (fixed : source.Answers answer) (consistent : AliasConsistent answer)
    (calls : List ArchiveCall) (outside : σ) :
    (answersFrom (calls.map (ArchiveCall.perform (archive source))) (start outside)).1 =
      (answersFrom (calls.map (ArchiveCall.perform source.forgetfulArchive)) outside).1 :=
  answersFrom_eq_forgetful fixed consistent calls DocumentMemory.faithful_none outside

/-- A document that is asked for under one name and version and found under its others. -/
theorem calls_eq_forgetful_aliases :
    let file : ResolvedFile := { name := "pkg.zip", info := {} }
    let response : DocumentResponse :=
      { name := "arn:tool", documentVersion := "4", attachments := [⟨"pkg.zip", "https://a/1"⟩] }
    let answer : String → String → Except Failure DocumentResponse := fun name version =>
      if (name = "tool" ∨ name = "arn:tool") ∧ (version = "latest" ∨ version = "" ∨ version = "4")
      then .ok response else .error (.backend name version "unknown")
    let source : ControlPlane (StateM Unit) :=
      { getManifest := fun name version => throw (.backend name version "unknown")
        getDocument := fun name version => MonadExcept.ofExcept (answer name version) }
    let calls : List ArchiveCall :=
      [.manifest "tool" "latest", .location file "arn:tool" "", .location file "tool" "4",
        .location file "other" "4"]
    source.Answers answer ∧ AliasConsistent answer ∧
      (answersFrom (calls.map (ArchiveCall.perform (archive source))) (start ())).1 =
        (answersFrom (calls.map (ArchiveCall.perform source.forgetfulArchive)) ()).1 := by
  intro file response answer source calls
  have fixed : source.Answers answer :=
    fun name version state => congrArg Prod.fst (runFrom_ofExcept (answer name version) state)
  have consistent : AliasConsistent answer := by
    intro name version found answered otherName otherVersion names versions
    have same : found = response := by
      simp only [answer] at answered
      split at answered
      · exact (Except.ok.inj answered).symm
      · cases answered
    subst same
    simp only [answer] at answered ⊢
    split at answered
    · next asked =>
        rw [if_pos]
        constructor
        · rcases names with rfl | rfl
          · exact asked.1
          · exact .inr rfl
        · rcases versions with rfl | rfl | ⟨rfl, -⟩
          · exact asked.2
          · exact .inr (.inr rfl)
          · exact .inr (.inl rfl)
    · cases answered
  exact ⟨fixed, consistent, calls_eq_forgetful fixed consistent calls ()⟩

end Desk

end Courier
