import Courier.Proofs.Archive.Transparency
/-!
The canonical name and version of a package, after any use of the archive of documents. What the
archive remembers is always the document that was fetched last, however many requests failed since,
and the document's own name and version are among those that it answers to. Main statement: the
canonical pair is its own canonical pair, and where it is not the pair that was asked for, every
file has one and the same address under both, without a word to the control plane.
-/

namespace Courier

variable {σ : Type}

theorem FetchedDocument.answers_itself (fetched : FetchedDocument) :
    fetched.answers fetched.name fetched.documentVersion = true := by
  simp [answers]

namespace DocumentMemory

variable {memory : DocumentMemory} {name version : String}

/-- The remembered document, if a pair has its name and version for a canonical pair. -/
def Renames (memory : DocumentMemory) (name version : String) (fetched : FetchedDocument) : Prop :=
  memory = some fetched ∧ fetched.answers name version = true ∧ fetched.name ≠ ""

theorem Renames.canonical {fetched : FetchedDocument}
    (renames : memory.Renames name version fetched) :
    memory.canonical name version = (fetched.name, fetched.documentVersion) := by
  obtain ⟨rfl, answers, named⟩ := renames
  have spelled : fetched.name.isEmpty = false := by simpa using named
  simp [DocumentMemory.canonical, answers, spelled]

theorem Renames.again {fetched : FetchedDocument} (renames : memory.Renames name version fetched) :
    memory.Renames fetched.name fetched.documentVersion fetched :=
  ⟨renames.1, fetched.answers_itself, renames.2.2⟩

theorem Renames.attachments? {fetched : FetchedDocument}
    (renames : memory.Renames name version fetched) :
    memory.attachments? name version = some fetched.attachments := by
  obtain ⟨rfl, answers, -⟩ := renames
  exact if_pos answers

theorem canonical_of_not_renames (unknown : ∀ fetched, ¬memory.Renames name version fetched) :
    memory.canonical name version = (name, version) := by
  cases memory with
  | none => rfl
  | some fetched =>
      refine if_neg fun both => unknown fetched ?_
      rw [Bool.and_eq_true, Bool.not_eq_true', String.isEmpty_eq_false_iff] at both
      exact ⟨rfl, both.1, both.2⟩

theorem renames_of_canonical_ne (other : memory.canonical name version ≠ (name, version)) :
    ∃ fetched, memory.Renames name version fetched :=
  not_forall_not.mp fun unknown => other (canonical_of_not_renames unknown)

theorem canonical_canonical (memory : DocumentMemory) (name version : String) :
    memory.canonical (memory.canonical name version).1 (memory.canonical name version).2 =
      memory.canonical name version := by
  by_cases same : memory.canonical name version = (name, version)
  · rw [same]
    exact same
  · obtain ⟨fetched, renames⟩ := renames_of_canonical_ne same
    rw [renames.canonical]
    exact renames.again.canonical

end DocumentMemory

inductive ArchiveUse where
  | call (call : ArchiveCall)
  | name
  | identifier (manifest : Manifest)
  | canonical (name version : String)

def ArchiveUse.perform {m : Type → Type} [Monad m] (archive : Archive m) :
    ArchiveUse → ExceptT Failure m Unit
  | .call asked => do let _ ← asked.perform archive
  | .name => do let _ ← ExceptT.lift archive.name
  | .identifier manifest => do let _ ← ExceptT.lift (archive.identifier manifest)
  | .canonical package version => do let _ ← ExceptT.lift (archive.canonical package version)

namespace Desk

/-- The document that came of an event, with the name and version that were asked for. -/
def Event.document? : Event → Option FetchedDocument
  | .asked name version (.ok response) => some (.ofResponse name version response)
  | _ => none

def lastDocument (events : List Event) : DocumentMemory :=
  (events.filterMap Event.document?).getLast?

theorem lastDocument_asked (events : List Event) (name version : String)
    (answered : Except Failure DocumentResponse) :
    lastDocument (events ++ [.asked name version answered]) =
      remembered name version answered (lastDocument events) := by
  unfold lastDocument
  rw [List.filterMap_append]
  cases answered with
  | ok response => exact List.getLast?_concat
  | error failure => exact congrArg List.getLast? (List.append_nil _)

/-- The memory is the document that was fetched last. -/
def Recalls (desk : Desk σ) : Prop :=
  desk.memory = lastDocument desk.events

variable (source : ControlPlane (StateM σ))

theorem recalls_start (outside : σ) : (start outside).Recalls := rfl

theorem Recalls.afterFetch {desk : Desk σ} (recalls : desk.Recalls) (name version : String) :
    (desk.afterFetch source name version).Recalls := by
  unfold Recalls Desk.afterFetch
  rw [lastDocument_asked, ← recalls]

theorem Recalls.call {desk : Desk σ} (recalls : desk.Recalls) (call : ArchiveCall) :
    (runFrom (call.perform (archive source)) desk).2.Recalls := by
  cases call with
  | manifest name version =>
      rw [ArchiveCall.runFrom_perform_manifest, runFrom_manifestBytes]
      exact recalls.afterFetch source name version
  | location file name version =>
      rw [ArchiveCall.runFrom_perform_location, runFrom_location]
      cases desk.memory.attachments? name version with
      | some attachments => exact recalls
      | none => exact recalls.afterFetch source name version

theorem Recalls.perform {desk : Desk σ} (recalls : desk.Recalls) (use : ArchiveUse) :
    (runFrom (use.perform (archive source)) desk).2.Recalls := by
  cases use with
  | call call =>
      have called := recalls.call source call
      unfold ArchiveUse.perform
      rw [runFrom_bind]
      rcases performed : runFrom (call.perform (archive source)) desk with ⟨ending, left⟩
      rw [performed] at called
      cases ending with
      | ok answer => exact called
      | error failure => exact called
  | name => exact recalls
  | identifier manifest => exact recalls
  | canonical name version => exact recalls

theorem Recalls.afterUses (uses : List ArchiveUse) {desk : Desk σ} (recalls : desk.Recalls) :
    (answersFrom (uses.map (ArchiveUse.perform (archive source))) desk).2.Recalls := by
  -- After each use the memory is the last document up to then.
  induction uses generalizing desk with
  | nil => exact recalls
  | cons use rest ih => exact ih (recalls.perform source use)

def canonicalOf (desk : Desk σ) (pair : String × String) : String × String :=
  (stepFrom ((archive source).canonical pair.1 pair.2) desk).1

theorem runFrom_location_of_renames {desk : Desk σ} {name version : String}
    {fetched : FetchedDocument} (renames : desk.memory.Renames name version fetched)
    (file : ResolvedFile) :
    runFrom ((archive source).location file name version) desk =
      (attachmentUrl fetched.attachments file name version, desk) := by
  rw [runFrom_location, renames.attachments?]

theorem toOption_attachmentUrl (attachments : List Attachment) (file : ResolvedFile)
    (name version otherName otherVersion : String) :
    (attachmentUrl attachments file name version).toOption =
      (attachmentUrl attachments file otherName otherVersion).toOption := by
  unfold attachmentUrl
  cases attachments.find? (·.name == file.name) with
  | some attachment => rfl
  | none => rfl

/-- What the canonical pair of a name and version is, and what it is good for. -/
structure Settled (desk : Desk σ) (name version : String) : Prop where
  undisturbed : (stepFrom ((archive source).canonical name version) desk).2 = desk
  idempotent : canonicalOf source desk (canonicalOf source desk (name, version)) =
    canonicalOf source desk (name, version)
  renamed : ∀ fetched, lastDocument desk.events = some fetched →
    fetched.answers name version = true → fetched.name ≠ "" →
    canonicalOf source desk (name, version) = (fetched.name, fetched.documentVersion)
  unknown : (∀ fetched, lastDocument desk.events = some fetched →
      fetched.answers name version = true → fetched.name = "") →
    canonicalOf source desk (name, version) = (name, version)
  located : ∀ found, canonicalOf source desk (name, version) = found → found ≠ (name, version) →
    ∀ file, ∃ here there,
      runFrom ((archive source).location file name version) desk = (here, desk) ∧
      runFrom ((archive source).location file found.1 found.2) desk = (there, desk) ∧
      here.toOption = there.toOption

/-- Whatever an archive was used for, over whatever control plane, its canonical pairs are those of
the document that was fetched last, they are canonical themselves, and files have the same addresses
under them, with nobody asked. -/
theorem canonical_stable (uses : List ArchiveUse) (outside : σ) (name version : String) :
    Settled source (answersFrom (uses.map (ArchiveUse.perform (archive source)))
      (start outside)).2 name version := by
  have recalls := (recalls_start outside).afterUses source uses
  generalize (answersFrom (uses.map (ArchiveUse.perform (archive source)))
    (start outside)).2 = desk at recalls
  constructor
  case undisturbed => rfl
  case idempotent => exact desk.memory.canonical_canonical name version
  case renamed =>
    intro fetched last answers named
    exact DocumentMemory.Renames.canonical ⟨recalls.trans last, answers, named⟩
  case unknown =>
    intro unanswered
    refine DocumentMemory.canonical_of_not_renames fun fetched renames => ?_
    exact renames.2.2 (unanswered fetched (recalls.symm.trans renames.1) renames.2.1)
  case located =>
    rintro found rfl other file
    obtain ⟨fetched, renames⟩ := DocumentMemory.renames_of_canonical_ne other
    have found : canonicalOf source desk (name, version) =
        (fetched.name, fetched.documentVersion) := renames.canonical
    rw [found]
    exact ⟨_, _, runFrom_location_of_renames source renames file,
      runFrom_location_of_renames source renames.again file, toOption_attachmentUrl _ _ _ _ _ _⟩

/-- A document without a name answers to what it was asked for under, and its empty name is no
canonical one. -/
theorem canonical_unnamed :
    let response : DocumentResponse := { documentVersion := "4", content := "\x7b\x7d" }
    let source : ControlPlane (StateM Unit) :=
      { getManifest := fun name version => throw (.backend name version "unknown")
        getDocument := fun _ _ => return response }
    let uses : List ArchiveUse := [.call (.manifest "Tool" latestVersion)]
    let desk := (answersFrom (uses.map (ArchiveUse.perform (archive source))) (start ())).2
    ∃ fetched, lastDocument desk.events = some fetched ∧
      fetched.answers "Tool" latestVersion = true ∧
      canonicalOf source desk ("Tool", latestVersion) ≠ (fetched.name, fetched.documentVersion) :=
  ⟨.ofResponse "Tool" latestVersion { documentVersion := "4", content := "\x7b\x7d" }, rfl,
    by decide, by decide⟩

end Desk

end Courier
