import Courier.Computer
import Courier.Proofs.Files.Access
import Courier.Proofs.Store.Fetch
/-!
What a run leaves of a computer. A relation between the computer before a run and the one after it
is carried through a program from the primitive actions that the program is made of. Main
statements: what holds of every change of a file holds of all that is done with files, and what
holds of every request and of what is remembered holds of the services on the web.
-/

namespace Courier

variable {α β ε ε' : Type}

/-- A relation between the computers before and after a run, which holds where nothing is done, and
of two runs one after the other if it holds of each. -/
class Passage (passage : Computer → Computer → Prop) : Prop where
  refl : ∀ computer, passage computer computer
  trans : ∀ {first second third}, passage first second → passage second third →
    passage first third

instance : Passage Eq :=
  ⟨Eq.refl, Eq.trans⟩

/-- A relation that also holds of every change of the files. -/
class FilePassage (passage : Computer → Computer → Prop) : Prop extends Passage passage where
  files : ∀ (computer : Computer) files, passage computer { computer with files }

/-- A relation that also holds of every request, and of whatever an archive remembers. -/
class OnlinePassage (passage : Computer → Computer → Prop) : Prop extends FilePassage passage where
  requests : ∀ (computer : Computer) request,
    passage computer { computer with requests := computer.requests ++ [request] }
  documents : ∀ (computer : Computer) documents, passage computer { computer with documents }
  repository : ∀ (computer : Computer) repository, passage computer { computer with repository }

/-- Every run of the action leads from a computer to one that is related to it. -/
def Passes (passage : Computer → Computer → Prop) (action : Machine α) : Prop :=
  ∀ start, passage start (stepFrom action start).2

/-- An action that may fail, and leads to a related computer either way. -/
def PassesOrFails (passage : Computer → Computer → Prop) (action : ExceptT ε Machine α) : Prop :=
  Passes passage action.run

variable {passage : Computer → Computer → Prop}

section Passage

variable [Passage passage]

theorem passes_of_same {action : Machine α} (same : ∀ start, (stepFrom action start).2 = start) :
    Passes passage action := by
  intro start
  rw [same]
  exact Passage.refl start

theorem passes_pure (value : α) : Passes passage (pure value) :=
  passes_of_same fun _ => rfl

theorem Passes.bind {action : Machine α} {next : α → Machine β} (first : Passes passage action)
    (later : ∀ value, Passes passage (next value)) : Passes passage (action >>= next) :=
  fun start => Passage.trans (first start) (later _ _)

theorem passesOrFails_pure (value : α) :
    PassesOrFails passage (pure value : ExceptT ε Machine α) :=
  passes_pure _

theorem passesOrFails_throw (cause : ε) :
    PassesOrFails passage (throw cause : ExceptT ε Machine α) :=
  passes_pure _

theorem passesOrFails_ofExcept (result : Except ε α) :
    PassesOrFails passage (MonadExcept.ofExcept result : ExceptT ε Machine α) := by
  cases result with
  | ok value => exact passesOrFails_pure value
  | error cause => exact passesOrFails_throw cause

theorem Passes.lift {action : Machine α} (passes : Passes passage action) :
    PassesOrFails passage (liftM action : ExceptT ε Machine α) :=
  passes.bind fun _ => passes_pure _

theorem PassesOrFails.bind {action : ExceptT ε Machine α} {next : α → ExceptT ε Machine β}
    (first : PassesOrFails passage action) (later : ∀ value, PassesOrFails passage (next value)) :
    PassesOrFails passage (action >>= next) := by
  change Passes passage (action.run >>= ExceptT.bindCont next)
  refine Passes.bind first fun ending => ?_
  cases ending with
  | ok value => exact later value
  | error cause => exact passes_pure _

theorem PassesOrFails.outcome {action : ExceptT ε Machine α}
    (passes : PassesOrFails passage action) :
    PassesOrFails passage (Courier.outcome action : ExceptT ε' Machine (Except ε α)) :=
  Passes.lift passes

theorem PassesOrFails.adapt {action : ExceptT ε Machine α}
    (passes : PassesOrFails passage action) (f : ε → ε') :
    PassesOrFails passage (ExceptT.adapt f action) :=
  Passes.bind passes fun _ => passes_pure _

theorem passesOrFails_forM {action : α → ExceptT ε Machine Unit} {items : List α}
    (each : ∀ item, PassesOrFails passage (action item)) :
    PassesOrFails passage (items.forM action) := by
  induction items with
  | nil => exact passesOrFails_pure ()
  | cons item rest ih => exact (each item).bind fun _ => ih

theorem passes_ask (question : FileSystem → Except IoFault α) :
    PassesOrFails passage (FileSystem.ask question : FileAction Machine α) := by
  refine passes_of_same fun start => ?_
  exact congrArg Prod.snd (FileSystem.runFrom_ask question start)

theorem passes_present (path : Path) :
    Passes passage ((FileSystem.access : FileAccess Machine).present path) :=
  passes_of_same fun _ => rfl

theorem passes_isDirectory (path : Path) :
    Passes passage ((FileSystem.access : FileAccess Machine).isDirectory path) :=
  passes_of_same fun _ => rfl

theorem passes_readText (path : Path) :
    PassesOrFails passage ((FileSystem.access : FileAccess Machine).readText path) := by
  refine (passes_ask _).bind fun bytes => ?_
  split
  · exact passesOrFails_pure _
  · exact passesOrFails_throw _

private theorem passes_unlessDirectory (path : Path) (fault : IoFault) :
    PassesOrFails passage (do
      if ← (FileSystem.access : FileAccess Machine).isDirectory path then return
      else throw fault : FileAction Machine Unit) := by
  refine (passes_isDirectory path).lift.bind fun there => ?_
  cases there with
  | true => exact passesOrFails_pure ()
  | false => exact passesOrFails_throw fault

theorem passes_verifyDigest (path : Path) (algorithm : ChecksumAlgorithm) (expected : String) :
    PassesOrFails passage ((FileSystem.access : FileAccess Machine).verifyDigest path algorithm
      expected) := by
  have digests : PassesOrFails passage
      ((FileSystem.access : FileAccess Machine).digest path algorithm) := by
    refine (passes_ask _).outcome.bind fun ending => ?_
    cases ending with
    | ok content => exact passesOrFails_pure _
    | error fault => exact passesOrFails_throw _
  refine digests.bind fun actual => ?_
  split
  · exact passesOrFails_pure _
  · exact passesOrFails_throw _

theorem passes_verifyChecksums (path : Path) (expected : Table String) :
    PassesOrFails passage
      ((FileSystem.access : FileAccess Machine).verifyChecksums path expected) := by
  unfold FileAccess.verifyChecksums
  induction expected.toList with
  | nil => exact passesOrFails_pure 0
  | cons entry rest ih =>
      unfold FileAccess.verifyList
      split
      · exact ih
      · exact (passes_verifyDigest path _ _).bind fun _ => ih.bind fun _ => passesOrFails_pure _

theorem passes_collect (source : HostSource) (overrides : HostEnvironment) :
    PassesOrFails passage (source.collect (FileSystem.access : FileAccess Machine) overrides) := by
  unfold HostSource.collect
  split
  · exact (passesOrFails_pure _).bind fun _ => passesOrFails_pure _
  · refine (passes_readText _).outcome.bind fun ending => ?_
    cases ending with
    | ok content => exact (passesOrFails_pure _).bind fun _ => passesOrFails_pure _
    | error fault => exact (passesOrFails_throw _).bind fun _ => passesOrFails_pure _

theorem FileCache.passes_read (cache : FileCache) (resource version : String) :
    PassesOrFails passage
      (cache.read (FileSystem.access : FileAccess Machine) resource version) := by
  refine (passes_ask _).outcome.bind fun ending => ?_
  cases ending with
  | ok bytes => exact passesOrFails_pure bytes
  | error fault =>
      dsimp only
      split
      · exact passesOrFails_throw _
      · exact passesOrFails_throw _

end Passage

/-! ### Changing files -/

section FilePassage

variable [FilePassage passage]

theorem passes_change (operation : FileSystem → Except IoFault FileSystem) :
    PassesOrFails passage (FileSystem.change operation : FileAction Machine Unit) := by
  intro start
  have left : (stepFrom (FileSystem.change operation : FileAction Machine Unit).run start).2 =
      (FileSystem.changed start (operation start.files)).2 :=
    congrArg Prod.snd (FileSystem.runFrom_change operation start)
  rw [left]
  unfold FileSystem.changed
  split
  · exact FilePassage.files start _
  · exact Passage.refl start

theorem passes_write (path : Path) (bytes : Bytes) :
    PassesOrFails passage ((FileSystem.access : FileAccess Machine).write path bytes) :=
  (passes_change _).bind fun _ => passes_change _

theorem passes_ensureDirectory (path : Path) :
    PassesOrFails passage ((FileSystem.access : FileAccess Machine).ensureDirectory path) := by
  refine (passes_change _).outcome.bind fun ending => ?_
  cases ending with
  | ok done => exact passesOrFails_pure ()
  | error fault => exact passes_unlessDirectory path fault

theorem passes_makeDirectoriesWithin (path : Path) (levels : Nat) :
    PassesOrFails passage
      ((FileSystem.access : FileAccess Machine).makeDirectoriesWithin levels path) := by
  induction levels generalizing path with
  | zero => exact passesOrFails_throw _
  | succ levels ih =>
      unfold FileAccess.makeDirectoriesWithin
      split
      · exact passesOrFails_pure ()
      · refine (passes_change _).outcome.bind fun ending => ?_
        cases ending with
        | ok done => exact passesOrFails_pure ()
        | error fault =>
            dsimp only
            split
            · cases path.parent? with
              | none => exact passesOrFails_throw _
              | some parent => exact (ih parent).bind fun _ => passes_ensureDirectory path
            · exact passes_unlessDirectory path fault

theorem passes_makeDirectories (path : Path) :
    PassesOrFails passage ((FileSystem.access : FileAccess Machine).makeDirectories path) :=
  passes_makeDirectoriesWithin path _

namespace FileCache

variable (cache : FileCache)

theorem passes_orCannot (entry : Entry) (doing : String) (path : Path)
    {action : FileAction Machine Unit} (passes : PassesOrFails passage action) :
    PassesOrFails passage (orCannot entry doing path action) := by
  refine passes.outcome.bind fun ending => ?_
  cases ending with
  | ok done => exact passesOrFails_pure ()
  | error fault => exact passesOrFails_throw _

theorem passes_runStep (entry : Entry) (step : WriteStep) :
    PassesOrFails passage (cache.runStep (FileSystem.access : FileAccess Machine) entry step) := by
  cases step with
  | makeDirectory => exact passes_orCannot _ _ _ (passes_makeDirectories _)
  | markResource =>
      refine (passes_present _).lift.bind fun there => ?_
      cases there with
      | true => exact passesOrFails_pure ()
      | false => exact passes_orCannot _ _ _ (passes_write _ _)
  | createDraft => exact passes_orCannot _ _ _ (passes_change _)
  | fillDraft => exact passes_orCannot _ _ _ (passes_change _)
  | syncDraft => exact passes_orCannot _ _ _ ((passes_ask _).bind fun _ => passesOrFails_pure ())
  | replaceManifest =>
      refine passes_orCannot _ _ _ ((passes_change _).outcome.bind fun ending => ?_)
      cases ending with
      | ok done => exact passesOrFails_pure ()
      | error fault =>
          exact (passes_change _).outcome.bind fun _ => passesOrFails_throw fault

end FileCache

end FilePassage

/-! ### The web -/

section Online

variable [OnlinePassage passage]

theorem passes_send (peer : Peer) (request : Request) :
    Passes passage (Network.send (Computer.exchange peer) request) := by
  have exchanges : ∀ asked, Passes passage (Computer.exchange peer asked) :=
    fun asked start => OnlinePassage.requests start asked
  unfold Network.send
  dsimp only
  split
  · exact passes_pure _
  · refine (exchanges _).bind fun reply => ?_
    cases reply with
    | unreachable => exact passes_pure _
    | timedOut => exact passes_pure _
    | answered status body complete => exact passes_pure _

theorem passes_fetch (peer : Peer) (address : String) (timeoutMillis : Nat) :
    Passes passage (Network.fetch (Computer.exchange peer) address timeoutMillis) := by
  unfold Network.fetch
  split
  · exact passes_send peer _
  · exact passes_pure _

namespace Downloader

theorem passes_orFail (failure : IoFault → Failure) {action : FileAction Machine α}
    (passes : PassesOrFails passage action) : PassesOrFails passage (orFail failure action) := by
  refine passes.outcome.bind fun ending => ?_
  cases ending with
  | ok value => exact passesOrFails_pure value
  | error fault => exact passesOrFails_throw _

theorem passes_store (target : Path) (answer : Answer) :
    PassesOrFails passage (store (FileSystem.access : FileAccess Machine) target answer) := by
  have fills : PassesOrFails passage (do
      orFail (.writeFailed target) ((FileSystem.access : FileAccess Machine).create target)
      orFail (.writeFailed target)
        ((FileSystem.access : FileAccess Machine).append target answer.body)
      if !answer.complete then throw (.http "Read error: request or response body error") :
      ExceptT Failure Machine Unit) := by
    refine (passes_orFail _ (passes_change _)).bind fun _ =>
      (passes_orFail _ (passes_change _)).bind fun _ => ?_
    split
    · exact passesOrFails_throw _
    · exact passesOrFails_pure ()
  unfold store
  cases target.parent? with
  | none => exact fills
  | some parent => exact (passes_orFail _ (passes_makeDirectories parent)).bind fun _ => fills

theorem passes_download (downloader : Downloader) (peer : Peer) (request : DownloadRequest) :
    PassesOrFails passage
      (downloader.download FileSystem.access (Computer.exchange peer) request) := by
  unfold download
  refine (passes_fetch peer _ _).lift.bind fun answer => ?_
  cases answer with
  | error fault => exact passesOrFails_throw _
  | ok answer =>
      dsimp only
      split
      · exact passesOrFails_throw _
      · refine (passes_store _ answer).bind fun _ =>
          (passes_verifyChecksums _ _).outcome.bind fun ending => ?_
        cases ending with
        | ok count => exact passesOrFails_pure _
        | error failure => exact (passes_change _).outcome.bind fun _ => passesOrFails_throw failure

end Downloader

namespace Endpoint

variable (endpoint : Endpoint) (peer : Peer)

theorem passes_ask (reader : Json.Reader α) (url : Url) (name version : String) :
    PassesOrFails passage (endpoint.ask (Computer.exchange peer) reader url name version) := by
  refine (passes_send peer _).lift.bind fun answer => ?_
  cases answer with
  | error fault => exact passesOrFails_throw _
  | ok answer =>
      dsimp only
      split
      · exact passesOrFails_pure _
      · exact passesOrFails_throw _

theorem passes_submit (report : ResultReport) :
    PassesOrFails passage (endpoint.submit (Computer.exchange peer) report) := by
  refine (passesOrFails_ofExcept _).bind fun url => (passes_send peer _).lift.bind fun answer => ?_
  cases answer with
  | error fault => exact passesOrFails_throw _
  | ok answer =>
      dsimp only
      split
      · exact passesOrFails_pure ()
      · exact passesOrFails_throw _

end Endpoint

variable (passage) in
structure Archive.Passes (archive : Archive Machine) : Prop where
  manifestBytes : ∀ name version, PassesOrFails passage (archive.manifestBytes name version)
  identifier : ∀ manifest, Courier.Passes passage (archive.identifier manifest)
  location : ∀ file name version, PassesOrFails passage (archive.location file name version)

namespace ControlPlane

variable {plane : ControlPlane Machine}

variable (passage) in
structure Passes (plane : ControlPlane Machine) : Prop where
  manifest : ∀ name version, PassesOrFails passage (plane.getManifest name version)
  document : ∀ name version, PassesOrFails passage (plane.getDocument name version)

theorem Passes.fetchDocument (passes : plane.Passes passage) (name version : String) :
    PassesOrFails passage (plane.fetchDocument name version) := by
  refine (passes.document name version).bind fun response => ?_
  have remembers : Courier.Passes passage
      ((MonadStateOf.set : DocumentMemory → Machine PUnit)
        (some (FetchedDocument.ofResponse name version response))) :=
    fun start => OnlinePassage.documents start _
  exact remembers.lift.bind fun _ => passesOrFails_pure _

theorem Passes.documentArchive (passes : plane.Passes passage) :
    plane.documentArchive.Passes passage := by
  constructor
  case manifestBytes =>
    intro name version
    exact (passes.fetchDocument name version).bind fun _ => passesOrFails_pure _
  case identifier =>
    intro manifest
    exact passes_of_same fun _ => rfl
  case location =>
    intro file name version
    have attachments : PassesOrFails passage (plane.attachments name version) := by
      refine (passes_of_same fun _ => rfl : Courier.Passes passage _).lift.bind fun memory => ?_
      cases memory.attachments? name version with
      | some attachments => exact passesOrFails_pure _
      | none => exact (passes.fetchDocument name version).bind fun _ => passesOrFails_pure _
    exact attachments.bind fun _ => passesOrFails_ofExcept _

theorem Passes.repositoryArchive (passes : plane.Passes passage) (supplied : Option String) :
    (plane.repositoryArchive supplied).Passes passage := by
  have remembers : ∀ resource, PassesOrFails passage
      (ControlPlane.rememberResource resource : ExceptT Failure Machine Unit) := by
    intro resource
    have sets : Courier.Passes passage
        ((MonadStateOf.set : RepositoryMemory → Machine PUnit) { resource }) :=
      fun start => OnlinePassage.repository start _
    exact sets.lift
  constructor
  case manifestBytes =>
    intro name version
    unfold ControlPlane.repositoryArchive
    dsimp only
    split
    · exact (remembers _).bind fun _ => passesOrFails_pure _
    · exact (passes.manifest name version).bind fun _ =>
        (remembers _).bind fun _ => passesOrFails_pure _
  case identifier =>
    intro manifest
    exact passes_of_same fun _ => rfl
  case location =>
    intro file name version
    exact passesOrFails_ofExcept _

end ControlPlane

theorem Endpoint.controlPlane_passes (endpoint : Endpoint) (peer : Peer) :
    (endpoint.controlPlane (Computer.exchange peer)).Passes passage := by
  constructor
  · intro name version
    exact (passesOrFails_ofExcept _).bind fun url => endpoint.passes_ask peer _ url name version
  · intro name version
    exact (passesOrFails_ofExcept _).bind fun url => endpoint.passes_ask peer _ url name version

variable (passage) in
/-- A service whose parts all lead to related computers, but perhaps for its clock. -/
structure Service.Passes (service : Service Machine) : Prop where
  archive : service.archive.Passes passage
  read : ∀ resource version, PassesOrFails passage (service.cache.read resource version)
  write : ∀ resource version bytes,
    PassesOrFails passage (service.cache.write resource version bytes)
  collect : PassesOrFails passage service.collect
  download : ∀ request, PassesOrFails passage (service.download request)
  submit : ∀ report, PassesOrFails passage (service.submit report)

namespace Service.Passes

variable {service : Service Machine} (passes : service.Passes passage)

include passes

theorem cached (resource version : String) :
    PassesOrFails passage (service.store.cached resource version) :=
  (passes.read resource version).bind fun _ => passesOrFails_ofExcept _

theorem file (resource : String) (manifest : Manifest) (bytes : Bytes) (unchanged : Bool) :
    PassesOrFails passage (service.store.file resource manifest bytes unchanged) := by
  refine (passes.write resource manifest.version bytes).outcome.bind fun ending => ?_
  cases ending with
  | ok done => exact passesOrFails_pure _
  | error failure => exact passesOrFails_throw _

theorem fetch (name version : String) :
    PassesOrFails passage (service.store.fetch name version) := by
  unfold Store.fetch
  refine (passes.archive.manifestBytes name version).bind fun bytes =>
    (passesOrFails_ofExcept _).bind fun manifest =>
    (passes.archive.identifier manifest).lift.bind fun resource =>
    (passes.cached resource manifest.version).outcome.bind fun found => ?_
  cases found with
  | ok known => exact passes.file resource manifest bytes _
  | error failure => exact passes.file resource manifest bytes false

theorem host : PassesOrFails passage service.host := by
  refine passes.collect.outcome.bind fun ending => ?_
  cases ending with
  | ok host => exact passesOrFails_pure host
  | error failure => exact passesOrFails_throw _

theorem fetchFile (file : ResolvedFile) (name version : String) :
    PassesOrFails passage (service.archive.fetchFile service.download file name version) := by
  refine (passes.archive.location file name version).bind fun sourceUrl =>
    (passes.download _).outcome.bind fun ending => ?_
  cases ending with
  | error failure => exact passesOrFails_throw _
  | ok path =>
      dsimp only
      split
      · exact passesOrFails_throw _
      · exact passesOrFails_pure path

end Service.Passes

theorem ServiceConfig.serviceAt_passes (config : ServiceConfig) (peer : Peer) (host : HostSource)
    (endpoint : Endpoint) :
    (config.serviceAt (Computer.surroundings peer host) endpoint).Passes passage := by
  have plane : (endpoint.controlPlane (Computer.exchange peer)).Passes passage :=
    endpoint.controlPlane_passes peer
  constructor
  case archive =>
    change (config.archiveOn (endpoint.controlPlane (Computer.exchange peer))).Passes passage
    unfold archiveOn
    split
    · exact plane.documentArchive
    · exact plane.repositoryArchive _
  case read => exact config.cache.passes_read
  case write =>
    intro resource version bytes
    exact passesOrFails_forM fun step => config.cache.passes_runStep _ step
  case collect => exact passes_collect host config.hostOverrides
  case download => exact config.downloader.passes_download peer
  case submit => exact endpoint.passes_submit peer

end Online

end Courier
