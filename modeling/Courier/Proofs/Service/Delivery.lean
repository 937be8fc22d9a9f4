import Courier.Proofs.Service.Course
import Courier.Proofs.Web.Download
/-!
What a download delivers on a computer. The archive, the cache, the description of the host and the
peer are arbitrary; files come from the peer over the web. Main statement: a path that a call
returns holds the body that was delivered for the file that the manifest lists for this host, with
every digest that the manifest lists for it; any other call fails, and asks for a file at most once.
-/

namespace Courier

open Computer

theorem isEmpty_join {base : Path} {rest : String} (named : rest ≠ "") :
    (base.join rest).isEmpty = false := by
  have filled : ∀ front : String, (front ++ rest).isEmpty = false := by
    intro front
    rw [String.isEmpty_eq_false_iff]
    intro empty
    exact named (String.append_eq_empty_iff.mp empty).2
  unfold Path.join Path.isEmpty
  dsimp only
  split
  · exact String.isEmpty_eq_false_iff.mpr named
  · split
    · exact filled _
    · exact filled _

theorem fileNameOfUrl_ne_empty (address : String) : fileNameOfUrl address ≠ "" := by
  have fallback : fallbackFileName ≠ "" := by decide
  unfold fileNameOfUrl
  split
  · next name _ =>
      split
      · next usable =>
          intro empty
          have none : name = [] := by simpa using congrArg String.toList empty
          rw [none] at usable
          cases usable
      · exact fallback
  · exact fallback

theorem isEmpty_destination (directory : Path) (address : String) :
    (destination directory address).isEmpty = false :=
  isEmpty_join (fileNameOfUrl_ne_empty address)

namespace Service

variable (service : Service Machine) (downloader : Downloader) (peer : Peer)

def overWeb : Service Machine :=
  { service with download := downloader.download FileSystem.access (exchange peer) }

theorem serviceAt_overWeb (config : ServiceConfig) (source : HostSource) (endpoint : Endpoint) :
    (config.serviceAt (surroundings peer source) endpoint).overWeb config.downloader peer =
      config.serviceAt (surroundings peer source) endpoint := rfl

/-- The manifest of a call is what the bytes spell that are cached under exactly its name and
version. Where there are none, or they spell none, it is what the bytes spell that the archive gives
to this call. -/
def IsManifestOf (name version : String) (start : Computer) (manifest : Manifest) : Prop :=
  let read := runFrom (service.cache.read name version) start
  match read.1.bind Manifest.parse with
  | .ok held => manifest = held
  | .error _ =>
    ∃ bytes, (runFrom (service.archive.manifestBytes name version) (tick Clock.read read.2)).1 =
      .ok bytes ∧ Manifest.parse bytes = .ok manifest

theorem Supplies.isManifestOf {service : Service Machine} {name version : String}
    {start left : Computer} {manifest : Manifest}
    (supplies : service.Supplies Clock.read name version start manifest left) :
    service.IsManifestOf name version start manifest := by
  unfold IsManifestOf
  dsimp only
  cases supplies with
  | cached held =>
      rw [Store.runFrom_cached] at held
      rw [show (runFrom (service.cache.read name version) start).1.bind Manifest.parse =
        .ok manifest from congrArg Prod.fst held]
  | @fetched cause resolved missed _ unheld fetches =>
      rw [Store.runFrom_cached] at unheld
      rw [show (runFrom (service.cache.read name version) start).1.bind Manifest.parse =
        .error cause from congrArg Prod.fst unheld]
      have reached : (runFrom (service.cache.read name version) start).2 = missed :=
        congrArg Prod.snd unheld
      have ways := service.store.fetch_fetches name version (tick Clock.read missed)
      rw [fetches] at ways
      rw [reached]
      cases ways with
      | @filed bytes manifest _ _ _ _ _ _ asked spelled identified looked kept =>
          exact ⟨bytes, congrArg Prod.fst asked, spelled⟩

/-- A delivered artifact, and how the call came to it. The computers are those at the ends of the
stages; the clock is read where a section of the trace is opened or closed. -/
structure Delivery (name version : String) (start : Computer) (path : Path) (final : Computer) where
  manifest : Manifest
  host : HostEnvironment
  variant : PackageVariant
  info : FileInfo
  sourceUrl : String
  body : Bytes
  supplied : Computer
  described : Computer
  located : Computer
  source : service.IsManifestOf name version (tick Clock.read start) manifest
  supplies : service.Supplies Clock.read name version (tick Clock.read start) manifest supplied
  describes : runFrom service.collect (tick Clock.read supplied) = (.ok host, described)
  resolves : manifest.resolveVariant host.operatingSystem.platform
    host.operatingSystem.platformVersion host.operatingSystem.architecture = .ok variant
  lists : manifest.files[variant.fileName]? = some info
  locates : runFrom (service.archive.location { name := variant.fileName, info } name version)
    (tick Clock.read (tick Clock.read (tick Clock.read described))) = (.ok sourceUrl, located)
  placed : path = destination downloader.directory sourceUrl
  delivered : Downloader.Delivered peer located sourceUrl downloader.timeoutMillis body
  holds : final.files.read path = .ok body
  digests : HasDigests body info.checksums

/-- Why a call delivers nothing. Unless the downloader itself fails, it is not asked at all. -/
inductive Refusal (name version : String) (start : Computer) : Failure → Computer → Prop
  | unselected {failure : Failure} {left : Computer}
      (selects : service.Selects Clock.read name version (tick Clock.read start)
        (.error failure) left) :
      Refusal name version start failure (tick Clock.read left)
  | unlocated {file : ResolvedFile} {failure : Failure} {selected left : Computer}
      (selects : service.Selects Clock.read name version (tick Clock.read start)
        (.ok file) selected)
      (locates : runFrom (service.archive.location file name version)
        (tick Clock.read (tick Clock.read selected)) = (.error failure, left)) :
      Refusal name version start failure (tick Clock.read left)
  /-- A file that does not have its digests is not left at its destination. -/
  | undelivered {file : ResolvedFile} {sourceUrl : String} {cause : Failure}
      {selected located left : Computer}
      (selects : service.Selects Clock.read name version (tick Clock.read start)
        (.ok file) selected)
      (locates : runFrom (service.archive.location file name version)
        (tick Clock.read (tick Clock.read selected)) = (.ok sourceUrl, located))
      (downloads : downloader.Downloads peer { sourceUrl, checksums := file.info.checksums }
        located (.error cause) left)
      (removed : ∀ fileName algorithm expected actual,
        cause = .checksumMismatch fileName algorithm expected actual →
        left.files.read (destination downloader.directory sourceUrl) = .error .noEntry) :
      Refusal name version start (.downloadFailed sourceUrl (some cause.message))
        (tick Clock.read left)

private theorem selects_of_overWeb {service : Service Machine} {downloader : Downloader}
    {peer : Peer} {name version : String} {start left : Computer}
    {found : Except Failure ResolvedFile}
    (selects : (service.overWeb downloader peer).Selects Clock.read name version start found
      left) :
    service.Selects Clock.read name version start found left := by
  cases selects with
  | unsupplied unheld fetches => exact .unsupplied unheld fetches
  | searched supplies searches =>
      cases supplies with
      | cached held => exact .searched (.cached held) searches
      | fetched unheld fetches => exact .searched (.fetched unheld fetches) searches

private theorem download_of_overWeb {service : Service Machine} {downloader : Downloader}
    {peer : Peer} {request : DownloadRequest} {start left : Computer}
    {ending : Except Failure Path}
    (downloads : runFrom ((service.overWeb downloader peer).download request) start =
      (ending, left)) :
    downloader.Downloads peer request start ending left := by
  have ways := downloader.download_downloads peer request start
  unfold overWeb at downloads
  rw [downloads] at ways
  exact ways

private theorem selects_eq_ok {service : Service Machine} {name version : String}
    {start left : Computer} {file : ResolvedFile}
    (selects : service.Selects Clock.read name version start (.ok file) left) :
    ∃ manifest supplied host described variant,
      service.Supplies Clock.read name version start manifest supplied ∧
      runFrom service.collect (tick Clock.read supplied) = (.ok host, described) ∧
      manifest.resolveVariant host.operatingSystem.platform
        host.operatingSystem.platformVersion host.operatingSystem.architecture = .ok variant ∧
      manifest.files[variant.fileName]? = some file.info ∧ file.name = variant.fileName ∧
      left = tick Clock.read described := by
  cases selects with
  | @searched manifest _ supplied described supplies searches =>
      rw [runFrom_search] at searches
      rcases describes : runFrom service.collect (tick Clock.read supplied) with ⟨ending, reached⟩
      rw [describes] at searches
      cases ending with
      | error failure => cases searches
      | ok host =>
          have reaches : reached = described := congrArg Prod.snd searches
          have found : manifest.select host = .ok file := congrArg Prod.fst searches
          subst reaches
          unfold Manifest.select at found
          cases resolves : manifest.resolveVariant host.operatingSystem.platform
            host.operatingSystem.platformVersion host.operatingSystem.architecture with
          | error failure =>
              simp only [resolves, bind, Except.bind] at found
              cases found
          | ok variant =>
              simp only [resolves, bind, Except.bind, Manifest.locateFile] at found
              cases lists : manifest.files[variant.fileName]? with
              | none =>
                  rw [lists] at found
                  cases found
              | some info =>
                  rw [lists] at found
                  cases found
                  exact ⟨manifest, supplied, host, reached, variant, supplies, describes,
                    resolves, lists, rfl, rfl⟩

/-- A call returns only what it delivered: the file for this host, from where the archive has it, at
the destination of its address, with the digests that its manifest lists. Every other call fails. -/
theorem downloadArtifact_integrity (name version : String) (trace : Trace) (start : Computer) :
    match runTraced ((service.overWeb downloader peer).downloadArtifact Clock.read name version)
      trace start with
    | (.ok path, _, final) =>
      Nonempty (service.Delivery downloader peer name version start path final)
    | (.error failure, _, final) =>
      service.Refusal downloader peer name version start failure final := by
  have course := (service.overWeb downloader peer).downloadArtifact_course Clock.read name version
    trace start
  rcases ran : runTraced
    ((service.overWeb downloader peer).downloadArtifact Clock.read name version) trace start with
    ⟨ending, after, final⟩
  rw [ran] at course
  dsimp only at course ⊢
  cases course with
  | unselected selects => exact .unselected (selects_of_overWeb selects)
  | unlocated selects locates => exact .unlocated (selects_of_overWeb selects) locates
  | @undelivered file sourceUrl cause _ located left selects locates downloads =>
      have ways := download_of_overWeb downloads
      refine .undelivered (selects_of_overWeb selects) locates ways ?_
      intro fileName algorithm expected actual mismatch
      subst mismatch
      exact ways.mismatch_removed
  | unplaced selects locates downloads nowhere =>
      -- The downloader always names its destination, which is a path.
      obtain ⟨placed, -⟩ := (download_of_overWeb downloads).accepted_sound
      rw [placed, Downloader.target, isEmpty_destination] at nowhere
      cases nowhere
  | @delivered file sourceUrl path _ located left selects locates downloads somewhere =>
      obtain ⟨placed, body, delivered, holds, digests⟩ :=
        (download_of_overWeb downloads).accepted_sound
      obtain ⟨manifest, supplied, host, described, variant, supplies, describes, resolves, lists,
        named, reached⟩ := selects_eq_ok (selects_of_overWeb selects)
      obtain ⟨fileName, info⟩ := file
      subst named reached
      exact ⟨{
        manifest, host, variant, info, sourceUrl, body, supplied, described, located, supplies,
        describes, resolves, lists, locates, placed, delivered, holds, digests,
        source := supplies.isManifestOf }⟩

end Service

end Courier
