import Courier.Proofs.Archive.Desk
import Courier.Proofs.Service.Course
/-!
Where a download over the archive of documents takes its file from. The manifest is the content of a
document and the files are its attachments, and the two reach the service by different ways. Main
statement: a call that has to fetch the manifest asks the control plane just once, and the address
it downloads from is that of an attachment in the answer whose content was its manifest; a call that
has the manifest asks at most once.
-/

namespace Courier

variable {σ : Type}

namespace FetchedDocument

theorem answers_ofResponse (name version : String) (response : DocumentResponse) :
    (ofResponse name version response).answers name version = true := by
  simp [answers, ofResponse]

end FetchedDocument

theorem attachments?_ofResponse (name version : String) (response : DocumentResponse) :
    DocumentMemory.attachments? (some (.ofResponse name version response)) name version =
      some response.attachments :=
  if_pos (FetchedDocument.answers_ofResponse name version response)

namespace Desk

def Event.isQuestion : Event → Bool
  | .asked _ _ _ => true
  | .requested _ => false

/-- The two ways a fetch can go at a desk. It always asks the control plane, once and first. -/
inductive Fetched (name version : String) (before : Desk σ) :
    Except Failure ResolvedManifest → Desk σ → Prop
  | refused {answered : Except Failure DocumentResponse} {failure : Failure} {after : Desk σ}
      (events : after.events = before.events ++ [.asked name version answered]) :
      Fetched name version before (.error failure) after
  | resolved {response : DocumentResponse} {resolved : ResolvedManifest} {after : Desk σ}
      (events : after.events = before.events ++ [.asked name version (.ok response)])
      (memory : after.memory = some (.ofResponse name version response))
      (spelled : Manifest.parse (Utf8.encode response.content) = .ok resolved.manifest) :
      Fetched name version before (.ok resolved) after

variable (source : ControlPlane (StateM σ)) (parts : Service (StateM σ)) (tracer : StateM σ Int64)

theorem agrees_tick (desk : Desk σ) : Agrees desk (tick (abroad tracer) desk) :=
  agrees_abroad tracer desk

theorem agrees_cached (resource version : String) (desk : Desk σ) :
    Agrees desk (runFrom ((service source parts).store.cached resource version) desk).2 := by
  rw [Store.runFrom_cached]
  exact agrees_venture (parts.cache.read resource version) desk

theorem agrees_search (manifest : Manifest) (desk : Desk σ) :
    Agrees desk (runFrom ((service source parts).search manifest) desk).2 := by
  rw [Service.runFrom_search]
  exact agrees_venture parts.collect desk

theorem manifestBytes_eq {name version : String} {before after : Desk σ}
    {given : Except Failure Bytes}
    (asked : runFrom ((service source parts).store.archive.manifestBytes name version) before =
      (given, after)) :
    given = (before.answer source name version).map (fun response => Utf8.encode response.content) ∧
      after = before.afterFetch source name version := by
  change runFrom ((archive source).manifestBytes name version) before = _ at asked
  rw [runFrom_manifestBytes] at asked
  obtain ⟨answered, reached⟩ := Prod.mk.inj asked
  exact ⟨answered.symm, reached.symm⟩

theorem agrees_filing {resource version : String} {manifest : Manifest} {bytes : Bytes}
    {fetched named compared after : Desk σ} {found : Except Failure Manifest}
    {written : Except Failure Unit}
    (identified : stepFrom ((service source parts).store.archive.identifier manifest) fetched =
      (resource, named))
    (looked : runFrom ((service source parts).store.cached resource version) named =
      (found, compared))
    (kept : runFrom ((service source parts).store.cache.write resource version bytes) compared =
      (written, after)) :
    Agrees fetched after := by
  have looking := agrees_cached source parts resource version named
  have writing := agrees_venture (parts.cache.write resource version bytes) compared
  change runFrom (venture (parts.cache.write resource version bytes)) compared = _ at kept
  rw [looked] at looking
  rw [kept] at writing
  have same : fetched = named := congrArg Prod.snd identified
  rw [same]
  exact looking.trans writing

theorem fetch_fetched {name version : String} {before after : Desk σ}
    {ending : Except Failure ResolvedManifest}
    (fetches : runFrom ((service source parts).store.fetch name version) before =
      (ending, after)) :
    Fetched name version before ending after := by
  have ways := (service source parts).store.fetch_fetches name version before
  rw [fetches] at ways
  dsimp only at ways
  cases ways with
  | refused asked =>
      obtain ⟨-, rfl⟩ := manifestBytes_eq source parts asked
      exact .refused rfl
  | malformed asked unread =>
      obtain ⟨-, rfl⟩ := manifestBytes_eq source parts asked
      exact .refused rfl
  | unfiled asked spelled identified looked kept =>
      obtain ⟨-, rfl⟩ := manifestBytes_eq source parts asked
      exact .refused (agrees_filing source parts identified looked kept).events
  | filed asked spelled identified looked kept =>
      obtain ⟨given, rfl⟩ := manifestBytes_eq source parts asked
      have later := agrees_filing source parts identified looked kept
      cases answered : before.answer source name version with
      | error failure =>
          rw [answered] at given
          cases given
      | ok response =>
          rw [answered] at given
          cases given
          refine .resolved ?_ ?_ spelled
          · rw [later.events, afterFetch, answered]
          · rw [later.memory, afterFetch, answered]
            rfl

/-- What happens at the desk until a call has its manifest. -/
inductive Supplied (name version : String) (before : Desk σ) (manifest : Manifest) :
    Desk σ → Prop
  | cached {after : Desk σ}
      (held : (runFrom ((service source parts).store.cached name version) before).1 =
        .ok manifest)
      (agrees : Agrees before after) : Supplied name version before manifest after
  | fetched {cause : Failure} {response : DocumentResponse} {after : Desk σ}
      (unheld : (runFrom ((service source parts).store.cached name version) before).1 =
        .error cause)
      (events : after.events = before.events ++ [.asked name version (.ok response)])
      (memory : after.memory = some (.ofResponse name version response))
      (spelled : Manifest.parse (Utf8.encode response.content) = .ok manifest) :
      Supplied name version before manifest after

theorem supplied_of_supplies {name version : String} {before after : Desk σ}
    {manifest : Manifest}
    (supplies : (service source parts).Supplies (abroad tracer) name version before manifest
      after) :
    Supplied source parts name version before manifest after := by
  have looking := agrees_cached source parts name version before
  cases supplies with
  | cached held =>
      rw [held] at looking
      exact .cached (congrArg Prod.fst held) looking
  | @fetched cause resolved missed left unheld fetches =>
      rw [unheld] at looking
      have early := looking.trans (agrees_tick tracer missed)
      have late := agrees_tick tracer left
      cases fetch_fetched source parts fetches with
      | resolved events memory spelled =>
          refine .fetched (congrArg Prod.fst unheld) ?_ ?_ spelled
          · rw [late.events, events, early.events]
          · rw [late.memory, memory]

theorem agrees_searched {manifest : Manifest} {found : Except Failure ResolvedFile}
    {supplied left : Desk σ}
    (searches : runFrom ((service source parts).search manifest) (tick (abroad tracer) supplied) =
      (found, left)) :
    Agrees supplied (tick (abroad tracer) left) := by
  have searching := agrees_search source parts manifest (tick (abroad tracer) supplied)
  rw [searches] at searching
  exact ((agrees_tick tracer supplied).trans searching).trans (agrees_tick tracer left)

theorem events_of_download {request : DownloadRequest} {located left : Desk σ}
    {ending : Except Failure Path}
    (downloads : runFrom ((service source parts).download request) located = (ending, left)) :
    left.events = located.events ++ [.requested request] := by
  have later : (runFrom ((service source parts).download request) located).2 = left :=
    congrArg Prod.snd downloads
  rw [← later]
  rfl

theorem attachmentUrl_eq_ok {attachments : List Attachment} {file : ResolvedFile}
    {name version url : String} (found : attachmentUrl attachments file name version = .ok url) :
    ∃ attachment, attachments.find? (·.name == file.name) = some attachment ∧
      attachment.url = url := by
  unfold attachmentUrl at found
  split at found
  · next attachment first => exact ⟨attachment, first, Except.ok.inj found⟩
  · cases found

theorem attachmentUrl_eq_error {attachments : List Attachment} {file : ResolvedFile}
    {name version : String} {failure : Failure}
    (unfound : attachmentUrl attachments file name version = .error failure) :
    failure = .backend name version ("document has no attachment named " ++ file.name) ∧
      ∀ attachment ∈ attachments, attachment.name ≠ file.name := by
  unfold attachmentUrl at unfound
  split at unfound
  · cases unfound
  · next none =>
      refine ⟨(Except.error.inj unfound).symm, ?_⟩
      intro attachment member
      simpa using List.find?_eq_none.mp none attachment member

/-- What happens at the desk until a selected file has an address, or is known to have none. -/
inductive Located (name version : String) (before : Desk σ) (manifest : Manifest)
    (file : ResolvedFile) : Except Failure String → Desk σ → Prop
  | cached {place : Except Failure String} {happened : List Event} {after : Desk σ}
      (held : (runFrom ((service source parts).store.cached name version) before).1 =
        .ok manifest)
      (events : after.events = before.events ++ happened)
      (few : (happened.filter Event.isQuestion).length ≤ 1) :
      Located name version before manifest file place after
  | fetched {cause : Failure} {response : DocumentResponse} {after : Desk σ}
      (unheld : (runFrom ((service source parts).store.cached name version) before).1 =
        .error cause)
      (events : after.events = before.events ++ [.asked name version (.ok response)])
      (spelled : Manifest.parse (Utf8.encode response.content) = .ok manifest) :
      Located name version before manifest file
        (attachmentUrl response.attachments file name version) after

theorem located_of_supplied {name version : String} {before supplied selected located : Desk σ}
    {manifest : Manifest} {file : ResolvedFile} {place : Except Failure String}
    (supply : Supplied source parts name version before manifest supplied)
    (agrees : Agrees supplied selected)
    (locates : runFrom ((service source parts).archive.location file name version)
      (tick (abroad tracer) (tick (abroad tracer) selected)) = (place, located)) :
    Located source parts name version before manifest file place located := by
  have later := (agrees.trans (agrees_tick tracer selected)).trans (agrees_tick tracer _)
  change runFrom ((archive source).location file name version) _ = _ at locates
  rw [runFrom_location, later.memory] at locates
  cases supply with
  | cached held early =>
      have events := later.events.trans early.events
      split at locates
      · obtain ⟨-, rfl⟩ := Prod.mk.inj locates
        exact .cached held (events.trans (List.append_nil _).symm) (Nat.zero_le 1)
      · obtain ⟨-, rfl⟩ := Prod.mk.inj locates
        exact .cached held (congrArg (· ++ _) events) (Nat.le_refl 1)
  | fetched unheld events memory spelled =>
      -- The document that was just fetched answers for the package it was asked for.
      rw [memory, attachments?_ofResponse] at locates
      obtain ⟨rfl, rfl⟩ := Prod.mk.inj locates
      exact .fetched unheld (later.events.trans events) spelled

/-! ### A whole call -/

/-- How a call goes that finds no manifest in the cache, and what happens at the desk: the control
plane is asked just once. -/
inductive Fresh (name version : String) (start : Desk σ) :
    Except Failure Path → List Event → Prop
  /-- No file was selected. -/
  | unselected {answered : Except Failure DocumentResponse} {failure : Failure} {left : Desk σ}
      (selects : (service source parts).Selects (abroad tracer) name version start
        (.error failure) left) :
      Fresh name version start (.error failure) [.asked name version answered]
  | unattached {response : DocumentResponse} {manifest : Manifest} {file : ResolvedFile}
      {supplied left : Desk σ}
      (spelled : Manifest.parse (Utf8.encode response.content) = .ok manifest)
      (supplies : (service source parts).Supplies (abroad tracer) name version start manifest
        supplied)
      (searches : runFrom ((service source parts).search manifest)
        (tick (abroad tracer) supplied) = (.ok file, left))
      (missing : ∀ attachment ∈ response.attachments, attachment.name ≠ file.name) :
      Fresh name version start
        (.error (.backend name version ("document has no attachment named " ++ file.name)))
        [.asked name version (.ok response)]
  | attached {response : DocumentResponse} {manifest : Manifest} {file : ResolvedFile}
      {attachment : Attachment} {ending : Except Failure Path} {supplied left : Desk σ}
      (spelled : Manifest.parse (Utf8.encode response.content) = .ok manifest)
      (supplies : (service source parts).Supplies (abroad tracer) name version start manifest
        supplied)
      (searches : runFrom ((service source parts).search manifest)
        (tick (abroad tracer) supplied) = (.ok file, left))
      (first : response.attachments.find? (·.name == file.name) = some attachment) :
      Fresh name version start ending [.asked name version (.ok response),
        .requested { sourceUrl := attachment.url, checksums := file.info.checksums }]

/-- How a call goes at a desk, told apart by whether the cache has a manifest for it. -/
def Goes (name version : String) (start : Desk σ) (ending : Except Failure Path)
    (happened : List Event) : Prop :=
  match (runFrom ((service source parts).store.cached name version) start).1 with
  | .error _ => Fresh source parts tracer name version start ending happened
  | .ok _ => (happened.filter Event.isQuestion).length ≤ 1

variable {name version : String} {start : Desk σ}

theorem goes_of_held {manifest : Manifest} {ending : Except Failure Path} {happened : List Event}
    (held : (runFrom ((service source parts).store.cached name version) start).1 = .ok manifest)
    (few : (happened.filter Event.isQuestion).length ≤ 1) :
    Goes source parts tracer name version start ending happened := by
  unfold Goes
  rw [held]
  exact few

theorem goes_of_unheld {cause : Failure} {ending : Except Failure Path} {happened : List Event}
    (unheld : (runFrom ((service source parts).store.cached name version) start).1 = .error cause)
    (fresh : Fresh source parts tracer name version start ending happened) :
    Goes source parts tracer name version start ending happened := by
  unfold Goes
  rw [unheld]
  exact fresh

theorem goes_of_unselected {failure : Failure} {left : Desk σ}
    (selects : (service source parts).Selects (abroad tracer) name version start
      (.error failure) left) :
    ∃ happened, left.events = start.events ++ happened ∧
      Goes source parts tracer name version start (.error failure) happened := by
  cases selects with
  | @unsupplied cause _ missed left unheld fetches =>
      have looking := agrees_cached source parts name version start
      rw [unheld] at looking
      have early := looking.trans (agrees_tick tracer missed)
      cases fetch_fetched source parts fetches with
      | @refused answered _ _ events =>
          refine ⟨[.asked name version answered], ?_, ?_⟩
          · rw [(agrees_tick tracer left).events, events, early.events]
          · exact goes_of_unheld source parts tracer (congrArg Prod.fst unheld)
              (.unselected (.unsupplied unheld fetches))
  | searched supplies searches =>
      have late := agrees_searched source parts tracer searches
      cases supplied_of_supplies source parts tracer supplies with
      | cached held agrees =>
          refine ⟨[], ?_, goes_of_held source parts tracer held (Nat.zero_le 1)⟩
          rw [late.events, agrees.events, List.append_nil]
      | fetched unheld events memory spelled =>
          refine ⟨_, late.events.trans events, ?_⟩
          exact goes_of_unheld source parts tracer unheld
            (.unselected (.searched supplies searches))

theorem goes_of_unlocated {file : ResolvedFile} {failure : Failure} {selected located : Desk σ}
    (selects : (service source parts).Selects (abroad tracer) name version start (.ok file)
      selected)
    (locates : runFrom ((service source parts).archive.location file name version)
      (tick (abroad tracer) (tick (abroad tracer) selected)) = (.error failure, located)) :
    ∃ happened, located.events = start.events ++ happened ∧
      Goes source parts tracer name version start (.error failure) happened := by
  cases selects with
  | searched supplies searches =>
      have supply := supplied_of_supplies source parts tracer supplies
      have late := agrees_searched source parts tracer searches
      have ways := located_of_supplied source parts tracer supply late locates
      generalize place : (Except.error failure : Except Failure String) = ended at ways
      cases ways with
      | cached held events few =>
          exact ⟨_, events, goes_of_held source parts tracer held few⟩
      | @fetched cause response _ unheld events spelled =>
          obtain ⟨rfl, missing⟩ := attachmentUrl_eq_error place.symm
          refine ⟨_, events, ?_⟩
          exact goes_of_unheld source parts tracer unheld
            (.unattached spelled supplies searches missing)

theorem goes_of_located {file : ResolvedFile} {url : String} {ending : Except Failure Path}
    {answered : Except Failure Path} {selected located left : Desk σ}
    (selects : (service source parts).Selects (abroad tracer) name version start (.ok file)
      selected)
    (locates : runFrom ((service source parts).archive.location file name version)
      (tick (abroad tracer) (tick (abroad tracer) selected)) = (.ok url, located))
    (downloads : runFrom ((service source parts).download
      { sourceUrl := url, checksums := file.info.checksums }) located = (answered, left)) :
    ∃ happened, left.events = start.events ++ happened ∧
      Goes source parts tracer name version start ending happened := by
  have requests := events_of_download source parts downloads
  cases selects with
  | searched supplies searches =>
      have supply := supplied_of_supplies source parts tracer supplies
      have late := agrees_searched source parts tracer searches
      have ways := located_of_supplied source parts tracer supply late locates
      generalize place : (Except.ok url : Except Failure String) = ended at ways
      cases ways with
      | cached held events few =>
          refine ⟨_, requests.trans (by rw [events, List.append_assoc]), ?_⟩
          refine goes_of_held source parts tracer held ?_
          rw [List.filter_append, List.length_append]
          exact few
      | @fetched cause response _ unheld events spelled =>
          obtain ⟨attachment, first, rfl⟩ := attachmentUrl_eq_ok place.symm
          refine ⟨_, requests.trans (by rw [events, List.append_assoc]), ?_⟩
          exact goes_of_unheld source parts tracer unheld
            (.attached spelled supplies searches first)

theorem goes_of_ticked {ending : Except Failure Path} {left : Desk σ}
    (went : ∃ happened, left.events = (tick (abroad tracer) start).events ++ happened ∧
      Goes source parts tracer name version (tick (abroad tracer) start) ending happened) :
    ∃ happened, (tick (abroad tracer) left).events = start.events ++ happened ∧
      Goes source parts tracer name version (tick (abroad tracer) start) ending happened := by
  obtain ⟨happened, events, goes⟩ := went
  refine ⟨happened, ?_, goes⟩
  rw [(agrees_tick tracer left).events, events, (agrees_tick tracer start).events]

/-- Manifest and file come from one document. A call that finds no manifest in the cache asks the
control plane just once, and what it downloads, if anything, is the first attachment of the name of
the selected file in that answer; a call that finds one asks at most once. This holds whatever the
archive remembered before and whatever the control plane answers. -/
theorem downloadArtifact_one_document (name version : String) (trace : Trace) (start : Desk σ) :
    let ran := runTraced ((service source parts).downloadArtifact (abroad tracer) name version)
      trace start
    ∃ happened, ran.2.2.events = start.events ++ happened ∧
      Goes source parts tracer name version (tick (abroad tracer) start) ran.1 happened := by
  have course := (service source parts).downloadArtifact_course (abroad tracer) name version trace
    start
  generalize runTraced ((service source parts).downloadArtifact (abroad tracer) name version)
    trace start = ended at course ⊢
  obtain ⟨ending, noted, after⟩ := ended
  dsimp only at course ⊢
  cases course with
  | unselected selects =>
      exact goes_of_ticked source parts tracer (goes_of_unselected source parts tracer selects)
  | unlocated selects locates =>
      exact goes_of_ticked source parts tracer
        (goes_of_unlocated source parts tracer selects locates)
  | undelivered selects locates downloads =>
      exact goes_of_ticked source parts tracer
        (goes_of_located source parts tracer selects locates downloads)
  | unplaced selects locates downloads nowhere =>
      exact goes_of_ticked source parts tracer
        (goes_of_located source parts tracer selects locates downloads)
  | delivered selects locates downloads somewhere =>
      exact goes_of_ticked source parts tracer
        (goes_of_located source parts tracer selects locates downloads)

end Desk

end Courier
