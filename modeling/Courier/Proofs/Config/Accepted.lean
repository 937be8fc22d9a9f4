import Courier.Config.Read
import Courier.Proofs.Config.Home
import Courier.Proofs.Run
import Courier.Proofs.Text.LowerCase
/-!
Settings that were read from a text. Main statement: their texts are trimmed and not empty, their
times are positive, the platform is in lower case, and their directories are those that the settings
can hold.
-/

namespace Courier

/-- A text that is not blank, without blanks around it. -/
def IsTrimmed (text : String) : Prop :=
  text ≠ "" ∧ Text.trim text = text

structure ServiceSettings.Accepted (service : ServiceSettings) : Prop where
  endpoint : ∀ address ∈ service.endpoint, ∃ text, Settings.endpoint text = .ok address
  timeout : 0 < service.timeoutSeconds

def HostSettings.values (host : HostSettings) : List (Option String) :=
  [host.platform, host.platformVersion, host.architecture, host.instanceId, host.instanceType,
    host.region, host.availabilityZone]

structure HostSettings.Accepted (host : HostSettings) : Prop where
  trimmed : ∀ value ∈ host.values, ∀ text ∈ value, IsTrimmed text
  small : ∀ name ∈ host.platform, Text.lower name = name

/-- What holds of all settings that a text is read as. -/
structure Settings.Accepted (places : Places) (settings : Settings) : Prop where
  service : settings.service.Accepted
  cache : places.Holds settings.cacheDirectory
  download : places.Holds settings.download.directory
  downloadTimeout : 0 < settings.download.timeoutSeconds
  host : settings.host.Accepted
  log : places.Holds settings.logDirectory

namespace Settings

variable {places : Places}

theorem overlay_keeps {α : Type} (Kept : α → Prop) {value : Option String}
    {set : String → α → Except ConfigFault α} {start result : α} (begins : Kept start)
    (keeps : ∀ text next, set text start = .ok next → Kept next)
    (ends : overlay value set start = .ok result) : Kept result := by
  cases value with
  | none =>
      obtain rfl := Except.ok.inj ends
      exact begins
  | some text => exact keeps text result ends

theorem map_eq_ok {ε α β : Type} {f : α → β} {ending : Except ε α} {result : β}
    (ends : ending.map f = .ok result) : ∃ value, ending = .ok value ∧ f value = result := by
  cases ending with
  | error cause => cases ends
  | ok value => exact ⟨value, rfl, Except.ok.inj ends⟩

theorem timeout_pos {sectionName text : String} {seconds : UInt64}
    (accepted : timeout sectionName text = .ok seconds) : 0 < seconds := by
  unfold timeout at accepted
  split at accepted
  · split at accepted
    · next positive =>
        obtain rfl := Except.ok.inj accepted
        exact positive
    · cases accepted
  · cases accepted

theorem accepted_of_readService {ini : Ini} {service : ServiceSettings}
    (reads : readService ini = .ok service) : service.Accepted := by
  obtain ⟨addressed, first, reads⟩ := bind_eq_ok reads
  obtain ⟨archived, second, third⟩ := bind_eq_ok reads
  have initial : ServiceSettings.Accepted {} :=
    { endpoint := fun address absent => nomatch absent
      timeout := by decide }
  have withEndpoint : addressed.Accepted := by
    refine overlay_keeps ServiceSettings.Accepted initial (fun text next set => ?_) first
    obtain ⟨address, accepted, rfl⟩ := map_eq_ok set
    refine ⟨fun other same => ⟨text, ?_⟩, initial.timeout⟩
    rw [← Option.mem_some_iff.mp same]
    exact accepted
  have withArchive : archived.Accepted := by
    refine overlay_keeps ServiceSettings.Accepted withEndpoint (fun text next set => ?_) second
    obtain ⟨kind, -, rfl⟩ := map_eq_ok set
    exact ⟨withEndpoint.endpoint, withEndpoint.timeout⟩
  refine overlay_keeps ServiceSettings.Accepted withArchive (fun text next set => ?_) third
  obtain ⟨seconds, accepted, rfl⟩ := map_eq_ok set
  exact ⟨withArchive.endpoint, timeout_pos accepted⟩

theorem isTrimmed_of_value? {ini : Ini} {sectionName key text : String}
    (found : value? ini sectionName key = some text) : IsTrimmed text := by
  obtain ⟨trimmed, filled⟩ := Option.filter_eq_some_iff.mp found
  obtain ⟨raw, -, rfl⟩ := Option.map_eq_some_iff.mp trimmed
  exact ⟨by simpa using filled, Text.trim_trim raw⟩

theorem holds_directory (usual : places.Usual) (ini : Ini) (sectionName : String)
    {otherwise : Path} (held : places.Holds otherwise) :
    places.Holds (((value? ini sectionName "directory").map places.expand).getD otherwise) := by
  cases found : value? ini sectionName "directory" with
  | none => exact held
  | some text => exact Places.holds_expand usual (isTrimmed_of_value? found).1

theorem accepted_of_readDownload (usual : places.Usual) {ini : Ini} {download : DownloadSettings}
    (reads : readDownload places ini = .ok download) :
    places.Holds download.directory ∧ 0 < download.timeoutSeconds := by
  have held := holds_directory usual ini "download" (Places.holds_downloadDirectory usual)
  unfold readDownload at reads
  refine overlay_keeps (fun download : DownloadSettings =>
    places.Holds download.directory ∧ 0 < download.timeoutSeconds)
    ⟨held, (by decide : (0 : UInt64) < 300)⟩ (fun text next set => ?_) reads
  obtain ⟨seconds, accepted, rfl⟩ := map_eq_ok set
  exact ⟨held, timeout_pos accepted⟩

theorem accepted_readHost (ini : Ini) : (readHost ini).Accepted where
  trimmed := by
    have read : ∀ key, ∀ text ∈ value? ini "host" key, IsTrimmed text :=
      fun key text found => isTrimmed_of_value? found
    have platform : ∀ name ∈ (readHost ini).platform, IsTrimmed name := by
      intro name same
      obtain ⟨text, found, rfl⟩ := Option.map_eq_some_iff.mp same
      obtain ⟨filled, trimmed⟩ := isTrimmed_of_value? found
      exact ⟨Text.lower_ne_empty filled, Text.trim_lower trimmed⟩
    simp only [HostSettings.values, List.forall_mem_cons]
    exact ⟨platform, read _, read _, read _, read _, read _, read _, fun value none => nomatch none⟩
  small name same := by
    obtain ⟨text, -, rfl⟩ := Option.map_eq_some_iff.mp same
    exact Text.lower_lower text

theorem accepted_of_parse (usual : places.Usual) {text : String} {settings : Settings}
    (parses : parse places text = .ok settings) : settings.Accepted places := by
  unfold parse at parses
  split at parses
  · next ini _ =>
      obtain ⟨service, readsService, parses⟩ := bind_eq_ok parses
      obtain ⟨download, readsDownload, parses⟩ := bind_eq_ok parses
      obtain rfl := Except.ok.inj parses
      have downloads := accepted_of_readDownload usual readsDownload
      exact {
        service := accepted_of_readService readsService
        cache := holds_directory usual ini "cache" (Places.holds_cacheDirectory usual)
        download := downloads.1
        downloadTimeout := downloads.2
        host := accepted_readHost ini
        log := holds_directory usual ini "logging" (Places.holds_logDirectory usual) }
  · cases parses

end Settings

end Courier
