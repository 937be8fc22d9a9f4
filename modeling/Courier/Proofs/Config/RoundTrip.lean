import Courier.Config.File
import Courier.Proofs.Config.Accepted
import Courier.Proofs.Files.Access
/-!
Settings that are saved and loaded again. What is written is read as it is written, unless a text
means more to the reader than it says, and what is read as it is written sets what was set before.
Main statement: accepted settings whose texts are plain are loaded as they were saved.
-/

namespace Courier

open IniLine

namespace Settings

variable {places : Places}

/-- Settings whose texts mean to the reader what they say. The writer writes every text as it is, so
one with a backslash, a line break, a quote in front or blanks around it is read otherwise, and an
endpoint that has lost its slashes is no endpoint any more. -/
structure Plain (places : Places) (settings : Settings) : Prop where
  endpoint : ∀ address ∈ settings.service.endpoint, IsVerbatim address ∧
    address ≠ "http:" ∧ address ≠ "https:"
  cache : IsVerbatim (places.shorten settings.cacheDirectory)
  download : IsVerbatim (places.shorten settings.download.directory)
  log : IsVerbatim (places.shorten settings.logDirectory)
  host : ∀ value ∈ settings.host.values, ∀ text ∈ value, IsPlain text

instance (settings : Settings) : Decidable (settings.Plain places) :=
  decidable_of_iff
    ((∀ address ∈ settings.service.endpoint, IsVerbatim address ∧
        address ≠ "http:" ∧ address ≠ "https:") ∧
      IsVerbatim (places.shorten settings.cacheDirectory) ∧
      IsVerbatim (places.shorten settings.download.directory) ∧
      IsVerbatim (places.shorten settings.logDirectory) ∧
      ∀ value ∈ settings.host.values, ∀ text ∈ value, IsPlain text)
    ⟨fun ⟨endpoint, cache, download, log, host⟩ => ⟨endpoint, cache, download, log, host⟩,
      fun plain => ⟨plain.endpoint, plain.cache, plain.download, plain.log, plain.host⟩⟩

theorem isVerbatim_getD {value : Option String} (verbatim : ∀ text ∈ value, IsVerbatim text) :
    IsVerbatim (value.getD "") := by
  cases value with
  | none => exact (by decide : IsVerbatim "")
  | some text => exact verbatim text rfl

def frame : List IniLine :=
  ((initial { home := ⟨"/"⟩ }).lines { home := ⟨"/"⟩ }).map IniLine.bare

theorem map_bare_lines (settings : Settings) :
    (settings.lines places).map IniLine.bare = frame := by
  simp only [frame, lines, serviceLines, hostLines, List.map_append, List.map_cons, List.map_nil,
    IniLine.bare]

theorem legible_frame : ∀ line ∈ frame, line.Legible := by
  decide +kernel

def values (places : Places) (settings : Settings) : List String :=
  [settings.service.endpoint.getD "", settings.service.archive.name,
    toString settings.service.timeoutSeconds.toNat, places.shorten settings.cacheDirectory,
    places.shorten settings.download.directory,
    toString settings.download.timeoutSeconds.toNat] ++
  settings.host.values.map (·.getD "") ++ [places.shorten settings.logDirectory]

theorem filterMap_lines (settings : Settings) :
    (settings.lines places).filterMap IniLine.value? = settings.values places := rfl

theorem verbatim_host {host : HostSettings} (accepted : host.Accepted)
    (plain : ∀ value ∈ host.values, ∀ text ∈ value, IsPlain text) :
    ∀ value ∈ host.values, IsVerbatim (value.getD "") := by
  intro value member
  refine isVerbatim_getD fun text same => ⟨plain value member text same, ?_⟩
  exact (accepted.trimmed value member text same).2

theorem verbatim_values {settings : Settings} (accepted : settings.Accepted places)
    (plain : settings.Plain places) : ∀ value ∈ settings.values places, IsVerbatim value := by
  simp only [values, List.forall_mem_append, List.forall_mem_cons, List.forall_mem_map,
    List.not_mem_nil, false_implies, implies_true, and_true]
  refine ⟨⟨⟨?_, isVerbatim_name _, isVerbatim_toString _, plain.cache, plain.download,
    isVerbatim_toString _⟩, verbatim_host accepted.host plain.host⟩, plain.log⟩
  exact isVerbatim_getD fun address same => (plain.endpoint address same).1

theorem legible_lines {settings : Settings} (accepted : settings.Accepted places)
    (plain : settings.Plain places) : ∀ line ∈ settings.lines places, line.Legible := by
  intro line member
  apply legible_of_bare
  · apply legible_frame
    rw [← map_bare_lines settings]
    exact List.mem_map_of_mem member
  · intro value found
    apply verbatim_values accepted plain
    rw [← filterMap_lines settings]
    exact List.mem_filterMap.mpr ⟨line, member, found⟩

def written (places : Places) (settings : Settings) : Ini :=
  ((settings.lines places).foldl Ini.Reading.take {}).ini

theorem read_text {settings : Settings} (accepted : settings.Accepted places)
    (plain : settings.Plain places) :
    Ini.read (settings.text places) = .ok (settings.written places) :=
  Ini.read_join (readsAs_of_legible (legible_lines accepted plain))

theorem value?_of_verbatim {ini : Ini} {sectionName key text : String}
    (found : (ini.section? sectionName).bind (·.get? key) = some text)
    (verbatim : IsVerbatim text) :
    value? ini sectionName key = (some text).filter (!·.isEmpty) := by
  unfold value?
  rw [found, Option.map_some, verbatim.trimmed]

theorem value?_of_filled {ini : Ini} {sectionName key text : String}
    (found : (ini.section? sectionName).bind (·.get? key) = some text)
    (verbatim : IsVerbatim text) (filled : text ≠ "") :
    value? ini sectionName key = some text := by
  rw [value?_of_verbatim found verbatim, Option.filter_some, if_pos (by simpa using filled)]

theorem value?_of_getD {ini : Ini} {sectionName key : String} {value : Option String}
    (found : (ini.section? sectionName).bind (·.get? key) = some (value.getD ""))
    (verbatim : IsVerbatim (value.getD "")) (filled : ∀ text ∈ value, text ≠ "") :
    value? ini sectionName key = value := by
  cases value with
  | none => exact value?_of_verbatim found verbatim
  | some text => exact value?_of_filled found verbatim (filled text rfl)

/-- The settings as they are found again: a directory may be spelled otherwise. -/
def again (places : Places) (settings : Settings) : Settings :=
  { settings with
    cacheDirectory := places.expand (places.shorten settings.cacheDirectory)
    download := { settings.download with
      directory := places.expand (places.shorten settings.download.directory) }
    logDirectory := places.expand (places.shorten settings.logDirectory) }

theorem same_again (usual : places.Usual) {settings : Settings}
    (accepted : settings.Accepted places) : (settings.again places).Same settings := by
  have cache := Places.expand_shorten accepted.cache.meant usual.home
  have download := Places.expand_shorten accepted.download.meant usual.home
  have log := Places.expand_shorten accepted.log.meant usual.home
  unfold Same again
  exact ⟨rfl, cache, download, rfl, rfl, log⟩

variable {settings : Settings}

theorem endpoint_again (accepted : settings.Accepted places) (plain : settings.Plain places)
    {address : String} (same : settings.service.endpoint = some address) :
    endpoint address = .ok address := by
  obtain ⟨text, once⟩ := accepted.service.endpoint address same
  exact endpoint_of_endpoint once (plain.endpoint address same).2

theorem readService_written (accepted : settings.Accepted places)
    (plain : settings.Plain places) :
    readService (settings.written places) = .ok settings.service := by
  have addressed : value? (settings.written places) "service" "endpoint" =
      settings.service.endpoint := by
    refine value?_of_getD rfl (isVerbatim_getD fun address same => (plain.endpoint address same).1)
      fun address same empty => ?_
    have once := endpoint_again accepted plain same
    rw [empty] at once
    cases once
  have archived : value? (settings.written places) "service" "archive" =
      some settings.service.archive.name :=
    value?_of_filled rfl (isVerbatim_name _) (by cases settings.service.archive <;> decide)
  have timed : value? (settings.written places) "service" "timeout" =
      some (toString settings.service.timeoutSeconds.toNat) :=
    value?_of_filled rfl (isVerbatim_toString _) (toString_ne_empty _)
  unfold readService
  simp only [addressed, archived, timed, overlay, archive_name,
    timeout_toString accepted.service.timeout, Except.map]
  cases given : settings.service.endpoint with
  | none =>
      simp only [bind, Except.bind]
      rw [← given]
  | some address =>
      simp only [endpoint_again accepted plain given, bind, Except.bind]
      rw [← given]

theorem readDownload_written (accepted : settings.Accepted places)
    (plain : settings.Plain places) :
    readDownload places (settings.written places) = .ok (settings.again places).download := by
  have spelled : value? (settings.written places) "download" "directory" =
      some (places.shorten settings.download.directory) :=
    value?_of_filled rfl plain.download (Places.shorten_ne_empty accepted.download.spelled)
  have timed : value? (settings.written places) "download" "timeout" =
      some (toString settings.download.timeoutSeconds.toNat) :=
    value?_of_filled rfl (isVerbatim_toString _) (toString_ne_empty _)
  unfold readDownload
  simp only [spelled, timed, overlay, timeout_toString accepted.downloadTimeout, Except.map]
  rfl

theorem readHost_written (accepted : settings.Accepted places) (plain : settings.Plain places) :
    readHost (settings.written places) = settings.host := by
  have verbatim := verbatim_host accepted.host plain.host
  have found : ∀ key, ∀ value ∈ settings.host.values,
      ((settings.written places).section? "host").bind (·.get? key) = some (value.getD "") →
      value? (settings.written places) "host" key = value :=
    fun key value member written => value?_of_getD written (verbatim value member)
      fun text same => (accepted.host.trimmed value member text same).1
  have lowered : settings.host.platform.map Text.lower = settings.host.platform := by
    cases given : settings.host.platform with
    | none => rfl
    | some name => exact congrArg some (accepted.host.small name given)
  simp only [HostSettings.values, List.mem_cons] at found
  unfold readHost
  dsimp only
  rw [found "platform" settings.host.platform (by simp) rfl, lowered,
    found "platform_version" settings.host.platformVersion (by simp) rfl,
    found "architecture" settings.host.architecture (by simp) rfl,
    found "instance_id" settings.host.instanceId (by simp) rfl,
    found "instance_type" settings.host.instanceType (by simp) rfl,
    found "region" settings.host.region (by simp) rfl,
    found "availability_zone" settings.host.availabilityZone (by simp) rfl]

theorem parse_text (accepted : settings.Accepted places) (plain : settings.Plain places) :
    parse places (settings.text places) = .ok (settings.again places) := by
  have cache : value? (settings.written places) "cache" "directory" =
      some (places.shorten settings.cacheDirectory) :=
    value?_of_filled rfl plain.cache (Places.shorten_ne_empty accepted.cache.spelled)
  have log : value? (settings.written places) "logging" "directory" =
      some (places.shorten settings.logDirectory) :=
    value?_of_filled rfl plain.log (Places.shorten_ne_empty accepted.log.spelled)
  unfold parse
  rw [read_text accepted plain]
  dsimp only
  unfold ofIni
  rw [readService_written accepted plain, readDownload_written accepted plain,
    readHost_written accepted plain]
  simp only [cache, log]
  rfl

/-! ### Saving and loading -/

variable {path : Path} {computer : Computer}

def store (places : Places) (settings : Settings) (path : Path) :
    ExceptT ConfigFault Machine Unit := do
  match ← outcome (FileSystem.access.write path (Utf8.encode (settings.text places))) with
  | .ok () => return
  | .error fault => throw (.unwritable fault)

theorem runFrom_store_again {others : Settings}
    (stores : (runFrom (others.store places path) computer).1 = .ok ()) (settings : Settings) :
    ∃ saved : Computer, runFrom (settings.store places path) computer = (.ok (), saved) ∧
      saved.files.read path = .ok (Utf8.encode (settings.text places)) := by
  unfold store at stores ⊢
  rw [runFrom_bind, runFrom_outcome] at stores ⊢
  have written : (runFrom ((FileSystem.access : FileAccess Machine).write path
      (Utf8.encode (others.text places))) computer).1 = .ok () := by
    dsimp only at stores
    split at stores
    · assumption
    · cases stores
  obtain ⟨made, created⟩ := FileSystem.create_of_runFrom_write written
  obtain ⟨files, writes, reads⟩ :=
    FileSystem.runFrom_write_of_create created (Utf8.encode (settings.text places))
  rw [writes]
  exact ⟨_, rfl, reads⟩

theorem runFrom_save_again {others : Settings}
    (saves : (runFrom (others.save FileSystem.access places path) computer).1 = .ok ())
    (settings : Settings) :
    ∃ saved : Computer, runFrom (settings.save FileSystem.access places path) computer =
      (.ok (), saved) ∧ saved.files.read path = .ok (Utf8.encode (settings.text places)) := by
  unfold save at saves ⊢
  cases above : path.parent? with
  | none =>
      rw [above] at saves
      exact runFrom_store_again saves settings
  | some parent =>
      rw [above] at saves
      dsimp only at saves ⊢
      rw [runFrom_bind, runFrom_outcome] at saves ⊢
      cases made : (runFrom ((FileSystem.access : FileAccess Machine).makeDirectories parent)
        computer).1 with
      | error fault =>
          rw [made] at saves
          cases saves
      | ok done =>
          rw [made] at saves
          exact runFrom_store_again saves settings

theorem dropMark_text (settings : Settings) :
    dropMark (settings.text places) = settings.text places := by
  obtain ⟨rest, begins⟩ : ∃ rest, (settings.text places).toList = '[' :: rest :=
    ⟨_, toList_join_cons (.heading "service") (settings.lines places).tail⟩
  unfold dropMark
  rw [begins]
  rfl

theorem runFrom_load_of_read {text : String}
    (reads : computer.files.read path = .ok (Utf8.encode text)) :
    runFrom (load FileSystem.access places path) computer =
      (parse places (dropMark text), computer) := by
  unfold load
  rw [runFrom_bind, runFrom_monadLift, FileSystem.stepFrom_present,
    FileSystem.present_of_read reads]
  dsimp only
  rw [if_pos rfl, runFrom_bind, runFrom_outcome, FileSystem.runFrom_readText_of_read reads]
  exact runFrom_ofExcept _ _

/-- Wherever settings can be saved, what is loaded is what their text is read as. -/
theorem load_of_save_of_parse {settings loaded : Settings}
    (writable : (runFrom ((initial places).save FileSystem.access places path) computer).1 =
      .ok ())
    (parses : parse places (settings.text places) = .ok loaded) :
    ∃ saved : Computer,
      runFrom (settings.save FileSystem.access places path) computer = (.ok (), saved) ∧
      runFrom (load FileSystem.access places path) saved = (.ok loaded, saved) := by
  obtain ⟨saved, saves, reads⟩ := runFrom_save_again writable settings
  refine ⟨saved, saves, ?_⟩
  rw [runFrom_load_of_read reads, dropMark_text, parses]

/-- Settings that were accepted, and whose texts are plain, are loaded as they were saved wherever
settings can be saved. -/
theorem load_of_save (usual : places.Usual) {text : String} {settings : Settings}
    (accepts : parse places text = .ok settings) (plain : settings.Plain places)
    (writable : (runFrom ((initial places).save FileSystem.access places path) computer).1 =
      .ok ()) :
    ∃ (saved : Computer) (loaded : Settings),
      runFrom (settings.save FileSystem.access places path) computer = (.ok (), saved) ∧
      runFrom (load FileSystem.access places path) saved = (.ok loaded, saved) ∧
      loaded.Same settings := by
  have accepted := accepted_of_parse usual accepts
  obtain ⟨saved, saves, loads⟩ := load_of_save_of_parse writable (parse_text accepted plain)
  exact ⟨saved, settings.again places, saves, loads, same_again usual accepted⟩

/-- Values of every kind, saved and loaded at a file in the root. -/
theorem load_of_save_values :
    let places : Places := { home := ⟨"/home/oracle"⟩ }
    let text := "[service]\nendpoint = https://east/\narchive = Repository\ntimeout = 10\n" ++
      "[cache]\ndirectory = ~/kept here\n[host]\nplatform = Ubuntu\nregion = us-east-1\n"
    let path : Path := ⟨"/config.ini"⟩
    ∃ (settings : Settings) (saved : Computer) (loaded : Settings),
      places.Usual ∧ parse places text = .ok settings ∧ settings.Plain places ∧
      runFrom (settings.save FileSystem.access places path) ({} : Computer) = (.ok (), saved) ∧
      runFrom (load FileSystem.access places path) saved = (.ok loaded, saved) ∧
      loaded.Same settings := by
  intro places text path
  let settings : Settings := {
    service := { endpoint := some "https://east", archive := .repository, timeoutSeconds := 10 }
    cacheDirectory := ⟨"/home/oracle/kept here"⟩
    download := { directory := places.downloadDirectory }
    host := { platform := some "ubuntu", region := some "us-east-1" }
    logDirectory := places.logDirectory }
  have usual : places.Usual := ⟨by decide +kernel, by decide +kernel⟩
  have accepts : parse places text = .ok settings := by decide +kernel
  have plain : settings.Plain places := by decide +kernel
  have writable : (runFrom ((initial places).save FileSystem.access places path)
      ({} : Computer)).1 = .ok () := by decide +kernel
  clear_value settings
  obtain ⟨saved, loaded, saves, loads, same⟩ := load_of_save usual accepts plain writable
  exact ⟨settings, saved, loaded, usual, accepts, plain, saves, loads, same⟩

def withRegion (settings : Settings) (region : String) : Settings :=
  { settings with host := { settings.host with region := some region } }

theorem lines_withRegion (settings : Settings) (region : String) :
    (settings.withRegion region).lines places =
      (settings.lines places).take 30 ++
        .entry "region" region :: (settings.lines places).drop 31 := rfl

theorem parse_text_withRegion {settings : Settings} {region meant : String}
    (reads : (IniLine.entry "region" region).ReadsAs (.entry "region" meant))
    (accepted : (settings.withRegion meant).Accepted places)
    (plain : (settings.withRegion meant).Plain places) :
    parse places ((settings.withRegion region).text places) =
      .ok ((settings.withRegion meant).again places) := by
  have legible := legible_lines accepted plain
  rw [lines_withRegion] at legible
  have read := Ini.read_join (readsAs_replace _ _ legible reads)
  rw [← lines_withRegion, ← lines_withRegion] at read
  have same : Ini.read ((settings.withRegion region).text places) =
      Ini.read ((settings.withRegion meant).text places) :=
    read.trans (read_text accepted plain).symm
  rw [← parse_text accepted plain]
  unfold parse
  rw [same]

/-- A backslash that an escape stood for is written as it is, and read as the beginning of an
escape. -/
theorem load_of_save_backslash :
    let places : Places := { home := ⟨"/home/oracle"⟩ }
    let path : Path := ⟨"/config.ini"⟩
    ∃ (settings : Settings) (saved : Computer) (loaded : Settings),
      parse places "[host]\nregion = us\\\\east\n" = .ok settings ∧
      runFrom (settings.save FileSystem.access places path) ({} : Computer) = (.ok (), saved) ∧
      runFrom (load FileSystem.access places path) saved = (.ok loaded, saved) ∧
      settings.host.region = some "us\\east" ∧ loaded.host.region = some "useast" ∧
      ¬loaded.Same settings := by
  intro places path
  have accepts : parse places "[host]\nregion = us\\\\east\n" =
      .ok ((initial places).withRegion "us\\east") := by decide +kernel
  have accepted : ((initial places).withRegion "useast").Accepted places :=
    accepted_of_parse ⟨by decide +kernel, by decide +kernel⟩
      (by decide +kernel : parse places "[host]\nregion = useast\n" = _)
  have plain : ((initial places).withRegion "useast").Plain places := by decide +kernel
  have writable : (runFrom ((initial places).save FileSystem.access places path)
      ({} : Computer)).1 = .ok () := by decide +kernel
  have region : (IniLine.entry "region" "us\\east").ReadsAs (.entry "region" "useast") := by
    have written : "us" ++ "\\" ++ 'e'.toString ++ "ast" = "us\\east" := by decide +kernel
    have meant : "us" ++ String.ofList (Ini.Reading.escaped 'e') ++ "ast" = "useast" := by
      decide +kernel
    have reads := readsAs_escape (by decide : IsWord "region") (by decide : IsVerbatim "us")
      (by decide : IsVerbatim "ast") (by decide) (by decide : 'e' ≠ 'x') (by decide)
    rwa [written, meant] at reads
  obtain ⟨saved, saves, loads⟩ := load_of_save_of_parse writable
    (parse_text_withRegion region accepted plain)
  refine ⟨_, saved, _, accepts, saves, loads, rfl, rfl, fun same => ?_⟩
  obtain ⟨-, -, -, -, hosts, -⟩ := same
  have regions : some "useast" = some "us\\east" := congrArg HostSettings.region hosts
  exact absurd regions (by decide)

end Settings

end Courier
