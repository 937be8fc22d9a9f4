import Courier.Proofs.Config.RoundTrip
import Mathlib.Data.Bool.AllAny
/-!
The initial settings as a text. Their directories are below the home, or below one that the system
names, which may itself be below the home. What is written for a directory leaves out the home, so
the characters of the home never stand in the text. Main statement: whatever the home is, the text
of the initial settings is read as the initial settings.
-/

namespace Courier

open IniLine

namespace IniLine

/-- Characters of which none begins an escape or ends a line. -/
def Unbroken (chars : List Char) : Prop :=
  ∀ char ∈ chars, char ≠ '\\' ∧ char ≠ '\n' ∧ char ≠ '\r'

instance (chars : List Char) : Decidable (Unbroken chars) :=
  decidable_of_iff _ List.all_iff_forall_prop

theorem unbroken_append {front rest : List Char} :
    Unbroken (front ++ rest) ↔ Unbroken front ∧ Unbroken rest :=
  List.forall_mem_append

theorem isVerbatim_of_ends {text : String} {first : Char} (whole : Unbroken text.toList)
    (begins : text.toList.head? = some first)
    (unquoted : Text.isBlank first = false ∧ first ≠ '"' ∧ first ≠ '\'')
    (ends : ∀ last, text.toList.getLast? = some last → Text.isBlank last = false) :
    IsVerbatim text := by
  refine ⟨⟨whole, fun char start => ?_⟩, Text.trim_eq_self fun char outer => ?_⟩
  · rw [← Option.some.inj (begins.symm.trans start)]
    exact unquoted.2
  · rcases outer with start | last
    · rw [← Option.some.inj (begins.symm.trans start)]
      exact unquoted.1
    · exact ends char last

end IniLine

namespace Path

theorem unbroken_entrance {base : Path} (whole : Unbroken base.text.toList) :
    Unbroken base.entrance := by
  unfold entrance
  split
  · exact List.forall_mem_nil _
  · split
    · exact whole
    · exact unbroken_append.mpr ⟨whole, by decide⟩

end Path

namespace Places

variable {places : Places}

/-- Places whose initial settings can be written. The home may have any characters; a directory
that the system names is absolute, without backslashes and line breaks. -/
structure Legible (places : Places) : Prop where
  home : places.home.text ≠ ""
  absolute : places.temporary.isAbsolute = true
  whole : Unbroken places.temporary.text.toList
  caches : ∀ base ∈ places.caches, base.isAbsolute = true → Unbroken base.text.toList

/-- Where the system names none, every home will do. -/
theorem legible_of_home {home : Path} (spelled : home.text ≠ "") : Legible { home } where
  home := spelled
  absolute := (by decide : (⟨"/tmp"⟩ : Path).isAbsolute = true)
  whole := (by decide : Unbroken "/tmp".toList)
  caches := fun _ absent => nomatch absent

theorem shorten_join (spelled : places.home.text ≠ "") {rest : String}
    (relative : rest.toList.head? ≠ some '/')
    (counted : ∀ text ∈ Text.pieces (· == '/') rest.toList, (Path.innerPiece text).counts = true) :
    places.shorten (places.home.join rest) = "~/" ++ rest := by
  unfold shorten
  rw [Path.after?_join spelled relative counted]

theorem shorten_cacheDirectory (spelled : places.home.text ≠ "")
    (below : places.cacheBase = places.home.join ".cache") :
    places.shorten places.cacheDirectory = "~/.cache/pkgfetch/manifests" := by
  have cache : IsName ".cache" := by
    constructor <;> decide
  have whole : places.cacheDirectory = places.home.join ".cache/pkgfetch/manifests" := by
    rw [cacheDirectory, below,
      Path.join_join (Path.join_ne_empty _ cache) isName_program (by decide),
      Path.join_join spelled cache (by decide)]
    rfl
  rw [whole]
  exact shorten_join spelled (by decide) (by decide)

theorem shorten_logDirectory (spelled : places.home.text ≠ "") :
    places.shorten places.logDirectory = "~/.pkgfetch/logs" := by
  have program : IsName ".pkgfetch" := by
    constructor <;> decide
  have whole : places.logDirectory = places.home.join ".pkgfetch/logs" :=
    Path.join_join spelled program (by decide)
  rw [whole]
  exact shorten_join spelled (by decide) (by decide)

section Joined

variable {base : Path} {name : String} (named : IsName name) (unbroken : Unbroken name.toList)
  (whole : Unbroken base.text.toList)

include named unbroken whole

theorem unbroken_join : Unbroken (base.join name).text.toList := by
  rw [Path.toList_join _ named.whole]
  exact unbroken_append.mpr ⟨Path.unbroken_entrance whole, unbroken⟩

/-- What is joined to an absolute directory is written as it is or, if it is below the home, by
its end. -/
theorem isVerbatim_shorten_join (spelled : places.home.text ≠ "")
    (absolute : base.isAbsolute = true) {final : Char} (ends : name.toList.getLast? = some final)
    (shown : Text.isBlank final = false) :
    IsVerbatim (places.shorten (base.join name)) := by
  have rooted : (base.join name).isAbsolute = true :=
    (Path.isAbsolute_join base named).trans absolute
  have letters := unbroken_join named unbroken whole
  have closed : ∀ last, (base.join name).text.toList.getLast? = some last →
      Text.isBlank last = false := by
    intro last closes
    rw [Path.toList_join _ named.whole,
      List.getLast?_append_of_ne_nil _ named.toList_ne_nil, ends] at closes
    rw [← Option.some.inj closes]
    exact shown
  unfold shorten
  cases below : places.home.after? (base.join name) with
  | none =>
      exact isVerbatim_of_ends letters (Path.head?_of_isAbsolute rooted) (by decide) closed
  | some rest =>
      have counts : ∀ piece, (base.join name).pieces.getLast? = some piece →
          piece.counts = true := by
        intro piece last
        obtain ⟨front, cut, -⟩ := Path.pieces_join base named
        rw [cut, List.getLast?_concat] at last
        obtain rfl := Option.some.inj last
        rfl
      obtain ⟨front, split⟩ := Path.isSuffix_of_after? spelled counts below
      rw [← split] at letters closed
      have tilded : ("~/" ++ rest.text).toList = ['~', '/'] ++ rest.text.toList :=
        String.toList_append
      refine isVerbatim_of_ends ?_ (by rw [tilded]; rfl)
        (by decide : Text.isBlank '~' = false ∧ '~' ≠ '"' ∧ '~' ≠ '\'') ?_
      · rw [tilded]
        exact unbroken_append.mpr ⟨by decide, (unbroken_append.mp letters).2⟩
      · rw [tilded]
        intro last closes
        -- The rest is empty where the directory is the home itself.
        by_cases nothing : rest.text.toList = []
        · rw [nothing] at closes
          obtain rfl := Option.some.inj closes
          decide
        · rw [List.getLast?_append_of_ne_nil _ nothing] at closes closed
          exact closed last closes

end Joined

theorem isVerbatim_shorten_cacheDirectory (legible : places.Legible) :
    IsVerbatim (places.shorten places.cacheDirectory) := by
  rcases places.cacheBase_cases with ⟨given, absolute⟩ | below
  · have whole := unbroken_join isName_program (by decide)
      (legible.caches places.cacheBase given absolute)
    exact isVerbatim_shorten_join isName_manifests (by decide) whole legible.home
      ((Path.isAbsolute_join _ isName_program).trans absolute)
      (by decide : "manifests".toList.getLast? = some 's') (by decide)
  · rw [shorten_cacheDirectory legible.home below]
    decide

theorem Legible.usual (legible : places.Legible) : places.Usual where
  home := legible.home
  temporary := untilded_of_absolute (Path.head?_of_isAbsolute
    ((Path.isAbsolute_join places.temporary isName_downloads).trans legible.absolute))

example : shorten { home := ⟨"/tmp"⟩ } (downloadDirectory { home := ⟨"/tmp"⟩ }) =
    "~/pkgfetch-downloads" := by decide +kernel

end Places

namespace Settings

variable {places : Places}

theorem parse_empty : parse places "" = .ok (initial places) := by
  have read : Ini.read "" = .ok { sections := [{ name := none, entries := [] }] } := by
    decide +kernel
  unfold parse
  rw [read]
  rfl

theorem plain_initial (legible : places.Legible) : (initial places).Plain places where
  endpoint := fun address absent => nomatch absent
  cache := Places.isVerbatim_shorten_cacheDirectory legible
  download := Places.isVerbatim_shorten_join Places.isName_downloads (by decide) legible.whole
    legible.home legible.absolute (by decide : "pkgfetch-downloads".toList.getLast? = some 's')
    (by decide)
  log := by
    change IsVerbatim (places.shorten places.logDirectory)
    rw [Places.shorten_logDirectory legible.home]
    decide
  host := by
    intro value member text given
    have unset : ∀ value ∈ HostSettings.values {}, value = none := by decide
    rw [unset value member] at given
    cases given

theorem parse_text_initial (legible : places.Legible) :
    ∃ loaded, parse places ((initial places).text places) = .ok loaded ∧
      loaded.Same (initial places) := by
  have accepted := accepted_of_parse legible.usual parse_empty
  exact ⟨_, parse_text accepted (plain_initial legible), same_again legible.usual accepted⟩

section Load

variable {path : Path} {computer : Computer}

theorem runFrom_load_of_absent (absent : computer.files.present path = false) :
    runFrom (load FileSystem.access places path) computer = (.ok (initial places), computer) := by
  unfold load
  rw [runFrom_bind, runFrom_monadLift, FileSystem.stepFrom_present, absent]
  rfl

theorem load_initial (legible : places.Legible)
    (reads : computer.files.read path = .ok (Utf8.encode ((initial places).text places))) :
    ∃ loaded, runFrom (load FileSystem.access places path) computer = (.ok loaded, computer) ∧
      loaded.Same (initial places) := by
  obtain ⟨loaded, parses, same⟩ := parse_text_initial legible
  refine ⟨loaded, ?_, same⟩
  rw [runFrom_load_of_read reads, dropMark_text, parses]

end Load

end Settings

end Courier
