import Courier.Config.Basic
import Courier.Proofs.Config.Values
import Courier.Proofs.Files.Below
/-!
Directories as the settings hold them. A directory below the home is written with a tilde, and a
tilde is read as the home, so a directory that a text stands for is found again from what is written
for it. Main statement: for every home and every text, what is written for the directory that the
text stands for stands for the same directory, and has a tilde if and only if the directory is the
home or below it.
-/

namespace Courier

namespace Path

theorem isPrefixOf_join {base : Path} (spelled : base.text ≠ "") {rest : String}
    (relative : rest.toList.head? ≠ some '/') :
    base.components <+: (base.join rest).components := by
  rw [components_join spelled relative]
  exact List.prefix_append _ _

theorem join_ne_empty_of_relative {base : Path} (spelled : base.text ≠ "") {rest : String}
    (relative : rest.toList.head? ≠ some '/') : (base.join rest).text ≠ "" := by
  intro empty
  have nothing := toList_join_of_relative spelled relative
  rw [empty, dropLast_entrance spelled] at nothing
  simp at nothing

theorem isSome_after?_iff {base path : Path} :
    (base.after? path).isSome ↔ base.components <+: path.components := by
  rw [← List.isPrefixOf_iff_prefix]
  unfold after?
  split
  · next below =>
      refine iff_of_true ?_ below
      dsimp only
      split
      · rfl
      · rfl
  · next beside => exact iff_of_false (by simp) beside

theorem ne_empty_of_isAbsolute {path : Path} (absolute : path.isAbsolute = true) :
    path.text ≠ "" := by
  intro empty
  have first := head?_of_isAbsolute absolute
  rw [empty] at first
  cases first

theorem join_of_absolute (base : Path) {rest : String} (absolute : rest.toList.head? = some '/') :
    base.join rest = ⟨rest⟩ := by
  unfold join
  rw [absolute]
  rfl

end Path

namespace Places

variable {places : Places}

/-- Places as systems have them: a home, and temporary files that are not spelled as if below it. -/
structure Usual (places : Places) : Prop where
  home : places.home.text ≠ ""
  temporary : Text.after? "~/" places.downloadDirectory.text = none

/-- A directory that the settings can hold: if its text begins as if it were below the home, it
is. -/
structure Holds (places : Places) (directory : Path) : Prop where
  spelled : directory.text ≠ ""
  meant : Text.after? "~/" directory.text = none ∨ (places.home.after? directory).isSome

theorem holds_of_isPrefix {directory : Path} (spelled : directory.text ≠ "")
    (below : places.home.components <+: directory.components) : places.Holds directory :=
  ⟨spelled, .inr (Path.isSome_after?_iff.mpr below)⟩

theorem untilded_of_absolute {text : String} (absolute : text.toList.head? = some '/') :
    Text.after? "~/" text = none := by
  rw [← Option.not_isSome_iff_eq_none, Text.isSome_after?_iff]
  rintro ⟨rest, letters⟩
  rw [letters] at absolute
  cases absolute

/-- A text stands for a relative rest below the home, for a root and what is below it, or for what
it says itself. -/
theorem expand_cases (places : Places) (text : String) :
    (∃ rest : String, rest.toList.head? ≠ some '/' ∧ places.expand text = places.home.join rest) ∨
      (places.expand text).text.toList.head? = some '/' ∨
      Text.after? "~/" text = none ∧ places.expand text = ⟨text⟩ := by
  unfold expand
  cases tilde : Text.after? "~/" text with
  | none => exact .inr (.inr ⟨rfl, rfl⟩)
  | some rest =>
      by_cases absolute : rest.toList.head? = some '/'
      · right
        left
        dsimp only
        rw [Path.join_of_absolute places.home absolute]
        exact absolute
      · exact .inl ⟨rest, absolute, rfl⟩

theorem expand_ne_empty (spelled : places.home.text ≠ "") {text : String} (filled : text ≠ "") :
    (places.expand text).text ≠ "" := by
  rcases places.expand_cases text with ⟨rest, relative, same⟩ | rooted | ⟨-, same⟩
  · rw [same]
    exact Path.join_ne_empty_of_relative spelled relative
  · intro empty
    rw [empty] at rooted
    cases rooted
  · rw [same]
    exact filled

theorem meant_expand (spelled : places.home.text ≠ "") (text : String) :
    Text.after? "~/" (places.expand text).text = none ∨
      (places.home.after? (places.expand text)).isSome := by
  rcases places.expand_cases text with ⟨rest, relative, same⟩ | rooted | ⟨untilded, same⟩
  · rw [same]
    exact .inr (Path.isSome_after?_iff.mpr (Path.isPrefixOf_join spelled relative))
  · exact .inl (untilded_of_absolute rooted)
  · rw [same]
    exact .inl untilded

theorem holds_expand (usual : places.Usual) {text : String} (filled : text ≠ "") :
    places.Holds (places.expand text) :=
  ⟨expand_ne_empty usual.home filled, meant_expand usual.home text⟩

theorem after?_tilde (rest : String) : Text.after? "~/" ("~/" ++ rest) = some rest := by
  rw [Text.after?, String.toList_append, Text.dropFront?_append]
  exact congrArg some String.ofList_toList

theorem shorten_ne_empty {directory : Path} (spelled : directory.text ≠ "") :
    places.shorten directory ≠ "" := by
  unfold shorten
  split
  · intro empty
    have letters := congrArg String.toList empty
    rw [String.toList_append] at letters
    cases letters
  · exact spelled

section Meant

variable {directory : Path} (meant : Text.after? "~/" directory.text = none ∨
  (places.home.after? directory).isSome)

include meant

theorem isSome_after?_shorten_iff :
    (Text.after? "~/" (places.shorten directory)).isSome ↔
      places.home.components <+: directory.components := by
  rw [← Path.isSome_after?_iff]
  unfold shorten
  cases below : places.home.after? directory with
  | some rest =>
      dsimp only
      rw [after?_tilde]
      exact Iff.rfl
  | none =>
      rw [below] at meant
      dsimp only
      rw [meant.resolve_right (by simp)]
      exact Iff.rfl

theorem expand_shorten (spelled : places.home.text ≠ "") :
    (places.expand (places.shorten directory)).Same directory := by
  unfold shorten expand
  cases below : places.home.after? directory with
  | some rest =>
      dsimp only
      rw [after?_tilde]
      exact Path.same_join_after? spelled below
  | none =>
      rw [below] at meant
      dsimp only
      rw [meant.resolve_right (by simp)]
      rfl

end Meant

/-- Whatever text a directory is given by, what is written for the directory stands for the same
one, and it has a tilde exactly where the directory is the home or below it, as a path. -/
theorem expand_shorten_expand (spelled : places.home.text ≠ "") (text : String) :
    (places.expand (places.shorten (places.expand text))).Same (places.expand text) ∧
      ((Text.after? "~/" (places.shorten (places.expand text))).isSome ↔
        places.home.components <+: (places.expand text).components) :=
  ⟨expand_shorten (meant_expand spelled text) spelled,
    isSome_after?_shorten_iff (meant_expand spelled text)⟩

/-- Behind the tilde, the text names a root, and the directory is below the home nevertheless. -/
theorem expand_shorten_expand_rooted :
    let places : Places := { home := ⟨"/srv//ann/."⟩ }
    places.home.text ≠ "" ∧
      places.expand "~//srv/./ann//~/x/" = ⟨"/srv/./ann//~/x/"⟩ ∧
      places.shorten ⟨"/srv/./ann//~/x/"⟩ = "~/~/x" ∧
      (places.expand "~/~/x").Same ⟨"/srv/./ann//~/x/"⟩ ∧
      places.home.components <+: (Path.mk "/srv/./ann//~/x/").components := by
  intro places
  have spelled : places.home.text ≠ "" := by decide
  have expanded : places.expand "~//srv/./ann//~/x/" = ⟨"/srv/./ann//~/x/"⟩ := by decide +kernel
  have shortened : places.shorten ⟨"/srv/./ann//~/x/"⟩ = "~/~/x" := by decide +kernel
  obtain ⟨same, tilded⟩ := expand_shorten_expand spelled "~//srv/./ann//~/x/"
  rw [expanded, shortened] at same tilded
  exact ⟨spelled, expanded, shortened, same, tilded.mp (by decide)⟩

/-- A name that only begins as the home's does is not the home's. -/
example : shorten { home := ⟨"/srv/ann"⟩ } ⟨"/srv/anna/x"⟩ = "/srv/anna/x" := by decide +kernel

theorem below_join {base : Path}
    (below : base.text ≠ "" ∧ places.home.components <+: base.components) {rest : String}
    (relative : rest.toList.head? ≠ some '/') :
    (base.join rest).text ≠ "" ∧ places.home.components <+: (base.join rest).components :=
  ⟨Path.join_ne_empty_of_relative below.1 relative,
    below.2.trans (Path.isPrefixOf_join below.1 relative)⟩

theorem isName_program : IsName "pkgfetch" := by
  constructor <;> decide

theorem isName_manifests : IsName "manifests" := by
  constructor <;> decide

theorem cacheBase_cases (places : Places) :
    (places.cacheBase ∈ places.caches ∧ places.cacheBase.isAbsolute = true) ∨
      places.cacheBase = places.home.join ".cache" := by
  unfold cacheBase
  cases given : places.caches.filter Path.isAbsolute with
  | none => exact .inr rfl
  | some base => exact .inl (Option.mem_filter_iff.mp given)

theorem holds_of_isAbsolute {directory : Path} (absolute : directory.isAbsolute = true) :
    places.Holds directory where
  spelled := Path.ne_empty_of_isAbsolute absolute
  meant := .inl (untilded_of_absolute (Path.head?_of_isAbsolute absolute))

theorem holds_cacheDirectory (usual : places.Usual) : places.Holds places.cacheDirectory := by
  rcases places.cacheBase_cases with ⟨-, absolute⟩ | below
  · apply holds_of_isAbsolute
    rw [cacheDirectory, Path.isAbsolute_join _ isName_manifests,
      Path.isAbsolute_join _ isName_program]
    exact absolute
  · have cache := below_join ⟨usual.home, List.prefix_refl _⟩
      (by decide : ".cache".toList.head? ≠ some '/')
    have program := below_join cache (by decide : "pkgfetch".toList.head? ≠ some '/')
    have manifests := below_join program (by decide : "manifests".toList.head? ≠ some '/')
    rw [cacheDirectory, below]
    exact holds_of_isPrefix manifests.1 manifests.2

theorem holds_logDirectory (usual : places.Usual) : places.Holds places.logDirectory := by
  have program := below_join ⟨usual.home, List.prefix_refl _⟩
    (by decide : ".pkgfetch".toList.head? ≠ some '/')
  have logs := below_join program (by decide : "logs".toList.head? ≠ some '/')
  exact holds_of_isPrefix logs.1 logs.2

theorem isName_downloads : IsName "pkgfetch-downloads" := by
  constructor <;> decide

theorem holds_downloadDirectory (usual : places.Usual) :
    places.Holds places.downloadDirectory :=
  ⟨Path.join_ne_empty places.temporary isName_downloads, .inl usual.temporary⟩

end Places

end Courier
