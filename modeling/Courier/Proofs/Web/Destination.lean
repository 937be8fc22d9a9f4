import Courier.Proofs.Digest.Names
import Courier.Proofs.Files.Below
import Courier.Web.Destination
import Mathlib.Data.Set.Function
/-!
Where downloads may be put. Whatever is in an address, the name that is taken from it is one
component of a path, and the name of the directory in front of it is a digest. Main statement: a
destination is two names below the download directory, as a path and wherever it leads in a file
system, and addresses whose digests begin differently have destinations of which none is, or lies
below, another.
-/

namespace Courier

theorem bare_of_mem_addressPlace {address : String} {char : Char}
    (member : char ∈ addressPlace address) : char ≠ '?' ∧ char ≠ '#' := by
  have bare : ∀ other ∈ address.toList.takeWhile (fun char => char != '?' && char != '#'),
      other ≠ '?' ∧ other ≠ '#' := by
    intro other inside
    simpa using List.all_eq_true.mp List.all_takeWhile other inside
  unfold addressPlace at member
  dsimp only at member
  split at member
  · next scheme place cut =>
      refine bare char ?_
      rw [Text.eq_append_of_cut? cut]
      exact List.mem_append_right _ member
  · exact bare char member

/-- A file name in an address: an ordinary component without anything of a query or a fragment. -/
structure IsAddressName (name : String) : Prop extends Path.IsComponent name where
  bare : ∀ char ∈ name.toList, char ≠ '?' ∧ char ≠ '#'

theorem isAddressName_fallback : IsAddressName fallbackFileName where
  filled := by decide
  whole := by decide
  notHere := by decide
  notUp := by decide
  bare := List.all_iff_forall_prop.mp (by decide)

theorem isAddressName_of_isFileName {address : String} {name : List Char}
    (piece : name ∈ Text.pieces (· == '/') (addressPlace address))
    (usable : isFileName name = true) : IsAddressName (String.ofList name) := by
  simp only [isFileName, Bool.and_eq_true, Bool.not_eq_true', bne_iff_ne] at usable
  obtain ⟨⟨filled, notHere⟩, notUp⟩ := usable
  constructor
  case toIsComponent =>
    constructor
    case filled =>
      intro empty
      have none : name = [] := by simpa using congrArg String.toList empty
      rw [none] at filled
      cases filled
    case whole =>
      rw [String.toList_ofList]
      intro slash
      have inside := Text.test_of_mem_pieces piece '/' slash
      cases inside
    case notHere =>
      intro same
      exact notHere (by simpa using congrArg String.toList same)
    case notUp =>
      intro same
      exact notUp (by simpa using congrArg String.toList same)
  case bare =>
    rw [String.toList_ofList]
    exact fun char inside => bare_of_mem_addressPlace (Text.mem_of_mem_pieces piece char inside)

theorem isAddressName_fileNameOfUrl (address : String) :
    IsAddressName (fileNameOfUrl address) := by
  unfold fileNameOfUrl
  split
  · next name last =>
      split
      · next usable =>
          have piece := List.mem_of_mem_tail (List.mem_of_getLast? last)
          exact isAddressName_of_isFileName piece usable
      · exact isAddressName_fallback
  · exact isAddressName_fallback

def addressPrefix (address : String) : Bytes :=
  (Sha2.sha256.digest (Utf8.encode address)).take 8

theorem length_addressPrefix (address : String) : (addressPrefix address).length = 8 := by
  rw [addressPrefix, List.length_take, Sha2.length_digest]
  rfl

theorem isName_urlDigest (address : String) : IsName (urlDigest address) := by
  have eight := length_addressPrefix address
  have filled : 0 < (addressPrefix address).length := by omega
  have short : 2 * (addressPrefix address).length ≤ FileSystem.nameLimit := by
    rw [eight]
    decide
  exact isName_hexText filled short

theorem components_destination (directory : Path) (address : String) :
    (destination directory address).components =
      directory.components ++ [.name (urlDigest address), .name (fileNameOfUrl address)] := by
  have named := (isAddressName_fileNameOfUrl address).toIsComponent
  have digits := Path.isComponent_of_isName (isName_urlDigest address)
  unfold destination
  rw [Path.components_join_of_isComponent _ named, Path.components_join_of_isComponent _ digits,
    List.append_assoc]
  rfl

theorem place_of_destination {system : FileSystem} {directory : Path} {address : String}
    {place : Place}
    (leads : system.locate (destination directory address).text.toList = .ok place) :
    ∃ above, system.enter directory = .ok above ∧
      place = above ++ [urlDigest address, fileNameOfUrl address] := by
  have house := isName_urlDigest address
  have single := (isAddressName_fileNameOfUrl address).toIsComponent
  have clean : '\x00' ∉ (fileNameOfUrl address).toList := by
    intro nul
    have spelled := Path.toList_join_of_relative (Path.join_ne_empty directory house)
      fun first => single.whole (List.mem_of_mem_head? first)
    have dirty : '\x00' ∈ (destination directory address).text.toList := by
      rw [destination, spelled]
      exact List.mem_append_right _ nul
    rw [FileSystem.locate, if_pos dirty] at leads
    cases leads
  have named : IsName (fileNameOfUrl address) (fileNameOfUrl address).utf8ByteSize :=
    ⟨single.filled, single.whole, clean, single.notHere, single.notUp, Nat.le_refl _⟩
  obtain ⟨inner, enters, -, rfl⟩ := FileSystem.locate_join_eq_ok named leads
  obtain ⟨above, reached, -, rfl⟩ := FileSystem.enter_join_eq_ok house enters
  exact ⟨above, reached, List.append_assoc _ _ _⟩

/-- What the destination of an address is made of. -/
structure Destined (directory : Path) (address : String) : Prop where
  name : IsAddressName (fileNameOfUrl address)
  digits : ∀ char ∈ (urlDigest address).toList, char ∈ hexDigits
  digitCount : (urlDigest address).length = 16
  components : (destination directory address).components =
    directory.components ++ [.name (urlDigest address), .name (fileNameOfUrl address)]
  inside : ∀ (system : FileSystem) (place : Place),
    system.locate (destination directory address).text.toList = .ok place →
    ∃ above, system.enter directory = .ok above ∧
      place = above ++ [urlDigest address, fileNameOfUrl address]

theorem destined (directory : Path) (address : String) : Destined directory address where
  name := isAddressName_fileNameOfUrl address
  digits _ member := mem_hexDigits_of_mem_hexText member
  digitCount := by
    rw [urlDigest, Sha2.length_hexText]
    exact congrArg (2 * ·) (length_addressPrefix address)
  components := components_destination directory address
  inside _ _ leads := place_of_destination leads

theorem addressPrefix_eq_of_isPrefix {directory : Path} {left right : String}
    (below : (destination directory left).components <+:
      (destination directory right).components) : addressPrefix left = addressPrefix right := by
  rw [components_destination, components_destination, List.prefix_append_right_inj] at below
  have same := below.eq_of_length (by simp only [List.length_cons, List.length_nil])
  have digests : urlDigest left = urlDigest right := Path.Component.name.inj (List.cons.inj same).1
  exact hexText_inj digests

/-- Downloads stay below the download directory, each in a directory that is named by sixteen digits
of its address's digest, and addresses with different digits have destinations of which none is, or
lies below, another. -/
theorem destinations_apart (directory : Path) (addresses : Set String)
    (apart : addresses.InjOn addressPrefix) :
    (∀ address, Destined directory address) ∧
      addresses.Pairwise fun left right =>
        ¬(destination directory left).Same (destination directory right) ∧
        ¬(destination directory left).components <+:
          (destination directory right).components := by
  refine ⟨destined directory, fun left inLeft right inRight other => ?_⟩
  have differ : ¬(destination directory left).components <+:
      (destination directory right).components := by
    intro below
    exact other (apart inLeft inRight (addressPrefix_eq_of_isPrefix below))
  refine ⟨fun same => ?_, differ⟩
  have equal : (destination directory left).components =
    (destination directory right).components := same
  rw [equal] at differ
  exact differ (List.prefix_refl _)

/-- Two addresses whose paths and queries step up, so that neither has a name of its own. -/
theorem destinations_apart_steps_up :
    let first := "https://a.test/x/..?of=://b/../passwd"
    let second := "https://a.test/..#/../passwd"
    Set.InjOn addressPrefix {first, second} ∧
      fileNameOfUrl first = fileNameOfUrl second ∧
      ¬(destination ⟨"/tmp"⟩ first).components <+: (destination ⟨"/tmp"⟩ second).components := by
  have differ : addressPrefix "https://a.test/x/..?of=://b/../passwd" ≠
      addressPrefix "https://a.test/..#/../passwd" := by decide +kernel
  have unnamed : fileNameOfUrl "https://a.test/x/..?of=://b/../passwd" =
      fileNameOfUrl "https://a.test/..#/../passwd" := by decide +kernel
  intro first second
  have apart : Set.InjOn addressPrefix {first, second} := by
    rintro left (rfl | rfl) right (rfl | rfl) same
    · rfl
    · exact absurd same differ
    · exact absurd same.symm differ
    · rfl
  have others : first ≠ second := fun same => differ (congrArg addressPrefix same)
  obtain ⟨-, pairwise⟩ := destinations_apart ⟨"/tmp"⟩ {first, second} apart
  exact ⟨apart, unnamed, (pairwise (.inl rfl) (.inr rfl) others).2⟩

end Courier
