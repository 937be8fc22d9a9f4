import Courier.Cache.Files
import Courier.Proofs.Digest.Names
import Courier.Proofs.Files.Below
import Courier.Proofs.Text.Utf8
/-!
The names of the files of the cache. A version can be read back from the name of its file, and a
resource is told from others by the digest that its directory is named for; no draft has the name
of a manifest, nor has the mark of a resource. Main statement: the encoding of versions is
injective, every manifest is one name in the directory of its resource, and no other file has the
name of a manifest.
-/

namespace Courier

theorem toNat_ofNat_of_plain {byte : UInt8} (plain : isPlainVersionByte byte = true) :
    (Char.ofNat byte.toNat).toNat = byte.toNat := by
  unfold isPlainVersionByte at plain
  simp only [Bool.and_eq_true, decide_eq_true_eq] at plain
  exact Utf8.toNat_ofNat_of_ascii plain.1

theorem plain_ne {byte : UInt8} {char : Char} (plain : isPlainVersionByte byte = true)
    (special : (char.isAlphanum || char == '.' || char == '-' || char == '+') = false) :
    Char.ofNat byte.toNat ≠ char := by
  intro same
  unfold isPlainVersionByte at plain
  dsimp only at plain
  rw [same, special, Bool.and_false] at plain
  cases plain

theorem encodeVersionByte_append_inj {left right : UInt8} {rest others : List Char}
    (same : encodeVersionByte left ++ rest = encodeVersionByte right ++ others) :
    left = right ∧ rest = others := by
  -- No byte stands for itself as an underscore, so the first character tells which kind it is.
  unfold encodeVersionByte at same
  by_cases plain : isPlainVersionByte left = true
  · by_cases plainer : isPlainVersionByte right = true
    · rw [if_pos plain, if_pos plainer] at same
      obtain ⟨first, later⟩ := List.cons.inj same
      refine ⟨UInt8.toNat_inj.mp ?_, later⟩
      rw [← toNat_ofNat_of_plain plain, ← toNat_ofNat_of_plain plainer, first]
    · rw [if_pos plain, if_neg plainer] at same
      exact absurd (List.cons.inj same).1 (plain_ne plain (by decide))
  · by_cases plainer : isPlainVersionByte right = true
    · rw [if_neg plain, if_pos plainer] at same
      exact absurd (List.cons.inj same).1.symm (plain_ne plainer (by decide))
    · rw [if_neg plain, if_neg plainer] at same
      obtain ⟨digits, later⟩ := List.append_inj (List.cons.inj same).2 rfl
      exact ⟨hexByte_inj digits, later⟩

theorem encodeVersionByte_ne_nil (byte : UInt8) : encodeVersionByte byte ≠ [] := by
  unfold encodeVersionByte
  split
  · exact List.cons_ne_nil _ _
  · exact List.cons_ne_nil _ _

theorem flatMap_encodeVersionByte_inj {left right : Bytes}
    (same : left.flatMap encodeVersionByte = right.flatMap encodeVersionByte) : left = right := by
  induction left generalizing right with
  | nil =>
      cases right with
      | nil => rfl
      | cons byte rest =>
          rw [List.flatMap_nil, List.flatMap_cons] at same
          exact absurd (List.append_eq_nil_iff.mp same.symm).1 (encodeVersionByte_ne_nil byte)
  | cons byte rest ih =>
      cases right with
      | nil =>
          rw [List.flatMap_nil, List.flatMap_cons] at same
          exact absurd (List.append_eq_nil_iff.mp same).1 (encodeVersionByte_ne_nil byte)
      | cons other others =>
          rw [List.flatMap_cons, List.flatMap_cons] at same
          obtain ⟨first, later⟩ := encodeVersionByte_append_inj same
          rw [first, ih later]

theorem encodeVersion_injective : Function.Injective encodeVersion := by
  intro left right same
  exact Utf8.encode_injective (flatMap_encodeVersionByte_inj (String.ofList_injective same))

/-- A letter or a digit of ASCII, or one of the four marks in encoded versions. -/
def isVersionChar (char : Char) : Bool :=
  char.isAlphanum || char == '.' || char == '-' || char == '+' || char == '_'

theorem isVersionChar_of_mem {version : String} {char : Char}
    (member : char ∈ (encodeVersion version).toList) : isVersionChar char = true := by
  have digits : ∀ digit ∈ hexDigits, isVersionChar digit = true :=
    List.all_iff_forall_prop.mp (by decide)
  unfold encodeVersion at member
  rw [String.toList_ofList] at member
  obtain ⟨byte, -, inside⟩ := List.mem_flatMap.mp member
  unfold encodeVersionByte at inside
  split at inside
  · next plain =>
      rw [List.mem_singleton.mp inside]
      unfold isPlainVersionByte at plain
      unfold isVersionChar
      rw [(Bool.and_eq_true_iff.mp plain).2, Bool.true_or]
  · rcases List.mem_cons.mp inside with underscore | digit
    · rw [underscore]
      decide
    · exact digits char (mem_hexDigits_of_mem_hexByte digit)

theorem isVersionChar_of_mem_append {version extension : String} {char : Char}
    (plain : ∀ other ∈ extension.toList, isVersionChar other = true)
    (member : char ∈ (encodeVersion version ++ extension).toList) : isVersionChar char = true := by
  rw [String.toList_append] at member
  rcases List.mem_append.mp member with encoded | extended
  · exact isVersionChar_of_mem encoded
  · exact plain char extended

theorem isName_of_isVersionChar {name : String} {last : Char} {limit : Nat}
    (ends : name.toList.getLast? = some last) (other : last ≠ '.')
    (plain : ∀ char ∈ name.toList, isVersionChar char = true)
    (short : name.utf8ByteSize ≤ limit) : IsName name limit :=
  isName_of_getLast? ends other (fun slash => absurd (plain '/' slash) (by decide))
    (fun nul => absurd (plain '\x00' nul) (by decide)) short

def manifestName (version : String) : String :=
  encodeVersion version ++ ".json"

/-- What the path of the draft of a version ends with. A name that is nothing but an extension has
none to lose, so that the empty version shares its draft with the version `.json`. The name of the
version `.` without its extension is two dots, and these get no other one. -/
def draftName (version : String) : String :=
  if version = "" then ".json.tmp"
  else if version = "." then ".."
  else encodeVersion version ++ ".tmp"

theorem toList_manifestName (version : String) :
    (manifestName version).toList = (encodeVersion version).toList ++ ['.', 'j', 's', 'o', 'n'] :=
  String.toList_append

theorem manifestName_injective : Function.Injective manifestName := by
  intro left right same
  have texts := congrArg String.toList same
  rw [toList_manifestName, toList_manifestName] at texts
  exact encodeVersion_injective (String.toList_inj.mp (List.append_cancel_right texts))

theorem toList_encodeVersion_ne_nil {version : String} (filled : version ≠ "") :
    (encodeVersion version).toList ≠ [] := by
  intro nothing
  apply filled
  apply encodeVersion_injective
  rw [String.toList_eq_nil_iff.mp nothing]
  rfl

theorem encodeVersion_ne_dot {version : String} (other : version ≠ ".") :
    encodeVersion version ≠ "." :=
  fun same => other (encodeVersion_injective same)

theorem draftName_of_ne {version : String} (filled : version ≠ "") (other : version ≠ ".") :
    draftName version = encodeVersion version ++ ".tmp" := by
  rw [draftName, if_neg filled, if_neg other]

theorem getLast?_manifestName (version : String) :
    (manifestName version).toList.getLast? = some 'n' := by
  rw [toList_manifestName, List.getLast?_append]
  rfl

theorem getLast?_draftName {version : String} (other : version ≠ ".") :
    (draftName version).toList.getLast? = some 'p' := by
  by_cases empty : version = ""
  · rw [empty]
    rfl
  · rw [draftName_of_ne empty other, String.toList_append, List.getLast?_append]
    rfl

theorem draftName_ne (draft version : String) : draftName draft ≠ manifestName version := by
  intro same
  have ends := getLast?_manifestName version
  rw [← same] at ends
  by_cases dot : draft = "."
  · rw [dot] at ends
    cases ends
  · rw [getLast?_draftName dot] at ends
    cases ends

theorem marker_ne (version : String) : "resource" ≠ manifestName version := by
  intro same
  have ends := getLast?_manifestName version
  rw [← same] at ends
  cases ends

theorem isName_manifestName {version : String} {limit : Nat}
    (short : (manifestName version).utf8ByteSize ≤ limit) :
    IsName (manifestName version) limit := by
  have plain : ∀ char ∈ ".json".toList, isVersionChar char = true :=
    List.all_iff_forall_prop.mp (by decide)
  exact isName_of_isVersionChar (getLast?_manifestName version) (by decide)
    (fun _ member => isVersionChar_of_mem_append plain member) short

theorem utf8ByteSize_draftName_le {version : String}
    (short : (manifestName version).utf8ByteSize ≤ FileSystem.nameLimit) :
    (draftName version).utf8ByteSize ≤ FileSystem.nameLimit := by
  unfold draftName
  split
  · decide
  split
  · decide
  · unfold manifestName at short
    rw [String.utf8ByteSize_append] at short ⊢
    have longer : ".tmp".utf8ByteSize ≤ ".json".utf8ByteSize := by decide
    omega

theorem isName_draftName_of_le {version : String} {limit : Nat} (other : version ≠ ".")
    (short : (draftName version).utf8ByteSize ≤ limit) : IsName (draftName version) limit := by
  have alone : ∀ char ∈ ".json.tmp".toList, isVersionChar char = true :=
    List.all_iff_forall_prop.mp (by decide)
  have behind : ∀ char ∈ ".tmp".toList, isVersionChar char = true :=
    List.all_iff_forall_prop.mp (by decide)
  refine isName_of_isVersionChar (getLast?_draftName other) (by decide) ?_ short
  intro char member
  by_cases empty : version = ""
  · rw [empty] at member
    exact alone char member
  · rw [draftName_of_ne empty other] at member
    exact isVersionChar_of_mem_append behind member

theorem isName_draftName {version : String} (other : version ≠ ".")
    (short : (manifestName version).utf8ByteSize ≤ FileSystem.nameLimit) :
    IsName (draftName version) :=
  isName_draftName_of_le other (utf8ByteSize_draftName_le short)

theorem isName_encodeVersion_dot {version : String} (filled : version ≠ "")
    (other : version ≠ ".") :
    IsName (encodeVersion version ++ ".") (encodeVersion version ++ ".").utf8ByteSize := by
  have plain : ∀ char ∈ (encodeVersion version ++ ".").toList, isVersionChar char = true :=
    fun _ member => isVersionChar_of_mem_append (List.all_iff_forall_prop.mp (by decide)) member
  have letters : (encodeVersion version ++ ".").toList = (encodeVersion version).toList ++ ['.'] :=
    String.toList_append
  constructor
  case filled =>
    intro nothing
    rw [nothing] at letters
    exact absurd letters.symm (by simp)
  case whole => exact fun slash => absurd (plain '/' slash) (by decide)
  case clean => exact fun nul => absurd (plain '\x00' nul) (by decide)
  case notHere =>
    intro here
    rw [here] at letters
    exact toList_encodeVersion_ne_nil filled (List.append_inj_left' letters.symm rfl)
  case notUp =>
    intro up
    rw [up] at letters
    exact encodeVersion_ne_dot other (String.toList_inj.mp (List.append_inj_left' letters.symm rfl))
  case short => exact Nat.le_refl _

theorem isName_marker : IsName "resource" := by
  constructor <;> decide

/-! ### The directories of resources -/

def resourcePrefix (resource : String) : Bytes :=
  (Sha2.sha256.digest (Utf8.encode resource)).take 16

theorem resourceDigest_inj {left right : String}
    (same : resourceDigest left = resourceDigest right) :
    resourcePrefix left = resourcePrefix right :=
  hexText_inj same

theorem length_resourcePrefix (resource : String) : (resourcePrefix resource).length = 16 := by
  unfold resourcePrefix
  rw [List.length_take, Sha2.length_digest]
  rfl

theorem utf8ByteSize_resourceDigest (resource : String) :
    (resourceDigest resource).utf8ByteSize = 32 := by
  have size := utf8ByteSize_hexText (resourcePrefix resource)
  rw [length_resourcePrefix] at size
  exact size

theorem isName_resourceDigest (resource : String) : IsName (resourceDigest resource) := by
  refine @isName_hexText (resourcePrefix resource) _ ?_ ?_
  · rw [length_resourcePrefix]
    decide
  · rw [length_resourcePrefix]
    decide

namespace FileCache

variable (cache : FileCache)

theorem manifestPath_eq (resource version : String) :
    cache.manifestPath resource version =
      (cache.resourceDirectory resource).join (manifestName version) := rfl

theorem withExtension_join_manifestName (base : Path) (version : String) :
    (base.join (manifestName version)).withExtension "tmp" = base.join (draftName version) := by
  have named : IsName (manifestName version) (manifestName version).utf8ByteSize :=
    isName_manifestName (Nat.le_refl _)
  unfold Path.withExtension
  by_cases empty : version = ""
  · subst empty
    have cut : (manifestName "").toList =
        ".json".toList ++ Path.extension (manifestName "").toList := by decide
    rw [Path.withoutExtension_join base named cut]
    exact Path.setExtension_join base named rfl
      (isName_draftName_of_le (by decide) (Nat.le_refl _)) (by decide)
  · by_cases dot : version = "."
    · subst dot
      have cut : (manifestName ".").toList =
          "..".toList ++ Path.extension (manifestName ".").toList := by decide
      rw [Path.withoutExtension_join base named cut]
      exact Path.setExtension_of_nameless (Path.fileName?_join_up base) _
    · have filled := toList_encodeVersion_ne_nil empty
      have cut : (manifestName version).toList = (encodeVersion version ++ ".").toList ++
          Path.extension (manifestName version).toList := by
        rw [toList_manifestName, Path.extension_append filled (by decide), String.toList_append,
          List.append_assoc]
        rfl
      rw [Path.withoutExtension_join base named cut]
      refine Path.setExtension_join base (isName_encodeVersion_dot empty dot) rfl
        (isName_draftName_of_le dot (Nat.le_refl _)) ?_
      rw [draftName_of_ne empty dot, String.toList_append, String.toList_append]
      exact congrArg (· ++ _) (Path.stem_append filled (by simp)).symm

/-- The draft stands beside the manifest, even if the name of one of them is too long, but for the
version `.`, which has the directory above in its place. -/
theorem draftPath_eq (resource version : String) :
    cache.draftPath resource version =
      (cache.resourceDirectory resource).join (draftName version) :=
  withExtension_join_manifestName _ version

theorem version_ne_of_createDraft {cache : FileCache} {resource version : String}
    {files after : FileSystem}
    (created : files.create (cache.draftPath resource version) = .ok after) : version ≠ "." := by
  intro dot
  rw [draftPath_eq, dot] at created
  exact FileSystem.create_join_up_ne_ok _ _ created

/-- The files that writes make in the directory of a resource. -/
inductive WrittenFile where
  | manifest (version : String)
  | draft (version : String)
  | marker
  deriving DecidableEq

def WrittenFile.name : WrittenFile → String
  | .manifest version => manifestName version
  | .draft version => draftName version
  | .marker => "resource"

def pathOf (resource : String) : WrittenFile → Path
  | .manifest version => cache.manifestPath resource version
  | .draft version => cache.draftPath resource version
  | .marker => cache.markerPath resource

theorem pathOf_eq (resource : String) (file : WrittenFile) :
    cache.pathOf resource file = (cache.resourceDirectory resource).join file.name := by
  cases file with
  | manifest version => rfl
  | draft version => exact cache.draftPath_eq resource version
  | marker => rfl

theorem WrittenFile.isName {file : WrittenFile} (other : file ≠ .draft ".") :
    IsName file.name file.name.utf8ByteSize := by
  cases file with
  | manifest version => exact isName_manifestName (Nat.le_refl _)
  | draft version =>
      exact isName_draftName_of_le (fun dot => other (congrArg _ dot)) (Nat.le_refl _)
  | marker => constructor <;> decide

theorem fileName?_pathOf (resource : String) (file : WrittenFile) :
    (cache.pathOf resource file).fileName? =
      if file = .draft "." then none else some file.name := by
  rw [pathOf_eq]
  split
  · next dot =>
      rw [dot]
      exact Path.fileName?_join_up _
  · next other => exact Path.fileName?_join _ (WrittenFile.isName other)

theorem components_draftPath (resource version : String) :
    (cache.draftPath resource version).components =
      (cache.resourceDirectory resource).components ++
        [if version = "." then .up else .name (draftName version)] := by
  rw [draftPath_eq]
  split
  · next dot =>
      rw [dot]
      exact Path.components_join
        (Path.join_ne_empty cache.root (isName_resourceDigest resource)) (by decide)
  · next other =>
      have named : IsName (draftName version) (draftName version).utf8ByteSize :=
        isName_draftName_of_le other (Nat.le_refl _)
      exact Path.components_join_of_isComponent _ (Path.isComponent_of_isName named)

theorem WrittenFile.name_eq_manifestName_iff (file : WrittenFile) (version : String) :
    file.name = manifestName version ↔ file = .manifest version := by
  cases file with
  | manifest other =>
      rw [WrittenFile.manifest.injEq]
      exact manifestName_injective.eq_iff
  | draft other =>
      refine ⟨fun same => absurd same (draftName_ne other version), fun same => ?_⟩
      cases same
  | marker =>
      refine ⟨fun same => absurd same (marker_ne version), fun same => ?_⟩
      cases same

/-- Versions can be told by how they are encoded, in letters and digits of ASCII and four marks.
Every manifest is one ordinary name in the directory of its resource, and so is every draft but that
of the version `.`, whose path ends in two dots. No other file has the name of a manifest: not
another version's manifest, not any draft, and not the marker. -/
theorem names_apart (resource : String) :
    Function.Injective encodeVersion ∧
      (∀ version, (encodeVersion version).toList.all isVersionChar = true) ∧
      (∀ version, (cache.manifestPath resource version).components =
        (cache.resourceDirectory resource).components ++ [.name (manifestName version)]) ∧
      (∀ version, (cache.draftPath resource version).components =
        (cache.resourceDirectory resource).components ++
          [if version = "." then .up else .name (draftName version)]) ∧
      ∀ (file : WrittenFile) (version : String),
        (cache.pathOf resource file).fileName? = some (manifestName version) ↔
          file = .manifest version := by
  refine ⟨encodeVersion_injective, fun version => ?_, fun version => ?_,
    cache.components_draftPath resource, fun file version => ?_⟩
  · rw [List.all_eq_true]
    exact fun char member => isVersionChar_of_mem member
  · have named : IsName (manifestName version) (manifestName version).utf8ByteSize :=
      isName_manifestName (Nat.le_refl _)
    exact Path.components_join_of_isComponent _ (Path.isComponent_of_isName named)
  · rw [fileName?_pathOf]
    split
    · next dot =>
        refine ⟨fun named => (nomatch named), fun same => ?_⟩
        rw [dot] at same
        cases same
    · rw [Option.some.injEq]
      exact file.name_eq_manifestName_iff version

end FileCache

end Courier
