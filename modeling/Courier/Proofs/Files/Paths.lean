import Courier.Proofs.Files.Nodes
import Courier.Proofs.Text.Pieces
/-!
Paths that are joined from a base and a name. Such a path leads first to where the base leads and
then on to the name, whatever the base looks like, so that what one name below a base tells about
the base holds for every other name. Main statements: where a joined path leads, and what becomes of
it when its extension is replaced.
-/

namespace Courier

/-- A text that can be the name of a file and stands for nothing else in a path. The limit is that
of the file system, unless names that are too long for it matter. -/
structure IsName (name : String) (limit : Nat := FileSystem.nameLimit) : Prop where
  filled : name ≠ ""
  whole : '/' ∉ name.toList
  clean : '\x00' ∉ name.toList
  notHere : name ≠ "."
  notUp : name ≠ ".."
  short : name.utf8ByteSize ≤ limit

namespace IsName

variable {name : String} {limit : Nat}

theorem toList_ne_nil (named : IsName name limit) : name.toList ≠ [] := by
  intro empty
  exact named.filled (String.toList_eq_nil_iff.mp empty)

theorem toList_ne_here (named : IsName name limit) : name.toList ≠ ['.'] := by
  intro same
  exact named.notHere (String.toList_inj.mp same)

theorem toList_ne_up (named : IsName name limit) : name.toList ≠ ['.', '.'] := by
  intro same
  exact named.notUp (String.toList_inj.mp same)

theorem ne_slash (named : IsName name limit) {char : Char} (member : char ∈ name.toList) :
    char ≠ '/' := by
  intro slash
  rw [slash] at member
  exact named.whole member

theorem head?_toList (named : IsName name limit) : (name.toList.head? == some '/') = false := by
  cases spelled : name.toList with
  | nil => rfl
  | cons first rest =>
      have differ : first ≠ '/' := named.ne_slash (by rw [spelled]; exact List.mem_cons_self)
      simpa using differ

end IsName

namespace Path

variable {limit longest : Nat}

/-- What stands in front of a name that is joined to the path. -/
def entrance (base : Path) : List Char :=
  if base.text = "" then []
  else if base.text.toList.getLast? = some '/' then base.text.toList
  else base.text.toList ++ ['/']

theorem toList_join (base : Path) {name : String} (whole : '/' ∉ name.toList) :
    (base.join name).text.toList = base.entrance ++ name.toList := by
  have relative : (name.toList.head? == some '/') = false := by
    simpa using fun first => whole (List.mem_of_mem_head? first)
  have empty : base.text.toList.isEmpty = decide (base.text = "") := by
    rw [Bool.eq_iff_iff]
    simp [String.toList_eq_nil_iff]
  unfold join entrance
  simp only [relative, Bool.false_or, empty, decide_eq_true_eq, beq_iff_eq]
  split
  · simp
  · split
    · simp
    · simp [String.toList_append]

def way (base : Path) : List (List Char) :=
  if base.text = "" then [] else Text.pieces (· == '/') base.entrance.dropLast

theorem dropLast_entrance {base : Path} (spelled : base.text ≠ "") :
    base.entrance = base.entrance.dropLast ++ ['/'] := by
  unfold entrance
  rw [if_neg spelled]
  split
  · next slash =>
      obtain ⟨front, same⟩ := List.getLast?_eq_some_iff.mp slash
      rw [same, List.dropLast_concat]
  · rw [List.dropLast_concat]

theorem pieces_of_whole {name : String} (whole : '/' ∉ name.toList) :
    Text.pieces (· == '/') name.toList = [name.toList] := by
  refine Text.pieces_eq_singleton fun char member => ?_
  have other : char ≠ '/' := fun slash => whole (slash ▸ member)
  simpa using other

theorem pieces_toList_join (base : Path) {name : String} (whole : '/' ∉ name.toList) :
    Text.pieces (· == '/') (base.join name).text.toList = base.way ++ [name.toList] := by
  rw [toList_join base whole]
  unfold way
  split
  · next empty =>
      have nothing : base.entrance = [] := if_pos empty
      rw [nothing]
      exact pieces_of_whole whole
  · next spelled =>
      rw [dropLast_entrance spelled, List.append_assoc, List.singleton_append,
        Text.pieces_append_cons (by simp), pieces_of_whole whole, List.dropLast_concat]

theorem head?_toList_join (base : Path) {name : String} (named : IsName name limit) :
    ((base.join name).text.toList.head? == some '/') = (base.text.toList.head? == some '/') := by
  rw [toList_join base named.whole]
  unfold entrance
  split
  · next empty =>
      rw [empty]
      exact named.head?_toList
  · next filled =>
      cases spelled : base.text.toList with
      | nil => exact absurd (String.toList_eq_nil_iff.mp spelled) filled
      | cons first rest =>
          split
          · rfl
          · rfl

theorem getLast?_toList_join (base : Path) {name : String} (named : IsName name limit) :
    (base.join name).text.toList.getLast? ≠ some '/' := by
  rw [toList_join base named.whole, List.getLast?_append]
  cases last : name.toList.getLast? with
  | none => exact absurd (List.getLast?_eq_none_iff.mp last) named.toList_ne_nil
  | some char =>
      intro slash
      exact named.ne_slash (List.mem_of_getLast? last) (Option.some.inj slash)

theorem join_ne_empty (base : Path) {name : String} (named : IsName name limit) :
    (base.join name).text ≠ "" := by
  intro empty
  have nothing : base.entrance ++ name.toList = [] := by
    rw [← toList_join base named.whole, empty]
    rfl
  exact named.toList_ne_nil (List.append_eq_nil_iff.mp nothing).2

theorem entrance_join (base : Path) {name : String} (named : IsName name limit) :
    (base.join name).entrance = base.entrance ++ name.toList ++ ['/'] := by
  rw [entrance, if_neg (join_ne_empty base named), if_neg (getLast?_toList_join base named),
    toList_join base named.whole]

theorem way_join (base : Path) {name : String} (named : IsName name limit) :
    (base.join name).way = base.way ++ [name.toList] := by
  rw [way, if_neg (join_ne_empty base named), entrance_join base named, List.dropLast_concat,
    ← toList_join base named.whole, pieces_toList_join base named.whole]

theorem text_join_join (base : Path) {name : String} (named : IsName name limit) {last : String}
    (other : IsName last longest) :
    ((base.join name).join last).text = (base.join name).text ++ "/" ++ last := by
  apply String.toList_inj.mp
  rw [toList_join _ other.whole, entrance_join base named, ← toList_join base named.whole,
    String.toList_append, String.toList_append]
  rfl

theorem utf8ByteSize_join_le (base : Path) (name : String) :
    (base.join name).text.utf8ByteSize ≤ base.text.utf8ByteSize + 1 + name.utf8ByteSize := by
  unfold join
  dsimp only
  split
  · exact Nat.le_add_left _ _
  · split
    · rw [String.utf8ByteSize_append]
      omega
    · rw [String.utf8ByteSize_append, String.utf8ByteSize_append]
      exact Nat.le_refl _

theorem pieces_join_of_whole (base : Path) {name : String} (whole : '/' ∉ name.toList)
    (filled : name.toList ≠ []) (notHere : name.toList ≠ ['.']) :
    ∃ front, (base.join name).pieces = front ++ [⟨name.toList, true⟩] ∧
      front.map Piece.text = base.way := by
  unfold pieces
  rw [pieces_toList_join base whole]
  cases base.way with
  | nil => exact ⟨[], by simp [notHere, filled], rfl⟩
  | cons first rest =>
      refine ⟨(if first == ['.'] then ⟨first, true⟩
        else ⟨first, !first.isEmpty && first != ['.']⟩) ::
        rest.map fun text => ⟨text, !text.isEmpty && text != ['.']⟩, ?_, ?_⟩
      · simp [notHere, filled]
      · rw [List.map_cons, List.map_map]
        split <;> simp [Function.comp_def]

theorem pieces_join (base : Path) {name : String} (named : IsName name limit) :
    ∃ front, (base.join name).pieces = front ++ [⟨name.toList, true⟩] ∧
      front.map Piece.text = base.way :=
  pieces_join_of_whole base named.whole named.toList_ne_nil named.toList_ne_here

theorem dropIdle_concat (front : List Piece) {piece : Piece} (counts : piece.counts = true) :
    dropIdle (front ++ [piece]) = front ++ [piece] := by
  rw [dropIdle, List.reverse_append, List.reverse_singleton, List.singleton_append,
    List.dropWhile_cons_of_neg (by simp [counts]), List.reverse_cons, List.reverse_reverse]

theorem fileName?_join (base : Path) {name : String} (named : IsName name limit) :
    (base.join name).fileName? = some name := by
  obtain ⟨front, cut, -⟩ := pieces_join base named
  have component : Piece.component ⟨name.toList, true⟩ = .name name := by
    unfold Piece.component
    rw [if_neg named.toList_ne_here, if_neg named.toList_ne_up, String.ofList_toList]
  unfold fileName? components
  rw [cut, List.filter_append, List.map_append]
  simp [component]

theorem fileName?_join_up (base : Path) : (base.join "..").fileName? = none := by
  obtain ⟨front, cut, -⟩ := pieces_join_of_whole base (by decide : '/' ∉ "..".toList)
    (by decide) (by decide)
  unfold fileName? components
  rw [cut, List.filter_append, List.map_append]
  simp [Piece.component]

theorem ofPieces_concat (base : Path) {name : String} (named : IsName name limit)
    {front : List Piece} (same : front.map Piece.text = base.way) :
    ofPieces (front ++ [⟨name.toList, true⟩]) = base.join name := by
  unfold ofPieces
  rw [List.map_append, same, List.map_singleton, ← pieces_toList_join base named.whole,
    Text.intercalate_pieces, String.ofList_toList]

theorem pieces_join_join (base : Path) {name last : String} (named : IsName name limit)
    (other : IsName last longest) :
    ((base.join name).join last).pieces = (base.join name).pieces ++ [⟨last.toList, true⟩] := by
  have notHere := other.toList_ne_here
  have filled := other.toList_ne_nil
  unfold pieces
  rw [pieces_toList_join _ other.whole, way_join base named, pieces_toList_join base named.whole]
  cases base.way with
  | nil => simp [notHere, filled]
  | cons first rest => simp [notHere, filled]

theorem parent?_join_join (base : Path) {name last : String} (named : IsName name limit)
    (other : IsName last longest) :
    ((base.join name).join last).parent? = some (base.join name) := by
  obtain ⟨front, cut, same⟩ := pieces_join base named
  unfold parent?
  rw [pieces_join_join base named other, cut, dropIdle_concat _ rfl]
  cases whole : front ++ [⟨name.toList, true⟩] ++ [⟨last.toList, true⟩] with
  | nil => simp at whole
  | cons piece rest =>
      dsimp only
      rw [← whole, List.dropLast_concat, dropIdle_concat _ rfl]
      split
      · next nothing => simp at nothing
      · rw [ofPieces_concat base named same]

theorem isAbsolute_join (base : Path) {name : String} (named : IsName name limit) :
    (base.join name).isAbsolute = base.isAbsolute :=
  head?_toList_join base named

theorem length_components_join_pos (base : Path) {name : String} (named : IsName name limit) :
    0 < (base.join name).components.length := by
  obtain ⟨front, cut, -⟩ := pieces_join base named
  unfold components
  rw [cut, List.filter_append, List.map_append]
  simp only [List.length_append, List.filter_cons_of_pos, List.filter_nil, List.map_cons,
    List.map_nil, List.length_cons, List.length_nil]
  omega

theorem length_components_join_join (base : Path) {name last : String} (named : IsName name limit)
    (other : IsName last longest) :
    ((base.join name).join last).components.length = (base.join name).components.length + 1 := by
  unfold components
  rw [isAbsolute_join _ other, pieces_join_join base named other, List.filter_append,
    List.map_append]
  simp only [List.length_append, List.filter_cons_of_pos, List.filter_nil, List.map_cons,
    List.map_nil, List.length_cons, List.length_nil]
  omega

/-! ### Replacing the extension -/

section Extension

variable {front ending : List Char} (filled : front ≠ []) (plain : '.' ∉ ending)
include filled plain

theorem stem_append : stem (front ++ '.' :: ending) = front := by
  have cut : ((front ++ '.' :: ending).reverse.dropWhile (· != '.')).drop 1 = front.reverse := by
    have passed : ∀ char ∈ ending.reverse, (char != '.') = true := by
      intro char member
      have other : char ≠ '.' := fun dot => plain (dot ▸ List.mem_reverse.mp member)
      simpa using other
    rw [List.reverse_append, List.reverse_cons, List.append_assoc,
      List.dropWhile_append_of_pos passed]
    rfl
  unfold stem
  rw [cut]
  split
  · next nothing => exact absurd (List.reverse_eq_nil_iff.mp nothing) filled
  · rw [List.reverse_reverse]

theorem extension_append : extension (front ++ '.' :: ending) = ending := by
  rw [extension, stem_append filled plain, ← List.singleton_append, ← List.append_assoc]
  exact List.drop_left' List.length_append

end Extension

theorem withoutExtension_join (base : Path) {name left : String} (named : IsName name limit)
    (cut : name.toList = left.toList ++ extension name.toList) :
    (base.join name).withoutExtension = base.join left := by
  have whole : '/' ∉ left.toList := by
    intro slash
    apply named.whole
    rw [cut]
    exact List.mem_append_left _ slash
  have longer : (base.join name).text.toList =
      (base.join left).text.toList ++ extension name.toList := by
    rw [toList_join base named.whole, toList_join base whole, List.append_assoc, ← cut]
  unfold withoutExtension
  rw [fileName?_join base named, longer]
  dsimp only
  rw [List.reverse_append, List.drop_left' List.length_reverse, List.reverse_reverse,
    String.ofList_toList]

theorem setExtension_join (base : Path) {name extension : String} (named : IsName name limit)
    (filled : extension.isEmpty = false) {renamed : String} (other : IsName renamed longest)
    (spelled : renamed.toList = stem name.toList ++ '.' :: extension.toList) :
    (base.join name).setExtension extension = base.join renamed := by
  obtain ⟨front, cut, same⟩ := pieces_join base named
  unfold setExtension
  rw [fileName?_join base named, cut, dropIdle_concat _ rfl, List.getLast?_concat, filled]
  dsimp only
  rw [if_neg Bool.false_ne_true, List.dropLast_concat, ← spelled]
  exact ofPieces_concat base other same

theorem setExtension_of_nameless {path : Path} (nameless : path.fileName? = none)
    (extension : String) : path.setExtension extension = path := by
  rw [setExtension, nameless]

end Path

namespace FileSystem

variable {system : FileSystem} {limit : Nat}

def enter (system : FileSystem) (base : Path) : Except IoFault Place :=
  if '\x00' ∈ base.entrance then .error .nulInPath
  else base.way.foldlM system.step
    (if base.text.toList.head? == some '/' then [] else system.workingDirectory)

theorem locate_join {base : Path} {name : String} (named : IsName name limit)
    (fits : (base.join name).text.utf8ByteSize < pathLimit) :
    system.locate (base.join name).text.toList =
      (system.enter base).bind fun place => system.step place name.toList := by
  unfold locate
  rw [Path.head?_toList_join base named, Path.pieces_toList_join base named.whole,
    String.ofList_toList, if_neg (Nat.not_le.mpr fits), Path.toList_join base named.whole]
  unfold enter
  have filled : (base.entrance ++ name.toList).isEmpty = false := by
    simp [named.toList_ne_nil]
  by_cases dirty : '\x00' ∈ base.entrance
  · rw [if_pos (List.mem_append_left _ dirty), if_pos dirty]
    rfl
  · have clean : '\x00' ∉ base.entrance ++ name.toList := by
      intro member
      rcases List.mem_append.mp member with early | late
      · exact dirty early
      · exact named.clean late
    simp only [clean, dirty, filled, if_false, Bool.false_eq_true, List.foldlM_append,
      List.foldlM_cons, List.foldlM_nil, bind_pure]
    rfl

theorem enter_join (base : Path) {name : String} (named : IsName name limit) :
    system.enter (base.join name) =
      (system.enter base).bind fun place => system.step place name.toList := by
  unfold enter
  rw [Path.entrance_join base named, Path.way_join base named, Path.head?_toList_join base named]
  by_cases dirty : '\x00' ∈ base.entrance
  · rw [if_pos (List.mem_append_left _ (List.mem_append_left _ dirty)), if_pos dirty]
    rfl
  · have clean : '\x00' ∉ base.entrance ++ name.toList ++ ['/'] := by
      simp [dirty, named.clean]
    simp only [clean, dirty, if_false, List.foldlM_append, List.foldlM_cons, List.foldlM_nil,
      bind_pure]
    rfl

theorem step_of_isName {place : Place} {name : String} (named : IsName name) :
    system.step place name.toList =
      match system.node? place with
      | none => .error .noEntry
      | some (.file _) => .error .notDirectory
      | some .directory => .ok (place ++ [name]) := by
  have filled : name.toList.isEmpty = false := by simpa using named.toList_ne_nil
  have notHere : (name.toList == ['.']) = false := by simpa using named.toList_ne_here
  have notUp : (name.toList == ['.', '.']) = false := by simpa using named.toList_ne_up
  unfold step
  cases system.node? place with
  | none => rfl
  | some node =>
      cases node with
      | file content => rfl
      | directory =>
          simp only [filled, notHere, notUp, Bool.or_self, Bool.false_eq_true, if_false,
            String.ofList_toList, if_neg (Nat.not_lt.mpr named.short)]

theorem step_of_directory {place : Place} {name : String} (named : IsName name)
    (directory : system.node? place = some .directory) :
    system.step place name.toList = .ok (place ++ [name]) := by
  rw [step_of_isName named, directory]

theorem step_of_free {place : Place} (free : system.node? place = none) (piece : List Char) :
    system.step place piece = .error .noEntry := by
  unfold step
  rw [free]

theorem enter_join_of_directory {base : Path} {place : Place} {name : String}
    (named : IsName name) (enters : system.enter base = .ok place)
    (directory : system.node? place = some .directory) :
    system.enter (base.join name) = .ok (place ++ [name]) := by
  rw [enter_join base named, enters]
  exact step_of_directory named directory

theorem locate_join_of_directory {base : Path} {place : Place} {name : String}
    (named : IsName name) (fits : (base.join name).text.utf8ByteSize < pathLimit)
    (enters : system.enter base = .ok place) (directory : system.node? place = some .directory) :
    system.locate (base.join name).text.toList = .ok (place ++ [name]) := by
  rw [locate_join named fits, enters]
  exact step_of_directory named directory

/-- A path that leads to a place, or on the way to which something is missing. -/
def Reaches (system : FileSystem) (base : Path) (place : Place) : Prop :=
  system.enter base = .ok place ∨ system.enter base = .error .noEntry

theorem Reaches.step {base : Path} {place : Place} {name : String}
    (reaches : Reaches system base place) (named : IsName name)
    (clear : system.node? place = none ∨ system.node? place = some .directory) :
    ((system.enter base).bind fun next => system.step next name.toList) = .ok (place ++ [name]) ∨
      ((system.enter base).bind fun next => system.step next name.toList) = .error .noEntry := by
  rcases reaches with reached | missing
  · rw [reached]
    rcases clear with free | directory
    · exact .inr (step_of_free free name.toList)
    · exact .inl (step_of_directory named directory)
  · rw [missing]
    exact .inr rfl

theorem Reaches.join {base : Path} {place : Place} {name : String}
    (reaches : Reaches system base place) (named : IsName name)
    (clear : system.node? place = none ∨ system.node? place = some .directory) :
    Reaches system (base.join name) (place ++ [name]) := by
  unfold Reaches
  rw [enter_join base named]
  exact reaches.step named clear

theorem Reaches.locate_join {base : Path} {place : Place} {name : String}
    (reaches : Reaches system base place) (named : IsName name)
    (fits : (base.join name).text.utf8ByteSize < pathLimit)
    (clear : system.node? place = none ∨ system.node? place = some .directory) :
    system.locate (base.join name).text.toList = .ok (place ++ [name]) ∨
      system.locate (base.join name).text.toList = .error .noEntry := by
  rw [FileSystem.locate_join named fits]
  exact reaches.step named clear

theorem Reaches.locate_join_of_free {base : Path} {place : Place} {name : String}
    (reaches : Reaches system base place) (named : IsName name)
    (fits : (base.join name).text.utf8ByteSize < pathLimit) (free : system.node? place = none) :
    system.locate (base.join name).text.toList = .error .noEntry := by
  rw [FileSystem.locate_join named fits]
  rcases reaches with reached | missing
  · rw [reached]
    exact step_of_free free name.toList
  · rw [missing]
    rfl

theorem KeepsDirectories.enter {before after : FileSystem} (keeps : KeepsDirectories before after)
    {base : Path} {place : Place} (leads : before.enter base = .ok place) :
    after.enter base = .ok place := by
  unfold FileSystem.enter at leads ⊢
  rw [keeps.start]
  split at leads
  · cases leads
  · next clean =>
      rw [if_neg clean]
      exact keeps.walk leads

theorem step_eq_ok {place last : Place} {name : String} (named : IsName name limit)
    (leads : system.step place name.toList = .ok last) :
    last = place ++ [name] ∧ name.utf8ByteSize ≤ nameLimit := by
  have filled : name.toList.isEmpty = false := by simpa using named.toList_ne_nil
  have notHere : (name.toList == ['.']) = false := by simpa using named.toList_ne_here
  have notUp : (name.toList == ['.', '.']) = false := by simpa using named.toList_ne_up
  have directory := directory_of_step leads
  unfold step at leads
  rw [directory] at leads
  simp only [filled, notHere, notUp, Bool.or_self, Bool.false_eq_true, if_false,
    String.ofList_toList] at leads
  split at leads
  · cases leads
  · next short => exact ⟨(Except.ok.inj leads).symm, Nat.not_lt.mp short⟩

theorem lt_pathLimit_of_locate {path : Path} {place : Place}
    (leads : system.locate path.text.toList = .ok place) :
    path.text.utf8ByteSize < pathLimit := by
  obtain ⟨-, -, short, -⟩ := locate_eq_ok_iff.mp leads
  rw [String.ofList_toList] at short
  exact short

theorem directory_of_locate_up {base : Path} {place : Place}
    (leads : system.locate (base.join "..").text.toList = .ok place) :
    system.node? place = some .directory := by
  obtain ⟨-, -, -, walks⟩ := locate_eq_ok_iff.mp leads
  rw [Path.pieces_toList_join base (by decide), List.foldlM_append] at walks
  cases reached : base.way.foldlM system.step
    (if (base.join "..").text.toList.head? == some '/' then []
      else system.workingDirectory) with
  | error fault =>
      rw [reached] at walks
      cases walks
  | ok house =>
      rw [reached] at walks
      have up : [['.', '.']].foldlM system.step house = .ok place := walks
      simp only [List.foldlM_cons, List.foldlM_nil, bind_pure] at up
      rw [step_up (directory_of_step up)] at up
      obtain ⟨rfl, directory⟩ := stepUp_eq_ok up
      exact directory

theorem create_join_up_ne_ok (base : Path) (files : FileSystem) :
    system.create (base.join "..") ≠ .ok files := by
  intro created
  obtain ⟨place, leads, -, plain, -⟩ := create_eq_ok created
  exact plain (directory_of_locate_up leads)

theorem locate_join_eq_ok_step {base : Path} {name : String} (named : IsName name limit)
    {last : Place} (leads : system.locate (base.join name).text.toList = .ok last) :
    ∃ place, system.enter base = .ok place ∧ system.step place name.toList = .ok last := by
  rw [locate_join named (lt_pathLimit_of_locate leads)] at leads
  cases entered : system.enter base with
  | error fault =>
      rw [entered] at leads
      cases leads
  | ok place =>
      rw [entered] at leads
      exact ⟨place, rfl, leads⟩

theorem short_of_locate_join {base : Path} {name : String} (named : IsName name limit)
    {last : Place} (leads : system.locate (base.join name).text.toList = .ok last) :
    name.utf8ByteSize ≤ nameLimit := by
  obtain ⟨place, -, led⟩ := locate_join_eq_ok_step named leads
  exact (step_eq_ok named led).2

theorem locate_join_eq_ok {base : Path} {name : String} (named : IsName name limit) {last : Place}
    (leads : system.locate (base.join name).text.toList = .ok last) :
    ∃ place, system.enter base = .ok place ∧ system.node? place = some .directory ∧
      last = place ++ [name] := by
  obtain ⟨place, entered, led⟩ := locate_join_eq_ok_step named leads
  exact ⟨place, entered, directory_of_step led, (step_eq_ok named led).1⟩

theorem enter_join_eq_ok {base : Path} {name : String} (named : IsName name limit) {last : Place}
    (enters : system.enter (base.join name) = .ok last) :
    ∃ place, system.enter base = .ok place ∧ system.node? place = some .directory ∧
      last = place ++ [name] := by
  rw [enter_join base named] at enters
  cases entered : system.enter base with
  | error fault =>
      rw [entered] at enters
      cases enters
  | ok place =>
      rw [entered] at enters
      have led : system.step place name.toList = .ok last := enters
      exact ⟨place, rfl, directory_of_step led, (step_eq_ok named led).1⟩

end FileSystem

end Courier
