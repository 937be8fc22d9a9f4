import Courier.Proofs.Url.Percent
import Courier.Url.Parse
/-!
Names as segments of a path. A name is put behind a path as one segment, from which it is read back
without the characters that addresses pass over; only where no more than a dot or two is left of it
is it taken for a way through the path. Main statement: the path below an address is that of the
address, less a slash at its end, with one segment for each name behind it.
-/

namespace Courier.Url

/-- What addresses know of a name: tabs and line breaks are passed over. -/
def spoken (name : String) : String :=
  String.ofList (unbroken name.toList)

/-- Whether a name is taken for the way up, or for none. -/
def IsDots (name : String) : Prop :=
  spoken name = "." ∨ spoken name = ".."

instance (name : String) : Decidable (IsDots name) :=
  inferInstanceAs (Decidable (_ ∨ _))

def segment (scheme name : String) : String :=
  String.ofList (segmentChars scheme name)

@[simp] theorem toList_segment (scheme name : String) :
    (segment scheme name).toList = segmentChars scheme name :=
  String.toList_ofList

theorem spoken_eq_self {name : String} (whole : name.toList.any isPassedOver = false) :
    spoken name = name := by
  have same : unbroken name.toList = name.toList := by
    apply List.filter_eq_self.mpr
    intro char member
    rw [Bool.eq_false_iff.mpr (List.any_eq_false.mp whole char member)]
    rfl
  unfold spoken
  rw [same, String.ofList_toList]

variable {scheme name : String}

theorem decode_segmentChars (scheme name : String) :
    Percent.decode (segmentChars scheme name) = Utf8.encode (spoken name) := by
  unfold segmentChars
  dsimp only
  split
  · exact Percent.decode_encodeChars (by decide) _
  · exact Percent.decode_encodeChars (by decide) _

theorem decode?_segment (scheme name : String) :
    Utf8.decode? (Percent.decode (segment scheme name).toList) = some (spoken name) := by
  rw [toList_segment, decode_segmentChars, Utf8.decode?_encode]

theorem segment_inj {other : String} :
    segment scheme name = segment scheme other ↔ spoken name = spoken other := by
  constructor
  · intro same
    have read := decode?_segment scheme other
    rw [← same, decode?_segment] at read
    exact Option.some.inj read
  · intro same
    unfold segment segmentChars
    change String.ofList (Percent.encodeChars _ (Utf8.encode (spoken name))) = _
    rw [same]
    rfl

theorem not_mem_segment {char : Char} (ends : char = '/' ∨ char = '?') (scheme name : String) :
    char ∉ (segment scheme name).toList := by
  have escaped : Percent.inSpecialSegment char = false ∧ Percent.inSegment char = false ∧
      char ∉ Percent.escapeMarks := by
    rcases ends with rfl | rfl
    · decide
    · decide
  obtain ⟨special, other, unmarked⟩ := escaped
  rw [toList_segment]
  unfold segmentChars
  dsimp only
  split
  · exact Percent.not_mem_encodeChars special unmarked _
  · exact Percent.not_mem_encodeChars other unmarked _

/-- A name that is written as it is. -/
structure IsWord (scheme word : String) : Prop where
  filled : word ≠ ""
  plain : ¬ IsDots word
  written : segment scheme word = word

theorem printable_of_inSpecialSegment {char : Char}
    (kept : Percent.inSpecialSegment char = true) :
    0x20 ≤ char.toNat ∧ char.toNat < 0x7F ∧ Percent.inSegment char = true := by
  have more : " \"<>`#?\x7b\x7d/%\\".toList = " \"<>`#?\x7b\x7d/%".toList ++ ['\\'] := by decide
  unfold Percent.inSpecialSegment Percent.printableExcept at kept
  unfold Percent.inSegment Percent.printableExcept
  rw [more] at kept
  simp only [List.contains_append, Bool.not_or, Bool.and_eq_true, decide_eq_true_eq] at kept ⊢
  obtain ⟨⟨low, high⟩, others, -⟩ := kept
  exact ⟨low, high, ⟨low, high⟩, others⟩

theorem isWord_of_kept {word : String} (filled : word ≠ "") (plain : ¬ IsDots word)
    (kept : word.toList.all Percent.inSpecialSegment = true) : IsWord scheme word := by
  rw [List.all_eq_true] at kept
  have whole : spoken word = word := by
    apply spoken_eq_self
    rw [List.any_eq_false]
    intro char member passed
    have printable := printable_of_inSpecialSegment (kept char member)
    unfold isPassedOver at passed
    simp only [Bool.or_eq_true, beq_iff_eq] at passed
    rcases passed with (rfl | rfl) | rfl
    · exact absurd printable.1 (by decide)
    · exact absurd printable.1 (by decide)
    · exact absurd printable.1 (by decide)
  have same : segmentChars scheme word = word.toList := by
    change Percent.encodeChars _ (Utf8.encode (spoken word)) = _
    rw [whole]
    apply Percent.encodeChars_encode_of_kept
    intro char member
    obtain ⟨-, high, other⟩ := printable_of_inSpecialSegment (kept char member)
    constructor
    · omega
    · split
      · exact kept char member
      · exact other
  refine ⟨filled, plain, ?_⟩
  unfold segment
  rw [same, String.ofList_toList]

theorem decode_of_afterDot? {chars rest : List Char} (dot : afterDot? chars = some rest) :
    Percent.decode chars = 0x2E :: Percent.decode rest := by
  unfold afterDot? at dot
  split at dot
  · cases dot
    rw [Percent.decode_cons (by decide)]
    rfl
  · cases dot
    exact Percent.decode_escape_append 0x2E _
  · cases dot
    rfl
  · cases dot

theorem isHere_segmentChars (plain : ¬ IsDots name) :
    isHere (segmentChars scheme name) = false := by
  unfold isHere
  rw [beq_eq_false_iff_ne]
  intro here
  have read := decode_of_afterDot? here
  rw [decode_segmentChars] at read
  exact plain (.inl (Utf8.encode_injective read))

theorem isUp_segmentChars (plain : ¬ IsDots name) : isUp (segmentChars scheme name) = false := by
  unfold isUp
  rw [beq_eq_false_iff_ne]
  intro up
  obtain ⟨rest, first, second⟩ := Option.bind_eq_some_iff.mp up
  have read := decode_of_afterDot? first
  rw [decode_segmentChars, decode_of_afterDot? second] at read
  exact plain (.inr (Utf8.encode_injective read))

theorem pushSegment_of_plain (plain : ¬ IsDots name) (segments : List String) :
    pushSegment scheme segments name =
      (if segments = [""] then [] else segments) ++ [segment scheme name] := by
  have named : ¬ (name = "." ∨ name = "..") := by
    rintro (rfl | rfl)
    · exact plain (.inl rfl)
    · exact plain (.inr rfl)
  unfold pushSegment addSegment
  rw [if_neg named]
  dsimp only
  rw [isUp_segmentChars plain, isHere_segmentChars plain]
  rfl

theorem append_ne_singleton {segments : List String} (filled : segments ≠ [])
    (last other : String) : segments ++ [last] ≠ [other] := by
  intro same
  have lengths := congrArg List.length same
  have longer := List.length_pos_iff.mpr filled
  rw [List.length_append, List.length_singleton, List.length_singleton] at lengths
  omega

theorem foldl_pushSegment {begun : List String} (filled : begun ≠ []) (begins : begun ≠ [""])
    {names : List String} (plain : ∀ name ∈ names, ¬ IsDots name) :
    names.foldl (pushSegment scheme) begun = begun ++ names.map (segment scheme) := by
  induction names generalizing begun with
  | nil => simp
  | cons name rest ih =>
      have here : pushSegment scheme begun name = begun ++ [segment scheme name] := by
        rw [pushSegment_of_plain (plain name List.mem_cons_self), if_neg begins]
      rw [List.foldl_cons, here, ih (by simp) (append_ne_singleton filled _ _)
        fun other member => plain other (List.mem_cons_of_mem name member)]
      simp

/-- The segments that others are put behind. An open end is closed, and a path that is no more than
a slash or two is left out. -/
def stem (segments : List String) : List String :=
  if dropOpen segments = [""] then [] else dropOpen segments

theorem path_below {url : Url} {segments : List String} (path : url.path = .segments segments)
    {word : String} {names : List String} (begins : segment url.scheme word ≠ "")
    (plain : ∀ name ∈ word :: names, ¬ IsDots name) :
    (url.below (word :: names)).path =
      .segments (stem segments ++ (word :: names).map (segment url.scheme)) := by
  have first : pushSegment url.scheme (dropOpen segments) word =
      stem segments ++ [segment url.scheme word] :=
    pushSegment_of_plain (plain word List.mem_cons_self) _
  have begun : stem segments ++ [segment url.scheme word] ≠ [""] := by
    cases front : stem segments with
    | nil =>
        intro same
        exact begins (List.singleton_inj.mp same)
    | cons one more => exact append_ne_singleton (List.cons_ne_nil one more) _ _
  unfold below
  rw [path]
  dsimp only
  rw [List.foldl_cons, first, foldl_pushSegment (by simp) begun
    fun other member => plain other (List.mem_cons_of_mem word member)]
  simp

def slashed (segments : List String) : List Char :=
  segments.flatMap fun segment => '/' :: segment.toList

@[simp] theorem slashed_append (front rest : List String) :
    slashed (front ++ rest) = slashed front ++ slashed rest :=
  List.flatMap_append

theorem toList_pathText {url : Url} {segments : List String}
    (path : url.path = .segments segments) : url.pathText.toList = slashed segments := by
  unfold pathText slashed
  rw [path]
  dsimp only
  rw [String.toList_join, List.flatMap_map]
  simp only [String.toList_append]
  rfl

/-- The path that others are put behind: a slash at its end is left out, and of a path of two
slashes both. -/
def trunk (path : String) : String :=
  if path = "//" then ""
  else if path.toList.getLast? = some '/' then String.ofList path.toList.dropLast
  else path

theorem slashed_eq_slash {segments : List String} (single : slashed segments = ['/']) :
    segments = [""] := by
  cases segments with
  | nil => cases single
  | cons first rest =>
      obtain ⟨empty, none⟩ := List.append_eq_nil_iff.mp (List.cons.inj single).2
      cases rest with
      | nil => rw [String.toList_eq_nil_iff.mp empty]
      | cons second others => cases none

theorem stem_of_open {front : List String} (filled : front ≠ []) :
    stem (front ++ [""]) = if front = [""] then [] else front := by
  have longer := List.length_pos_iff.mpr filled
  have opened : dropOpen (front ++ [""]) = front := by
    unfold dropOpen
    rw [if_pos ⟨by simp; omega, List.getLast?_concat⟩, List.dropLast_concat]
  unfold stem
  rw [opened]

theorem stem_of_closed {front : List String} {last : String} (named : last ≠ "") :
    stem (front ++ [last]) = front ++ [last] := by
  have closed : dropOpen (front ++ [last]) = front ++ [last] := by
    unfold dropOpen
    rw [if_neg]
    rintro ⟨-, opened⟩
    rw [List.getLast?_concat] at opened
    exact named (Option.some.inj opened)
  have other : front ++ [last] ≠ [""] := by
    intro same
    have ends := congrArg List.getLast? same
    rw [List.getLast?_concat] at ends
    exact named (Option.some.inj ends)
  unfold stem
  rw [closed, if_neg other]

theorem toList_trunk_of_open {path : String} {front : List String}
    (spelled : path.toList = slashed front ++ ['/']) :
    (trunk path).toList = slashed (stem (front ++ [""])) := by
  have ends : path.toList.getLast? = some '/' := by
    rw [spelled]
    exact List.getLast?_concat
  have without : path.toList.dropLast = slashed front := by
    rw [spelled]
    exact List.dropLast_concat
  by_cases twoSlashes : path = "//"
  · have single : front = [""] := by
      apply slashed_eq_slash
      rw [← without, twoSlashes]
      rfl
    rw [single, stem_of_open (List.cons_ne_nil _ _), if_pos rfl]
    unfold trunk
    rw [if_pos twoSlashes]
    rfl
  · have shortened : (trunk path).toList = slashed front := by
      unfold trunk
      rw [if_neg twoSlashes, if_pos ends, String.toList_ofList, without]
    rw [shortened]
    cases front with
    | nil => rfl
    | cons first rest =>
        rw [stem_of_open (List.cons_ne_nil _ _), if_neg]
        intro single
        apply twoSlashes
        rw [single] at spelled
        exact String.toList_inj.mp spelled

theorem trunk_of_closed {path last : String} {front : List Char} (named : last ≠ "")
    (whole : '/' ∉ last.toList) (spelled : path.toList = front ++ last.toList) :
    trunk path = path := by
  have ends : path.toList.getLast? ≠ some '/' := by
    intro slash
    rcases List.eq_nil_or_concat last.toList with empty | ⟨init, char, shape⟩
    · exact named (String.toList_eq_nil_iff.mp empty)
    · rw [List.concat_eq_append] at shape
      rw [spelled, shape, ← List.append_assoc, List.getLast?_concat] at slash
      apply whole
      rw [shape, Option.some.inj slash]
      exact List.mem_append_right init List.mem_cons_self
  have longer : path ≠ "//" := by
    rintro rfl
    exact ends rfl
  unfold trunk
  rw [if_neg longer, if_neg ends]

theorem toList_trunk {path : String} {segments : List String}
    (written : path.toList = slashed segments) (filled : segments ≠ [])
    (whole : ∀ segment ∈ segments, '/' ∉ segment.toList) :
    (trunk path).toList = slashed (stem segments) := by
  rcases List.eq_nil_or_concat segments with none | ⟨front, last, rfl⟩
  · exact absurd none filled
  rw [List.concat_eq_append] at written whole ⊢
  have spelled : path.toList = (slashed front ++ ['/']) ++ last.toList := by
    rw [written, slashed_append]
    simp [slashed]
  by_cases named : last = ""
  · subst named
    exact toList_trunk_of_open (spelled.trans (List.append_nil _))
  · rw [trunk_of_closed named (whole last (by simp)) spelled, stem_of_closed named, written]

end Courier.Url
