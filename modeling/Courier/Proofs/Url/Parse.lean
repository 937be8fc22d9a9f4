import Courier.Proofs.Run
import Courier.Proofs.Text.Pieces
import Courier.Proofs.Url.Percent
import Courier.Url.Parse
/-!
What an address is like that was read. Reading keeps the scheme that it finds first, and an address
of the web gets a host and a path, whatever else its text says. Main statement: the path of an
address of the web has at least one segment, and no segment has a slash in it.
-/

namespace Courier.Url

def Unslashed (segments : List String) : Prop :=
  ∀ segment ∈ segments, '/' ∉ segment.toList

theorem Unslashed.append {front rest : List String} (early : Unslashed front)
    (late : Unslashed rest) : Unslashed (front ++ rest) := by
  intro segment member
  rcases List.mem_append.mp member with first | second
  · exact early segment first
  · exact late segment second

theorem unslashed_singleton {segment : List Char} (whole : '/' ∉ segment) :
    Unslashed [String.ofList segment] := by
  intro other member
  rw [List.mem_singleton.mp member, String.toList_ofList]
  exact whole

theorem Unslashed.opened {segments : List String} (unslashed : Unslashed segments) :
    Unslashed (segments ++ [""]) :=
  unslashed.append (unslashed_singleton (List.not_mem_nil))

theorem Unslashed.parent {segments : List String} (unslashed : Unslashed segments) :
    Unslashed (parentSegments segments) := by
  unfold parentSegments
  split
  · exact unslashed
  · intro segment member
    exact unslashed segment (List.dropLast_subset segments member)

theorem Unslashed.addSegment {segments : List String} (unslashed : Unslashed segments)
    {segment : List Char} (whole : '/' ∉ segment) (last : Bool) :
    Unslashed (addSegment last segments segment) := by
  unfold Url.addSegment
  dsimp only
  split
  · split
    · exact unslashed.parent.opened
    · exact unslashed.parent
  · split
    · split
      · exact unslashed.opened
      · exact unslashed
    · exact unslashed.append (unslashed_singleton whole)

theorem addSegment_ne_nil (segments : List String) (segment : List Char) :
    addSegment true segments segment ≠ [] := by
  unfold addSegment
  dsimp only
  split
  · simp
  · split
    · simp
    · simp

theorem pathChars_whole {piece : List Char} (whole : '/' ∉ piece) : '/' ∉ pathChars piece := by
  apply Percent.not_mem_encodeChars_encode
  · rw [String.toList_ofList]
    exact fun member => whole (List.mem_filter.mp member).1
  · decide

theorem not_mem_of_mem_pathPieces {special : Bool} {text piece : List Char}
    (member : piece ∈ pathPieces special text) : '/' ∉ piece := by
  intro slash
  have plain := Text.test_of_mem_pieces member '/' slash
  cases plain

section Parts

variable {url : Url}

theorem withRest_eq (url : Url) (text : List Char) :
    ∃ query fragment, url.withRest text = { url with query, fragment } := by
  unfold withRest
  split
  · dsimp only
    split
    · exact ⟨_, _, rfl⟩
    · exact ⟨_, _, rfl⟩
  · dsimp only
    split
    · exact ⟨_, _, rfl⟩
    · exact ⟨_, _, rfl⟩

theorem withPath_eq (url : Url) (text : List Char) :
    ∃ path, url.withPath text = { url with path } := by
  unfold withPath
  split
  · split
    · exact ⟨_, rfl⟩
    · exact ⟨_, rfl⟩
  · exact ⟨_, rfl⟩

theorem unslashed_foldl {pieces : List (List Char)} (whole : ∀ piece ∈ pieces, '/' ∉ piece)
    (last : Bool) {begun : List String} (unslashed : Unslashed begun) :
    Unslashed (pieces.foldl
      (fun segments piece => addSegment last segments (pathChars piece)) begun) := by
  induction pieces generalizing begun with
  | nil => exact unslashed
  | cons piece rest ih =>
      exact ih (fun other member => whole other (List.mem_cons_of_mem piece member))
        (unslashed.addSegment (pathChars_whole (whole piece List.mem_cons_self)) last)

theorem addPieces_concat {α : Type} (add : Bool → α → List Char → α) (begun : α)
    (front : List (List Char)) (last : List Char) :
    addPieces add begun (front ++ [last]) = add true (front.foldl (add false) begun) last := by
  unfold addPieces
  rw [List.getLast?_concat, List.dropLast_concat]
  rfl

theorem path_withPath (special : url.isSpecial = true) (text : List Char) :
    ∃ segments, (url.withPath text).path = .segments segments ∧ segments ≠ [] ∧
      Unslashed segments := by
  unfold withPath
  rw [if_pos special]
  split
  · exact ⟨[""], rfl, List.cons_ne_nil _ _, unslashed_singleton List.not_mem_nil⟩
  · dsimp only
    have whole : ∀ piece ∈ pathPieces url.isSpecial (afterSlash url.isSpecial text),
        '/' ∉ piece := fun piece => not_mem_of_mem_pathPieces
    rcases List.eq_nil_or_concat (pathPieces url.isSpecial (afterSlash url.isSpecial text)) with
      none | ⟨front, last, shape⟩
    · exact absurd none (Text.pieces_ne_nil _)
    · rw [List.concat_eq_append] at shape
      rw [shape] at whole ⊢
      rw [addPieces_concat]
      have begun : Unslashed (front.foldl
          (fun segments piece => addSegment false segments (pathChars piece)) []) :=
        unslashed_foldl (fun piece member => whole piece (List.mem_append_left _ member)) false
          (fun _ none => absurd none List.not_mem_nil)
      exact ⟨_, rfl, addSegment_ne_nil _ _,
        begun.addSegment (pathChars_whole (whole last (by simp))) true⟩

theorem withHost_eq {located : Url} {text after : List Char}
    (reads : url.withHost text = .ok (located, after)) :
    ∃ host port, located = { url with host := some host, port } := by
  unfold withHost at reads
  dsimp only at reads
  split at reads
  · cases reads
  · -- A special address and another one go on in the same way once the host is read.
    split at reads
    all_goals
      obtain ⟨host, -, reads⟩ := bind_eq_ok reads
      split at reads
      · obtain ⟨port, -, reads⟩ := bind_eq_ok reads
        cases reads
        exact ⟨host, port, rfl⟩
      · cases reads
        exact ⟨host, _, rfl⟩

theorem located_of_reads (url : Url) {parsed : Url} {hostPart following : List Char}
    (reads : (do
      let (located, after) ← url.withHost hostPart
      if !located.hasHost ∧ !located.credentialsText.isEmpty then throw .emptyHost
      let (path, rest) := splitPath (after ++ following)
      return (located.withPath path).withRest rest) = (.ok parsed : Except UrlFault Url)) :
    ∃ (located : Url) (path rest : List Char), located.scheme = url.scheme ∧
      located.host.isSome = true ∧ parsed = (located.withPath path).withRest rest := by
  obtain ⟨⟨located, after⟩, hosted, reads⟩ := bind_eq_ok reads
  obtain ⟨host, port, rfl⟩ := withHost_eq hosted
  dsimp only at reads
  split at reads
  · cases reads
  · cases reads
    exact ⟨{ url with host := some host, port }, _, _, rfl, rfl, rfl⟩

theorem withAuthority_eq {parsed : Url} {text : List Char}
    (reads : url.withAuthority text = .ok parsed) :
    ∃ (located : Url) (path rest : List Char), located.scheme = url.scheme ∧
      located.host.isSome = true ∧ parsed = (located.withPath path).withRest rest := by
  unfold withAuthority at reads
  dsimp only at reads
  split at reads
  · exact located_of_reads url reads
  · next userinfo hostPart _ =>
      split at reads
      · cases reads
      · exact located_of_reads (url.withUserinfo userinfo) reads

theorem scheme_withRest (url : Url) (text : List Char) :
    (url.withRest text).scheme = url.scheme := by
  obtain ⟨query, fragment, same⟩ := url.withRest_eq text
  rw [same]

theorem scheme_withPath (url : Url) (text : List Char) :
    (url.withPath text).scheme = url.scheme := by
  obtain ⟨path, same⟩ := url.withPath_eq text
  rw [same]

theorem scheme_parseFile {parsed : Url} {text : List Char}
    (reads : url.parseFile text = .ok parsed) : parsed.scheme = url.scheme := by
  unfold parseFile at reads
  dsimp only at reads
  split at reads
  · cases reads
    exact scheme_withRest _ _
  · split at reads
    · cases reads
      exact scheme_withRest _ _
    · obtain ⟨host, -, reads⟩ := bind_eq_ok reads
      cases reads
      exact scheme_withRest _ _

end Parts

/-- An address with a host and with segments as a path. -/
structure Rooted (url : Url) (segments : List String) : Prop where
  host : url.host.isSome = true
  path : url.path = .segments segments
  filled : segments ≠ []
  unslashed : Unslashed segments

theorem isSpecial_of_isWeb {url : Url} (web : url.isWeb = true) : url.isSpecial = true := by
  unfold isWeb at web
  unfold isSpecial
  rw [Bool.or_eq_true, beq_iff_eq, beq_iff_eq] at web
  rcases web with scheme | scheme
  · rw [scheme]
    rfl
  · rw [scheme]
    rfl

theorem rooted_of_withAuthority {url parsed : Url} {text : List Char}
    (special : url.isSpecial = true) (reads : url.withAuthority text = .ok parsed) :
    ∃ segments, parsed.Rooted segments := by
  obtain ⟨located, path, rest, scheme, host, rfl⟩ := withAuthority_eq reads
  have knows : located.isSpecial = true := by
    unfold isSpecial at special ⊢
    rw [scheme, special]
  obtain ⟨segments, written, filled, unslashed⟩ := path_withPath knows path
  obtain ⟨added, same⟩ := located.withPath_eq path
  obtain ⟨query, fragment, whole⟩ := (located.withPath path).withRest_eq rest
  rw [whole]
  refine ⟨segments, ?_, written, filled, unslashed⟩
  rw [same]
  exact host

theorem rooted_of_parse {text : String} {url : Url} (reads : parse text = .ok url)
    (web : url.isWeb = true) : ∃ segments, url.Rooted segments := by
  unfold parse at reads
  dsimp only at reads
  split at reads
  · cases reads
  · next scheme rest _ =>
      have notPlain : isSpecialScheme scheme = false → url.scheme ≠ scheme := by
        rintro plain same
        have special := isSpecial_of_isWeb web
        unfold isSpecial at special
        rw [same, plain] at special
        cases special
      split at reads
      · next file =>
          have same := scheme_parseFile reads
          rw [file] at same
          unfold isWeb at web
          rw [same] at web
          cases web
      · split at reads
        · next special => exact rooted_of_withAuthority special reads
        · next plain =>
            have unknown : isSpecialScheme scheme = false := Bool.eq_false_iff.mpr plain
            split at reads
            · obtain ⟨located, path, rest, same, -, rfl⟩ := withAuthority_eq reads
              apply absurd _ (notPlain unknown)
              rw [scheme_withRest, scheme_withPath, same]
            · cases reads
              apply absurd _ (notPlain unknown)
              rw [scheme_withRest, scheme_withPath]
            · cases reads
              apply absurd _ (notPlain unknown)
              rw [scheme_withRest]

end Courier.Url
