import Courier.Proofs.Files.Paths
/-!
Paths below another one. Joining puts the components of the rest behind those of the base, and what
a path has after the components of a base is made of pieces that name the same components wherever
they stand. Main statement: what is left of a path after a base, joined to the base again, is the
same path.
-/

namespace Courier

namespace Path

/-- A piece that is not the first one of a relative path, so that a dot names nothing. -/
def innerPiece (text : List Char) : Piece :=
  ⟨text, !text.isEmpty && text != ['.']⟩

def firstPiece (text : List Char) : Piece :=
  if text == ['.'] then ⟨text, true⟩ else innerPiece text

/-- The components that pieces name, a root aside. -/
def named (pieces : List Piece) : List Component :=
  (pieces.filter (·.counts)).map Piece.component

theorem named_append (front rest : List Piece) :
    named (front ++ rest) = named front ++ named rest := by
  rw [named, List.filter_append, List.map_append]
  rfl

theorem components_eq (path : Path) :
    path.components = (if path.isAbsolute then [.root] else []) ++ named path.pieces := rfl

theorem pieces_eq {path : Path} {first : List Char} {rest : List (List Char)}
    (cut : Text.pieces (· == '/') path.text.toList = first :: rest) :
    path.pieces = firstPiece first :: rest.map innerPiece := by
  unfold pieces
  rw [cut]
  rfl

theorem map_text_pieces (path : Path) :
    path.pieces.map Piece.text = Text.pieces (· == '/') path.text.toList := by
  cases cut : Text.pieces (· == '/') path.text.toList with
  | nil => exact absurd cut (Text.pieces_ne_nil _)
  | cons first rest =>
      have start : (firstPiece first).text = first := by
        unfold firstPiece
        split
        · rfl
        · rfl
      rw [pieces_eq cut, List.map_cons, start, List.map_map]
      exact congrArg (first :: ·) (List.map_id rest)

theorem toList_join_of_relative {base : Path} (spelled : base.text ≠ "") {rest : String}
    (relative : rest.toList.head? ≠ some '/') :
    (base.join rest).text.toList = base.entrance ++ rest.toList := by
  have filled : base.text.toList.isEmpty = false := by
    simpa [String.toList_eq_nil_iff] using spelled
  have notRoot : (rest.toList.head? == some '/') = false := by simpa using relative
  unfold join entrance
  simp only [notRoot, filled, Bool.false_or, if_neg spelled, beq_iff_eq]
  split
  · simp at *
  · split
    · simp
    · simp [String.toList_append]

theorem isAbsolute_join_of_relative {base : Path} (spelled : base.text ≠ "") {rest : String}
    (relative : rest.toList.head? ≠ some '/') :
    (base.join rest).isAbsolute = base.isAbsolute := by
  unfold isAbsolute
  rw [toList_join_of_relative spelled relative, entrance, if_neg spelled]
  cases letters : base.text.toList with
  | nil => exact absurd (String.toList_eq_nil_iff.mp letters) spelled
  | cons first more =>
      split
      · rfl
      · rfl

theorem pieces_eq_way {base : Path} (spelled : base.text ≠ "") :
    Text.pieces (· == '/') base.text.toList = base.way ∨
      Text.pieces (· == '/') base.text.toList = base.way ++ [[]] := by
  rw [way, if_neg spelled]
  by_cases slash : base.text.toList.getLast? = some '/'
  · right
    have same : base.entrance = base.text.toList := by
      rw [entrance, if_neg spelled, if_pos slash]
    rw [← same]
    exact (congrArg (Text.pieces (· == '/')) (dropLast_entrance spelled)).trans
      (Text.pieces_append_cons (by simp) _ _)
  · left
    rw [entrance, if_neg spelled, if_neg slash, List.dropLast_concat]

theorem pieces_join_of_relative {base : Path} (spelled : base.text ≠ "") {rest : String}
    (relative : rest.toList.head? ≠ some '/') :
    ∃ front, named front = named base.pieces ∧
      (base.join rest).pieces =
        front ++ (Text.pieces (· == '/') rest.toList).map innerPiece := by
  have cut : Text.pieces (· == '/') (base.join rest).text.toList =
      base.way ++ Text.pieces (· == '/') rest.toList := by
    rw [toList_join_of_relative spelled relative, dropLast_entrance spelled, List.append_assoc,
      List.singleton_append, Text.pieces_append_cons (by simp), way, if_neg spelled]
  cases steps : base.way with
  | nil =>
      rw [way, if_neg spelled] at steps
      exact absurd steps (Text.pieces_ne_nil _)
  | cons first more =>
      rw [steps, List.cons_append] at cut
      refine ⟨firstPiece first :: more.map innerPiece, ?_, ?_⟩
      · rcases pieces_eq_way spelled with whole | ended
        · rw [pieces_eq (whole.trans steps)]
        · rw [steps, List.cons_append] at ended
          rw [pieces_eq ended, List.map_append, ← List.cons_append, named_append]
          exact (List.append_nil _).symm
      · rw [pieces_eq cut, List.map_append]
        rfl

theorem join_join {base : Path} (spelled : base.text ≠ "") {name : String} {limit : Nat}
    (named : IsName name limit) {rest : String} (relative : rest.toList.head? ≠ some '/') :
    (base.join name).join rest = base.join (name ++ "/" ++ rest) := by
  have begins : (name ++ "/" ++ rest).toList.head? ≠ some '/' := by
    obtain ⟨char, more, letters⟩ := List.exists_cons_of_ne_nil named.toList_ne_nil
    rw [String.toList_append, String.toList_append, letters]
    intro slash
    exact named.ne_slash (letters ▸ List.mem_cons_self) (Option.some.inj slash)
  have same : ((base.join name).join rest).text = (base.join (name ++ "/" ++ rest)).text := by
    apply String.toList_inj.mp
    rw [toList_join_of_relative (join_ne_empty base named) relative, entrance_join base named,
      toList_join_of_relative spelled begins, String.toList_append, String.toList_append]
    simp only [List.append_assoc]
    rfl
  exact congrArg Path.mk same

theorem components_join {base : Path} (spelled : base.text ≠ "") {rest : String}
    (relative : rest.toList.head? ≠ some '/') :
    (base.join rest).components =
      base.components ++ named ((Text.pieces (· == '/') rest.toList).map innerPiece) := by
  obtain ⟨front, same, cut⟩ := pieces_join_of_relative spelled relative
  rw [components_eq, components_eq, isAbsolute_join_of_relative spelled relative, cut,
    named_append, same, List.append_assoc]

/-- A text that is an ordinary component of every path that it is joined to. -/
structure IsComponent (name : String) : Prop where
  filled : name ≠ ""
  whole : '/' ∉ name.toList
  notHere : name ≠ "."
  notUp : name ≠ ".."

theorem isComponent_of_isName {name : String} {limit : Nat} (named : IsName name limit) :
    IsComponent name :=
  ⟨named.filled, named.whole, named.notHere, named.notUp⟩

theorem components_join_of_isComponent (base : Path) {name : String} (single : IsComponent name) :
    (base.join name).components = base.components ++ [.name name] := by
  have filled : name.toList ≠ [] := fun empty => single.filled (String.toList_eq_nil_iff.mp empty)
  have notHere : name.toList ≠ ['.'] := fun same => single.notHere (String.toList_inj.mp same)
  have notUp : name.toList ≠ ['.', '.'] := fun same => single.notUp (String.toList_inj.mp same)
  have relative : name.toList.head? ≠ some '/' :=
    fun first => single.whole (List.mem_of_mem_head? first)
  have cut := pieces_of_whole single.whole
  have inner : named [innerPiece name.toList] = [.name name] := by
    simp [named, innerPiece, Piece.component, filled, notHere, notUp]
  by_cases spelled : base.text = ""
  · have alone : base.join name = ⟨name⟩ := by
      unfold join
      rw [spelled]
      exact if_pos (by simp)
    have nothing : base.components = [] := by
      unfold components isAbsolute pieces
      rw [spelled]
      rfl
    have first : firstPiece name.toList = innerPiece name.toList := if_neg (by simpa using notHere)
    have unrooted : (⟨name⟩ : Path).isAbsolute = false := by simpa [isAbsolute] using relative
    rw [alone, nothing, components_eq, unrooted, pieces_eq cut, first]
    exact inner
  · rw [components_join spelled relative, cut]
    exact congrArg (base.components ++ ·) inner

/-! ### What is left of a path -/

theorem root_notMem_named (pieces : List Piece) : Component.root ∉ named pieces := by
  intro member
  obtain ⟨piece, -, same⟩ := List.mem_map.mp member
  unfold Piece.component at same
  split at same
  · cases same
  · split at same
    · cases same
    · cases same

theorem components_ne_nil {path : Path} (spelled : path.text ≠ "") : path.components ≠ [] := by
  intro empty
  rw [components_eq] at empty
  obtain ⟨relative, unnamed⟩ := List.append_eq_nil_iff.mp empty
  cases letters : path.text.toList with
  | nil => exact spelled (String.toList_eq_nil_iff.mp letters)
  | cons char more =>
      by_cases slash : char = '/'
      · simp [isAbsolute, letters, slash] at relative
      · obtain ⟨first, rest, cut⟩ : ∃ first rest,
            Text.pieces (· == '/') path.text.toList = (char :: first) :: rest := by
          rw [letters, Text.pieces_cons, if_neg (by simpa using slash)]
          split
          · exact ⟨[], [], rfl⟩
          · next first rest _ => exact ⟨first, rest, rfl⟩
        have counts : (firstPiece (char :: first)).counts = true := by
          unfold firstPiece
          split
          · rfl
          · next other => simpa [innerPiece] using other
        rw [pieces_eq cut, named, List.filter_cons_of_pos counts] at unnamed
        cases unnamed

theorem dropIdle_isPrefix (pieces : List Piece) : dropIdle pieces <+: pieces := by
  rw [dropIdle, ← List.reverse_suffix, List.reverse_reverse]
  exact List.dropWhile_suffix _

theorem dropIdle_eq_self {pieces : List Piece}
    (ends : ∀ piece, pieces.getLast? = some piece → piece.counts = true) :
    dropIdle pieces = pieces := by
  rcases List.eq_nil_or_concat pieces with rfl | ⟨front, piece, rfl⟩
  · rfl
  · rw [List.concat_eq_append] at ends ⊢
    exact dropIdle_concat front (ends piece List.getLast?_concat)

theorem named_dropIdle (pieces : List Piece) : named (dropIdle pieces) = named pieces := by
  have counted : ∀ others : List Piece,
      (others.dropWhile fun piece => !piece.counts).filter (·.counts) =
        others.filter (·.counts) := by
    intro others
    induction others with
    | nil => rfl
    | cons piece rest ih =>
        cases counts : piece.counts with
        | true => rw [List.dropWhile_cons_of_neg (by simp [counts])]
        | false =>
            rw [List.dropWhile_cons_of_pos (by simp [counts]), ih,
              List.filter_cons_of_neg (by simp [counts])]
  rw [named, named, dropIdle, List.filter_reverse, counted, List.filter_reverse,
    List.reverse_reverse]

section Skip

variable {piece : Piece} (count : Nat) (rest : List Piece)

theorem skip_nil : after?.skip count [] = [] := by
  cases count with
  | zero => rfl
  | succ count => rfl

theorem skip_idle (idle : piece.counts = false) :
    after?.skip count (piece :: rest) = after?.skip count rest := by
  cases count with
  | zero => simp [after?.skip, idle]
  | succ count => simp [after?.skip, idle]

theorem skip_zero (counts : piece.counts = true) :
    after?.skip 0 (piece :: rest) = piece :: rest := by
  simp [after?.skip, counts]

theorem skip_succ (counts : piece.counts = true) :
    after?.skip (count + 1) (piece :: rest) = after?.skip count rest := by
  simp [after?.skip, counts]

end Skip

theorem skip_spec (count : Nat) (pieces : List Piece) :
    after?.skip count pieces <:+ pieces ∧
      named (after?.skip count pieces) = (named pieces).drop count ∧
      ∀ piece, (after?.skip count pieces).head? = some piece → piece.counts = true := by
  induction pieces generalizing count with
  | nil =>
      rw [skip_nil]
      exact ⟨List.suffix_refl _, by simp [named], fun piece none => nomatch none⟩
  | cons piece rest ih =>
      cases counts : piece.counts with
      | false =>
          have same : named (piece :: rest) = named rest := by
            rw [named, List.filter_cons_of_neg (by simp [counts])]
            rfl
          rw [skip_idle count rest counts, same]
          obtain ⟨suffix, left, first⟩ := ih count
          exact ⟨suffix.trans (List.suffix_cons piece rest), left, first⟩
      | true =>
          cases count with
          | zero =>
              rw [skip_zero rest counts]
              refine ⟨List.suffix_refl _, rfl, fun other first => ?_⟩
              obtain rfl : piece = other := by simpa using first
              exact counts
          | succ count =>
              have step : named (piece :: rest) = piece.component :: named rest := by
                rw [named, List.filter_cons_of_pos counts]
                rfl
              rw [skip_succ count rest counts, step, List.drop_succ_cons]
              obtain ⟨suffix, left, first⟩ := ih count
              exact ⟨suffix.trans (List.suffix_cons piece rest), left, first⟩

theorem skip_named (front back : List Piece) :
    after?.skip (named front).length (front ++ back) = after?.skip 0 back := by
  induction front with
  | nil => rfl
  | cons piece front ih =>
      rw [List.cons_append]
      cases counts : piece.counts with
      | false =>
          have same : named (piece :: front) = named front := by
            rw [named, List.filter_cons_of_neg (by simp [counts])]
            rfl
          rw [skip_idle _ _ counts, same, ih]
      | true =>
          have step : named (piece :: front) = piece.component :: named front := by
            rw [named, List.filter_cons_of_pos counts]
            rfl
          rw [step, List.length_cons, skip_succ _ _ counts, ih]

theorem head?_of_isAbsolute {path : Path} (absolute : path.isAbsolute = true) :
    path.text.toList.head? = some '/' := by
  simpa [isAbsolute] using absolute

theorem inner_of_mem_skip {path : Path} {count : Nat} (later : 0 < count ∨ path.isAbsolute = true)
    {piece : Piece} (member : piece ∈ after?.skip count path.pieces) :
    ∃ text ∈ Text.pieces (· == '/') path.text.toList, piece = innerPiece text := by
  cases cut : Text.pieces (· == '/') path.text.toList with
  | nil => exact absurd cut (Text.pieces_ne_nil _)
  | cons first rest =>
      rw [pieces_eq cut] at member
      have behind : ∀ piece ∈ rest.map innerPiece,
          ∃ text ∈ first :: rest, piece = innerPiece text := by
        intro other there
        obtain ⟨text, inside, same⟩ := List.mem_map.mp there
        exact ⟨text, List.mem_cons_of_mem first inside, same.symm⟩
      by_cases absolute : path.isAbsolute = true
      · have empty : first = [] := by
          obtain ⟨rest', letters⟩ := List.head?_eq_some_iff.mp (head?_of_isAbsolute absolute)
          rw [letters, Text.pieces_cons, if_pos (by rfl)] at cut
          exact (List.cons.inj cut).1.symm
        rcases List.mem_cons.mp ((skip_spec count _).1.subset member) with same | there
        · exact ⟨first, List.mem_cons_self, by rw [same, empty]; rfl⟩
        · exact behind piece there
      · have positive : 0 < count := later.resolve_right absolute
        obtain ⟨count, rfl⟩ := Nat.exists_eq_succ_of_ne_zero (Nat.ne_of_gt positive)
        cases counts : (firstPiece first).counts with
        | false =>
            rw [skip_idle _ _ counts] at member
            exact behind piece ((skip_spec _ _).1.subset member)
        | true =>
            rw [skip_succ _ _ counts] at member
            exact behind piece ((skip_spec _ _).1.subset member)

theorem head?_components_eq_root (path : Path) :
    path.components.head? = some .root ↔ path.isAbsolute = true := by
  rw [components_eq]
  cases path.isAbsolute with
  | true => simp
  | false =>
      refine ⟨fun first => ?_, fun absolute => nomatch absolute⟩
      exact absurd (List.mem_of_mem_head? first) (root_notMem_named path.pieces)

theorem named_of_isPrefixOf {base path : Path} (spelled : base.text ≠ "")
    (below : base.components.isPrefixOf path.components = true) :
    base.isAbsolute = path.isAbsolute ∧
      ∃ behind, named path.pieces = named base.pieces ++ behind := by
  obtain ⟨behind, whole⟩ := List.isPrefixOf_iff_prefix.mp below
  obtain ⟨first, more, begins⟩ := List.exists_cons_of_ne_nil (components_ne_nil spelled)
  have sameHead : base.components.head? = path.components.head? := by
    rw [← whole, begins]
    rfl
  have sameRoot : base.isAbsolute = path.isAbsolute := by
    rw [Bool.eq_iff_iff, ← head?_components_eq_root, ← head?_components_eq_root, sameHead]
  refine ⟨sameRoot, behind, ?_⟩
  rw [components_eq base, components_eq path, sameRoot, List.append_assoc] at whole
  exact (List.append_cancel_left whole).symm

theorem length_filter_components (path : Path) :
    (path.components.filter (· != .root)).length = (named path.pieces).length := by
  have kept : (named path.pieces).filter (· != .root) = named path.pieces := by
    rw [List.filter_eq_self]
    intro component member
    have other : component ≠ .root := fun same => root_notMem_named _ (same ▸ member)
    simpa using other
  rw [components_eq, List.filter_append, kept]
  cases path.isAbsolute with
  | true => rfl
  | false => rfl

theorem named_ofPieces {pieces : List Piece}
    (inner : ∀ piece ∈ pieces, piece = innerPiece piece.text ∧ '/' ∉ piece.text) :
    named ((Text.pieces (· == '/') (ofPieces pieces).text.toList).map innerPiece) =
      named pieces := by
  rw [ofPieces, String.toList_ofList]
  cases pieces with
  | nil => rfl
  | cons first rest =>
      rw [Text.pieces_intercalate (by simp), List.map_map]
      · have same : ∀ piece ∈ first :: rest, (innerPiece ∘ Piece.text) piece = piece :=
          fun piece member => (inner piece member).1.symm
        rw [List.map_congr_left same, List.map_id']
      · intro part member char inside
        obtain ⟨piece, there, rfl⟩ := List.mem_map.mp member
        have other : char ≠ '/' := fun slash => (inner piece there).2 (slash ▸ inside)
        simpa using other

theorem head?_ofPieces {pieces : List Piece}
    (inner : ∀ piece ∈ pieces, piece = innerPiece piece.text ∧ '/' ∉ piece.text)
    (first : ∀ piece, pieces.head? = some piece → piece.counts = true) :
    (ofPieces pieces).text.toList.head? ≠ some '/' := by
  rw [ofPieces, String.toList_ofList]
  cases pieces with
  | nil => simp
  | cons piece rest =>
      obtain ⟨same, whole⟩ := inner piece List.mem_cons_self
      have counts : (innerPiece piece.text).counts = true := same ▸ first piece rfl
      obtain ⟨char, more, letters⟩ : ∃ char more, piece.text = char :: more := by
        refine List.exists_cons_of_ne_nil fun empty => ?_
        rw [empty] at counts
        cases counts
      have begins : (List.intercalate ['/'] ((piece :: rest).map Piece.text)).head? =
          some char := by
        cases rest with
        | nil => simp [List.intercalate, letters]
        | cons second others => simp [List.intercalate_cons_cons, letters]
      rw [begins]
      intro slash
      exact whole (letters ▸ Option.some.inj slash ▸ List.mem_cons_self)

/-- What is left of a path after a base, joined to the base again, is the same path. -/
theorem same_join_after? {base path rest : Path} (spelled : base.text ≠ "")
    (below : base.after? path = some rest) : (base.join rest.text).Same path := by
  unfold after? at below
  split at below
  · next isPrefix =>
      dsimp only at below
      rw [if_neg (by simpa using components_ne_nil spelled), length_filter_components] at below
      obtain rfl := Option.some.inj below
      obtain ⟨sameRoot, behind, goesOn⟩ := named_of_isPrefixOf spelled isPrefix
      obtain ⟨-, left, first⟩ := skip_spec (named base.pieces).length path.pieces
      have later : 0 < (named base.pieces).length ∨ path.isAbsolute = true := by
        rw [List.length_pos_iff, ← sameRoot]
        by_cases rooted : base.isAbsolute = true
        · exact .inr rooted
        · have filled := components_ne_nil spelled
          rw [components_eq, if_neg rooted, List.nil_append] at filled
          exact .inl filled
      have inner : ∀ piece ∈ dropIdle (after?.skip (named base.pieces).length path.pieces),
          piece = innerPiece piece.text ∧ '/' ∉ piece.text := by
        intro piece member
        obtain ⟨text, inside, rfl⟩ :=
          inner_of_mem_skip later ((dropIdle_isPrefix _).subset member)
        refine ⟨rfl, fun slash => ?_⟩
        have whole := Text.test_of_mem_pieces inside '/' slash
        cases whole
      have relative : (ofPieces (dropIdle (after?.skip (named base.pieces).length
          path.pieces))).text.toList.head? ≠ some '/' := by
        refine head?_ofPieces inner fun piece begins => first piece ?_
        obtain ⟨back, whole⟩ := dropIdle_isPrefix
          (after?.skip (named base.pieces).length path.pieces)
        rw [← whole, List.head?_append, begins]
        rfl
      unfold Same
      rw [components_join spelled relative, named_ofPieces inner, named_dropIdle, left, goesOn,
        List.drop_left, components_eq base, components_eq path, sameRoot, goesOn,
        List.append_assoc]
  · cases below

/-- What is left of a joined path after its base is what was joined to it, if every piece of that
names something. -/
theorem after?_join {base : Path} (spelled : base.text ≠ "") {rest : String}
    (relative : rest.toList.head? ≠ some '/')
    (counted : ∀ text ∈ Text.pieces (· == '/') rest.toList, (innerPiece text).counts = true) :
    base.after? (base.join rest) = some ⟨rest⟩ := by
  obtain ⟨front, same, cut⟩ := pieces_join_of_relative spelled relative
  have below : base.components.isPrefixOf (base.join rest).components = true := by
    rw [components_join spelled relative]
    exact List.isPrefixOf_iff_prefix.mpr (List.prefix_append _ _)
  have left : after?.skip 0 ((Text.pieces (· == '/') rest.toList).map innerPiece) =
      (Text.pieces (· == '/') rest.toList).map innerPiece := by
    cases first : Text.pieces (· == '/') rest.toList with
    | nil => rfl
    | cons text others =>
        rw [first] at counted
        exact skip_zero _ (counted text List.mem_cons_self)
  have whole : dropIdle ((Text.pieces (· == '/') rest.toList).map innerPiece) =
      (Text.pieces (· == '/') rest.toList).map innerPiece := by
    refine dropIdle_eq_self fun piece last => ?_
    obtain ⟨text, member, rfl⟩ := List.mem_map.mp (List.mem_of_getLast? last)
    exact counted text member
  have spelledAgain : ofPieces ((Text.pieces (· == '/') rest.toList).map innerPiece) = ⟨rest⟩ := by
    rw [ofPieces, List.map_map, show Piece.text ∘ innerPiece = id from rfl, List.map_id,
      Text.intercalate_pieces, String.ofList_toList]
  unfold after?
  rw [if_pos below]
  dsimp only
  rw [if_neg (by simpa using components_ne_nil spelled), length_filter_components, cut, ← same,
    skip_named, left, whole, spelledAgain]

/-- What is left of a path that ends with a name is spelled as the end of the path. -/
theorem isSuffix_of_after? {base path rest : Path} (spelled : base.text ≠ "")
    (ends : ∀ piece, path.pieces.getLast? = some piece → piece.counts = true)
    (below : base.after? path = some rest) : rest.text.toList <:+ path.text.toList := by
  unfold after? at below
  split at below
  · dsimp only at below
    rw [if_neg (by simpa using components_ne_nil spelled)] at below
    obtain rfl := Option.some.inj below
    generalize (base.components.filter (· != .root)).length = count
    obtain ⟨⟨front, whole⟩, -⟩ := skip_spec count path.pieces
    have kept : dropIdle (after?.skip count path.pieces) = after?.skip count path.pieces := by
      refine dropIdle_eq_self fun piece last => ends piece ?_
      rw [← whole, List.getLast?_append, last]
      rfl
    have text := Text.intercalate_pieces '/' path.text.toList
    rw [← map_text_pieces, ← whole, List.map_append] at text
    rw [kept, ofPieces, String.toList_ofList, ← text]
    by_cases nothing : after?.skip count path.pieces = []
    · rw [nothing]
      exact List.nil_suffix
    · by_cases start : front = []
      · rw [start]
        exact List.suffix_refl _
      · rw [Text.intercalate_append '/' (by simpa using start) (by simpa using nothing)]
        exact (List.suffix_cons _ _).trans (List.suffix_append _ _)
  · cases below

end Path

end Courier
