import Courier.Proofs.Json.Tokens
/-!
Passing over values. Whoever passes over a text stands somewhere in it, awaits something, and keeps
the arrays and objects that are open; from there it moves on. Main statement: the text of every form
is passed over, however deep it is.
-/

namespace Courier.Json

structure Standing where
  awaited : Awaited
  frames : List Frame
  text : Bytes

/-- What is passed over from the first standing on is passed over from the second one on. -/
def Moves (early late : Standing) : Prop :=
  ∀ (whole : Bytes) (within : early.text.length ≤ whole.length)
    (begun : early.awaited = .value ∨ early.text.length < whole.length),
    ∃ inside later, skipOpen early.awaited early.frames early.text within begun =
      (skipOpen late.awaited late.frames late.text inside later : Except Fault (Rest whole Unit))

theorem Moves.trans {first second third : Standing} (early : Moves first second)
    (late : Moves second third) : Moves first third := by
  intro whole within begun
  obtain ⟨inside, later, same⟩ := early whole within begun
  rw [same]
  exact late whole inside later

section Steps

variable {frames : List Frame} {text rest : Bytes} {first : UInt8}

theorem moves_scalar (found : skipBlanks text = first :: rest) (noList : first ≠ byteOf '[')
    (noObject : first ≠ byteOf '{') {left : Bytes}
    (skips : parts? (skipScalar first rest) = some ((), left)) :
    Moves ⟨.value, frames, text⟩ ⟨.next, frames, left⟩ := by
  intro whole within begun
  obtain ⟨shorter, scalar⟩ := eq_ok_of_parts? skips
  have bound : left.length < whole.length :=
    Nat.lt_of_lt_of_le shorter (Nat.le_trans (length_le_of_skipBlanks found) within)
  refine ⟨Nat.le_of_lt bound, .inr bound, ?_⟩
  dsimp only
  rw [skipOpen]
  refine (ahead_of_cons found _ _).trans ?_
  rw [if_neg noList, if_neg noObject, scalar]

theorem moves_past {early late : Awaited} {opened : List Frame}
    (found : skipBlanks text = first :: rest)
    (steps : ∀ (whole : Bytes) (within : text.length ≤ whole.length) begun inside later,
      skipOpen early opened text within begun =
        (skipOpen late frames rest inside later : Except Fault (Rest whole Unit))) :
    Moves ⟨early, opened, text⟩ ⟨late, frames, rest⟩ := by
  intro whole within begun
  have bound : rest.length < whole.length :=
    Nat.lt_of_lt_of_le (length_lt_of_skipBlanks found) within
  exact ⟨Nat.le_of_lt bound, .inr bound, steps whole within begun _ _⟩

theorem moves_openList (found : skipBlanks text = byteOf '[' :: rest) :
    Moves ⟨.value, frames, text⟩ ⟨.firstItem, .list :: frames, rest⟩ := by
  refine moves_past found fun whole within begun inside later => ?_
  rw [skipOpen]
  refine (ahead_of_cons found _ _).trans ?_
  rw [if_pos rfl]

theorem moves_openObject (found : skipBlanks text = byteOf '{' :: rest) :
    Moves ⟨.value, frames, text⟩ ⟨.firstMember, .object :: frames, rest⟩ := by
  refine moves_past found fun whole within begun inside later => ?_
  rw [skipOpen]
  refine (ahead_of_cons found _ _).trans ?_
  rw [if_neg (by decide), if_pos rfl]

theorem moves_member (names : parts? (skipName text) = some ((), rest)) :
    Moves ⟨.member, frames, text⟩ ⟨.value, frames, rest⟩ := by
  intro whole within begun
  obtain ⟨shorter, name⟩ := eq_ok_of_parts? names
  refine ⟨Nat.le_of_lt (Nat.lt_of_lt_of_le shorter within), .inl rfl, ?_⟩
  dsimp only
  rw [skipOpen, name]

end Steps

def Frame.opening : Frame → Awaited
  | .list => .firstItem
  | .object => .firstMember

def Frame.element : Frame → Awaited
  | .list => .value
  | .object => .member

def Frame.closing : Frame → Char
  | .list => ']'
  | .object => '}'

section Frames

variable (frame : Frame) {frames : List Frame} {text rest : Bytes}

theorem moves_close_first (found : skipBlanks text = byteOf frame.closing :: rest) :
    Moves ⟨frame.opening, frame :: frames, text⟩ ⟨.next, frames, rest⟩ := by
  cases frame with
  | list =>
      change Moves ⟨.firstItem, .list :: frames, text⟩ _
      refine moves_past found fun whole within begun inside later => ?_
      rw [skipOpen]
      refine (ahead_of_cons found _ _).trans ?_
      exact if_pos rfl
  | object =>
      change Moves ⟨.firstMember, .object :: frames, text⟩ _
      refine moves_past found fun whole within begun inside later => ?_
      rw [skipOpen]
      refine (ahead_of_cons found _ _).trans ?_
      exact if_pos rfl

theorem moves_close (found : skipBlanks text = byteOf frame.closing :: rest) :
    Moves ⟨.next, frame :: frames, text⟩ ⟨.next, frames, rest⟩ := by
  refine moves_past found fun whole within begun inside later => ?_
  cases frame with
  | list =>
      rw [skipOpen]
      refine (ahead_of_cons found _ _).trans ?_
      rw [if_neg (by decide)]
      exact if_pos rfl
  | object =>
      rw [skipOpen]
      refine (ahead_of_cons found _ _).trans ?_
      rw [if_neg (by decide)]
      exact if_pos rfl

theorem moves_first {first : UInt8} (found : skipBlanks text = first :: rest)
    (opens : first ≠ byteOf frame.closing) :
    Moves ⟨frame.opening, frame :: frames, text⟩ ⟨frame.element, frame :: frames, text⟩ := by
  cases frame with
  | list =>
      change Moves ⟨.firstItem, .list :: frames, text⟩ ⟨.value, .list :: frames, text⟩
      intro whole within begun
      refine ⟨within, .inl rfl, ?_⟩
      dsimp only
      conv => lhs; rw [skipOpen]
      refine (ahead_of_cons found _ _).trans ?_
      exact if_neg opens
  | object =>
      change Moves ⟨.firstMember, .object :: frames, text⟩ ⟨.member, .object :: frames, text⟩
      intro whole within begun
      have shorter : text.length < whole.length :=
        begun.resolve_left (by simp)
      refine ⟨within, .inr shorter, ?_⟩
      dsimp only
      conv => lhs; rw [skipOpen]
      refine (ahead_of_cons found _ _).trans ?_
      exact if_neg opens

theorem moves_comma (found : skipBlanks text = byteOf ',' :: rest) :
    Moves ⟨.next, frame :: frames, text⟩ ⟨frame.element, frame :: frames, rest⟩ := by
  refine moves_past found fun whole within begun inside later => ?_
  cases frame with
  | list =>
      rw [skipOpen]
      exact (ahead_of_cons found _ _).trans (if_pos rfl)
  | object =>
      rw [skipOpen]
      exact (ahead_of_cons found _ _).trans (if_pos rfl)

/-- An element is passed over, with the blanks before it. -/
def PassesElement (bytes : Bytes) : Prop :=
  ∀ frames blanks rest, Blanks blanks → Ends rest →
    Moves ⟨frame.element, frame :: frames, blanks ++ (bytes ++ rest)⟩ ⟨.next, frame :: frames, rest⟩

variable {α : Type} {element : α → Bytes → Prop}

theorem ends_closing (rest : Bytes) : Ends (byteOf frame.closing :: rest) := by
  cases frame with
  | list => exact ends_bracket rest
  | object => exact ends_brace rest

theorem closing_solid : isBlankByte (byteOf frame.closing) = false := by
  cases frame with
  | list => rfl
  | object => rfl

theorem moves_rest {values : List α} {bytes : Bytes}
    (listed : Listed frame.closing element false values bytes)
    (passes : ∀ value ∈ values, ∀ bytes, element value bytes → PassesElement frame bytes) :
    Moves ⟨.next, frame :: frames, bytes ++ rest⟩ ⟨.next, frames, rest⟩ := by
  induction values generalizing bytes with
  | nil =>
      cases listed with
      | done blank =>
          rw [List.append_assoc]
          exact moves_close frame (skipBlanks_blanks blank (closing_solid frame) rest)
  | cons value values ih =>
      cases listed with
      | @next _ before after text more _ _ blankBefore blankAfter written others =>
          have comma : isBlankByte (byteOf ',') = false := by decide
          have cut : lead false before after ++ text ++ more ++ rest =
              before ++ byteOf ',' :: (after ++ (text ++ (more ++ rest))) := by
            unfold lead
            simp only [Bool.false_eq_true, if_false, List.append_assoc, List.cons_append]
          rw [cut]
          have element := passes value List.mem_cons_self text written frames after (more ++ rest)
            blankAfter (ends_of_listed (ends_closing frame) others rest)
          exact (moves_comma frame (skipBlanks_blanks blankBefore comma _)).trans (element.trans
            (ih others fun other member => passes other (List.mem_cons_of_mem value member)))

theorem moves_listed {values : List α} {bytes : Bytes}
    (listed : Listed frame.closing element true values bytes)
    (begins : ∀ value ∈ values, ∀ bytes, element value bytes → ∃ first more,
      bytes = first :: more ∧ isBlankByte first = false ∧ first ≠ byteOf frame.closing)
    (passes : ∀ value ∈ values, ∀ bytes, element value bytes → PassesElement frame bytes) :
    Moves ⟨frame.opening, frame :: frames, bytes ++ rest⟩ ⟨.next, frames, rest⟩ := by
  cases listed with
  | done blank =>
      rw [List.append_assoc]
      exact moves_close_first frame (skipBlanks_blanks blank (closing_solid frame) rest)
  | @next _ before after text more value values blankBefore blankAfter written others =>
      obtain ⟨first, left, rfl, solid, opens⟩ := begins value List.mem_cons_self text written
      have cut : lead true before after ++ (first :: left) ++ more ++ rest =
          before ++ ((first :: left) ++ (more ++ rest)) := by
        unfold lead
        simp only [if_true, List.append_assoc]
      rw [cut]
      have element := passes value List.mem_cons_self _ written frames before (more ++ rest)
        blankBefore (ends_of_listed (ends_closing frame) others rest)
      exact (moves_first frame (skipBlanks_blanks blankBefore solid _) opens).trans (element.trans
        (moves_rest frame others fun other member =>
          passes other (List.mem_cons_of_mem value member)))

end Frames

theorem parts?_skipName {text more rest : Bytes} {inside gap : Bytes} (quoted : Quoted inside)
    (blank : Blanks gap) (found : skipBlanks text = byteOf '"' :: more)
    (spelled : more = inside ++ byteOf '"' :: (gap ++ byteOf ':' :: rest)) :
    parts? (skipName text) = some ((), rest) := by
  have solid : isBlankByte (byteOf ':') = false := by decide
  unfold skipName
  refine (congrArg parts? (ahead_of_cons found _ _)).trans ?_
  subst spelled
  rw [if_pos rfl]
  obtain ⟨shorter, name⟩ := eq_ok_of_parts?
    (parts?_skipStringAfterQuote quoted (byteOf '"') (gap ++ byteOf ':' :: rest))
  obtain ⟨later, mark⟩ := eq_ok_of_parts (parts_colon (skipBlanks_blanks blank solid rest))
  rw [name]
  simp only [bind, Except.bind, mark]
  rfl

/-- A value is passed over, with the blanks before it. -/
def PassesOver (bytes : Bytes) : Prop :=
  ∀ frames blanks rest, Blanks blanks → Ends rest →
    Moves ⟨.value, frames, blanks ++ (bytes ++ rest)⟩ ⟨.next, frames, rest⟩

theorem PassesOver.of_scalar {first : UInt8} {more : Bytes} (solid : isBlankByte first = false)
    (noList : first ≠ byteOf '[') (noObject : first ≠ byteOf '{')
    (skips : ∀ rest, Ends rest → parts? (skipScalar first (more ++ rest)) = some ((), rest)) :
    PassesOver (first :: more) := by
  intro frames blanks rest blank ends
  exact moves_scalar (skipBlanks_blanks blank solid (more ++ rest)) noList noObject
    (skips rest ends)

theorem passesOver_numeral {digits : Bytes} (numeral : Numeral digits) : PassesOver digits := by
  cases numeral with
  | positive unsigned =>
      obtain ⟨first, more, rfl, digit⟩ := unsigned.begins
      have apart : ∀ other, isDigitByte other = false → first ≠ other :=
        fun other special => ne_of_isDigitByte digit special
      refine .of_scalar (isBlankByte_of_isDigitByte digit) (apart _ (by decide))
        (apart _ (by decide)) fun rest ends => ?_
      unfold skipScalar
      rw [if_neg (apart _ (by decide)), if_neg (apart _ (by decide)), if_neg (apart _ (by decide)),
        if_neg (apart _ (by decide)), if_pos digit]
      exact parts?_skipNumberDigits unsigned ends
  | negative unsigned =>
      refine .of_scalar (by decide) (by decide) (by decide) fun rest ends => ?_
      unfold skipScalar
      rw [if_neg (by decide), if_neg (by decide), if_neg (by decide), if_pos rfl, parts?_widen]
      exact parts?_skipNumberDigits unsigned ends

theorem passesElement_member {inside : Bytes} {value : Form} {bytes : Bytes}
    (laid : LaidMember (inside, value) bytes)
    (passes : ∀ bytes, Laid value bytes → PassesOver bytes) : PassesElement .object bytes := by
  intro frames blanks rest blank ends
  cases laid with
  | @mk _ _ gap space text quoted blankGap blankSpace laid =>
      have solid : isBlankByte (byteOf '"') = false := by decide
      have found := skipBlanks_blanks blank solid
        (inside ++ byteOf '"' :: (gap ++ byteOf ':' :: (space ++ (text ++ rest))))
      have names := parts?_skipName quoted blankGap found rfl
      have cut : blanks ++ (byteOf '"' ::
          (inside ++ byteOf '"' :: (gap ++ byteOf ':' :: (space ++ text))) ++ rest) =
          blanks ++ byteOf '"' ::
            (inside ++ byteOf '"' :: (gap ++ byteOf ':' :: (space ++ (text ++ rest)))) := by
        simp only [List.append_assoc, List.cons_append]
      rw [cut]
      exact (moves_member names).trans
        (passes text laid (.object :: frames) space rest blankSpace ends)

/-- The text of every form is passed over. -/
theorem passesOver {form : Form} {bytes : Bytes} (laid : Laid form bytes) : PassesOver bytes := by
  match form, laid with
  | _, .nullWord =>
      exact .of_scalar (by decide) (by decide) (by decide) fun rest ends => rfl
  | _, .trueWord =>
      exact .of_scalar (by decide) (by decide) (by decide) fun rest ends => rfl
  | _, .falseWord =>
      exact .of_scalar (by decide) (by decide) (by decide) fun rest ends => rfl
  | _, .number numeral => exact passesOver_numeral numeral
  | _, .string quoted =>
      refine .of_scalar (by decide) (by decide) (by decide) fun rest ends => ?_
      rw [List.append_assoc]
      exact parts?_skipStringAfterQuote quoted (byteOf '"') rest
  | .array items, .array listed =>
      intro frames blanks rest blank ends
      have bracket : isBlankByte (byteOf '[') = false := by decide
      rw [List.cons_append]
      refine (moves_openList (skipBlanks_blanks blank bracket _)).trans ?_
      refine moves_listed .list listed (fun item member bytes laid => ?_)
        fun item member bytes laid => ?_
      · obtain ⟨first, more, spelled, solid, opens, -⟩ := laid.head
        exact ⟨first, more, spelled, solid, opens⟩
      · exact fun frames => passesOver laid (.list :: frames)
  | .object members, .object listed =>
      intro frames blanks rest blank ends
      have brace : isBlankByte (byteOf '{') = false := by decide
      rw [List.cons_append]
      refine (moves_openObject (skipBlanks_blanks blank brace _)).trans ?_
      refine moves_listed .object listed (fun entry member bytes laid => ?_)
        fun entry member bytes laid => ?_
      · cases laid with
        | mk quoted blankGap blankSpace laid =>
            exact ⟨_, _, rfl, by decide, by decide⟩
      · have smaller := sizeOf_value_lt member
        exact passesElement_member laid fun bytes laid => passesOver laid
termination_by sizeOf form

end Courier.Json
