import Courier.Json.Basic
import Courier.Json.Scan
/-!
The texts of a tree. A tree is written with any blanks between its parts, and each of its strings
and numbers in one way. Main statements: the compact form of a tree and the form with lines are such
texts.
-/

namespace Courier.Json

def spell (chars : List Char) : Bytes :=
  chars.flatMap String.utf8EncodeChar

theorem encode_ofList (chars : List Char) : Utf8.encode (String.ofList chars) = spell chars := by
  unfold Utf8.encode spell
  rw [String.toByteArray_ofList, List.utf8Encode, List.data_toByteArray, List.toList_toArray]

theorem encode_eq_spell (text : String) : Utf8.encode text = spell text.toList := by
  rw [← encode_ofList, String.ofList_toList]

@[simp] theorem spell_nil : spell [] = [] := rfl

@[simp] theorem spell_cons (char : Char) (chars : List Char) :
    spell (char :: chars) = String.utf8EncodeChar char ++ spell chars := List.flatMap_cons

@[simp] theorem spell_append (front rest : List Char) :
    spell (front ++ rest) = spell front ++ spell rest := List.flatMap_append

theorem utf8EncodeChar_of_ascii {char : Char} (ascii : char.toNat ≤ 127) :
    String.utf8EncodeChar char = [byteOf char] := by
  unfold String.utf8EncodeChar
  exact if_pos ascii

def Blanks (bytes : Bytes) : Prop :=
  ∀ byte ∈ bytes, isBlankByte byte = true

theorem blanks_nil : Blanks [] := by
  intro byte member
  cases member

/-- The blanks before an element, with a comma in them unless it is the first one. -/
def lead (first : Bool) (before after : Bytes) : Bytes :=
  if first then before else before ++ byteOf ',' :: after

inductive Listed {α : Type} (closing : Char) (element : α → Bytes → Prop) :
    Bool → List α → Bytes → Prop
  | done {first : Bool} {blanks : Bytes} (blank : Blanks blanks) :
      Listed closing element first [] (blanks ++ [byteOf closing])
  | next {first : Bool} {before after bytes later : Bytes} {value : α} {rest : List α}
      (blankBefore : Blanks before) (blankAfter : Blanks after) (written : element value bytes)
      (others : Listed closing element false rest later) :
      Listed closing element first (value :: rest) (lead first before after ++ bytes ++ later)

mutual

/-- The texts of a tree, which begin with no blank. -/
inductive Written : Json → Bytes → Prop
  | nullWord : Written .null (spell ['n', 'u', 'l', 'l'])
  | trueWord : Written (.boolean true) (spell ['t', 'r', 'u', 'e'])
  | falseWord : Written (.boolean false) (spell ['f', 'a', 'l', 's', 'e'])
  | integer (value : Int) : Written (.integer value) (spell (writeInteger value))
  | string (text : String) : Written (.string text) (spell (writeString text))
  | array {items : List Json} {bytes : Bytes} (listed : Listed ']' Written true items bytes) :
      Written (.array items) (byteOf '[' :: bytes)
  | object {members : List (String × Json)} {bytes : Bytes}
      (listed : Listed '}' WrittenMember true members bytes) :
      Written (.object members) (byteOf '{' :: bytes)

inductive WrittenMember : String × Json → Bytes → Prop
  | mk {name : String} {value : Json} {gap space bytes : Bytes} (blankGap : Blanks gap)
      (blankSpace : Blanks space) (written : Written value bytes) :
      WrittenMember (name, value)
        (spell (writeString name) ++ (gap ++ byteOf ':' :: (space ++ bytes)))

end

def separated {α : Type} (part : α → List Char) : List α → List Char
  | [] => []
  | first :: rest => part first ++ rest.flatMap fun other => ',' :: part other

theorem separated_cons_cons {α : Type} (part : α → List Char) (first second : α)
    (rest : List α) :
    separated part (first :: second :: rest) =
      part first ++ ',' :: separated part (second :: rest) := by
  simp [separated]

def WrittenAfter {α : Type} (element : α → Bytes → Prop) (value : α) (bytes : Bytes) : Prop :=
  ∃ before text, Blanks before ∧ element value text ∧ bytes = before ++ text

section Listed

variable {α : Type} {closing : Char} {element : α → Bytes → Prop} {part : α → List Char}

theorem listed_rest (ascii : closing.toNat ≤ 127) {tail : List Char}
    (blank : Blanks (spell tail)) {rest : List α}
    (written : ∀ value ∈ rest, WrittenAfter element value (spell (part value))) :
    Listed closing element false rest
      (spell ((rest.flatMap fun other => ',' :: part other) ++ tail ++ [closing])) := by
  induction rest with
  | nil =>
      have ends : Listed closing element false [] (spell tail ++ [byteOf closing]) := .done blank
      simpa [utf8EncodeChar_of_ascii ascii] using ends
  | cons value rest ih =>
      obtain ⟨before, text, blankBefore, writes, spelled⟩ := written value List.mem_cons_self
      have others := ih fun other member => written other (List.mem_cons_of_mem value member)
      have listed : Listed closing element false (value :: rest) _ :=
        .next blanks_nil blankBefore writes others
      have comma : String.utf8EncodeChar ',' = [byteOf ','] := utf8EncodeChar_of_ascii (by decide)
      simpa [lead, spelled, comma] using listed

theorem listed_separated (closing : Char) (tail : List Char) (ascii : closing.toNat ≤ 127)
    (blank : Blanks (spell tail)) {values : List α}
    (written : ∀ value ∈ values, WrittenAfter element value (spell (part value))) :
    Listed closing element true values
      (spell (separated part values ++ tail ++ [closing])) := by
  cases values with
  | nil =>
      have ends : Listed closing element true [] (spell tail ++ [byteOf closing]) := .done blank
      simpa [separated, utf8EncodeChar_of_ascii ascii] using ends
  | cons value rest =>
      obtain ⟨before, text, blankBefore, writes, spelled⟩ := written value List.mem_cons_self
      have others := listed_rest ascii blank fun other member =>
        written other (List.mem_cons_of_mem value member)
      have listed : Listed closing element true (value :: rest) _ :=
        .next blankBefore blanks_nil writes others
      simpa [lead, separated, spelled] using listed

end Listed

def writeMember (member : String × Json) : List Char :=
  writeString member.1 ++ ':' :: write member.2

theorem writeItems_eq (items : List Json) : writeItems items = separated write items := by
  induction items with
  | nil => rfl
  | cons item rest ih =>
      cases rest with
      | nil => simp [writeItems, separated]
      | cons second others =>
          rw [separated_cons_cons, ← ih]
          rfl

theorem writeMembers_eq (members : List (String × Json)) :
    writeMembers members = separated writeMember members := by
  induction members with
  | nil => rfl
  | cons member rest ih =>
      cases rest with
      | nil => simp [writeMembers, writeMember, separated]
      | cons second others =>
          rw [separated_cons_cons, ← ih]
          simp [writeMembers, writeMember]

theorem spell_brace : String.utf8EncodeChar '{' = [byteOf '{'] :=
  utf8EncodeChar_of_ascii (by decide)

theorem spell_bracket : String.utf8EncodeChar '[' = [byteOf '['] :=
  utf8EncodeChar_of_ascii (by decide)

theorem spell_colon : String.utf8EncodeChar ':' = [byteOf ':'] :=
  utf8EncodeChar_of_ascii (by decide)

theorem sizeOf_value_lt {α β : Type} [SizeOf α] [SizeOf β] {members : List (α × β)}
    {member : α × β} (inside : member ∈ members) : sizeOf member.2 < sizeOf members := by
  have smaller := List.sizeOf_lt_of_mem inside
  obtain ⟨name, value⟩ := member
  simp only [Prod.mk.sizeOf_spec] at smaller ⊢
  omega

theorem written_write (tree : Json) : Written tree (spell (write tree)) := by
  match tree with
  | .null => exact .nullWord
  | .boolean true => exact .trueWord
  | .boolean false => exact .falseWord
  | .integer value => exact .integer value
  | .string text => exact .string text
  | .array items =>
      have parts : ∀ item ∈ items, WrittenAfter Written item (spell (write item)) :=
        fun item member => ⟨[], _, blanks_nil, written_write item, rfl⟩
      have listed := listed_separated ']' [] (by decide) blanks_nil parts
      have whole := Written.array listed
      simpa [write, writeItems_eq, spell_bracket] using whole
  | .object members =>
      have parts : ∀ member ∈ members,
          WrittenAfter WrittenMember member (spell (writeMember member)) := by
        intro member inside
        have smaller := sizeOf_value_lt inside
        have written := @WrittenMember.mk member.1 member.2 [] [] _ blanks_nil blanks_nil
          (written_write member.2)
        exact ⟨[], _, blanks_nil, written, by simp [writeMember, spell_colon]⟩
      have listed := listed_separated '}' [] (by decide) blanks_nil parts
      have whole := Written.object listed
      simpa [write, writeMembers_eq, spell_brace] using whole
termination_by sizeOf tree

theorem blanks_newLine (depth : Nat) : Blanks (spell (newLine depth)) := by
  have blank : ∀ count, Blanks (spell (List.replicate count ' ')) := by
    intro count
    induction count with
    | zero => exact blanks_nil
    | succ count ih =>
        intro byte member
        rw [List.replicate_succ, spell_cons, utf8EncodeChar_of_ascii (by decide)] at member
        rcases List.mem_cons.mp member with rfl | inside
        · decide
        · exact ih byte inside
  intro byte member
  rw [newLine, spell_cons, utf8EncodeChar_of_ascii (by decide)] at member
  rcases List.mem_cons.mp member with rfl | inside
  · decide
  · exact blank _ byte inside

def itemLine (depth : Nat) (item : Json) : List Char :=
  newLine depth ++ writeLines depth item

def memberLine (depth : Nat) (member : String × Json) : List Char :=
  newLine depth ++ writeString member.1 ++ ':' :: ' ' :: writeLines depth member.2

theorem writeItemLines_eq (depth : Nat) (items : List Json) :
    writeItemLines depth items = separated (itemLine depth) items := by
  induction items with
  | nil => simp [writeItemLines, separated]
  | cons item rest ih =>
      cases rest with
      | nil => simp [writeItemLines, itemLine, separated]
      | cons second others =>
          rw [separated_cons_cons, ← ih]
          simp [writeItemLines, itemLine]

theorem writeMemberLines_eq (depth : Nat) (members : List (String × Json)) :
    writeMemberLines depth members = separated (memberLine depth) members := by
  induction members with
  | nil => simp [writeMemberLines, separated]
  | cons member rest ih =>
      cases rest with
      | nil => simp [writeMemberLines, memberLine, separated]
      | cons second others =>
          rw [separated_cons_cons, ← ih]
          simp [writeMemberLines, memberLine]

theorem written_writeLines (depth : Nat) (tree : Json) :
    Written tree (spell (writeLines depth tree)) := by
  match tree with
  | .null => simpa [writeLines] using Written.nullWord
  | .boolean true => simpa [writeLines] using Written.trueWord
  | .boolean false => simpa [writeLines] using Written.falseWord
  | .integer value => simpa [writeLines] using Written.integer value
  | .string text => simpa [writeLines] using Written.string text
  | .array [] => simpa [writeLines, write, writeItems] using written_write (.array [])
  | .array (first :: rest) =>
      have parts : ∀ item ∈ first :: rest,
          WrittenAfter Written item (spell (itemLine (depth + 1) item)) := by
        intro item member
        refine ⟨_, _, blanks_newLine (depth + 1), written_writeLines (depth + 1) item, ?_⟩
        rw [itemLine, spell_append]
      have listed := listed_separated ']' _ (by decide) (blanks_newLine depth) parts
      have whole := Written.array listed
      simpa [writeLines, writeItemLines_eq, spell_bracket] using whole
  | .object [] => simpa [writeLines, write, writeMembers] using written_write (.object [])
  | .object (first :: rest) =>
      have parts : ∀ member ∈ first :: rest,
          WrittenAfter WrittenMember member (spell (memberLine (depth + 1) member)) := by
        intro member inside
        have smaller : sizeOf member.2 < 1 + sizeOf first + sizeOf rest := sizeOf_value_lt inside
        have space : Blanks (spell [' ']) := by
          intro byte blank
          rw [List.mem_singleton.mp blank]
          decide
        have written := @WrittenMember.mk member.1 member.2 [] _ _ blanks_nil space
          (written_writeLines (depth + 1) member.2)
        exact ⟨_, _, blanks_newLine (depth + 1), written, by simp [memberLine, spell_colon]⟩
      have listed := listed_separated '}' _ (by decide) (blanks_newLine depth) parts
      have whole := Written.object listed
      simpa [writeLines, writeMemberLines_eq, spell_brace] using whole
termination_by sizeOf tree

theorem written_encode (tree : Json) :
    Written tree (Utf8.encode tree.compact) ∧ Written tree (Utf8.encode tree.pretty) := by
  unfold compact pretty
  rw [encode_ofList, encode_ofList]
  exact ⟨written_write tree, written_writeLines 0 tree⟩

end Courier.Json
