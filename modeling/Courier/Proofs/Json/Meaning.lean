import Courier.Proofs.Json.Members
import Courier.Proofs.Json.Skips
import Mathlib.Data.Multiset.ZeroCons
/-!
The meaning of forms. What a reader gets from a text is a function of the form alone, so that it
does not depend on blanks. Main statement: so it is for texts, whole numbers, values that may be
missing, tables, and records, in either of the ways in which a record may be written.
-/

namespace Courier.Json

variable {α β ρ : Type}

/-- The reader gets the meaning of a form from every text of it, and fails if it has none. -/
def Gets (reader : Reader α) (meaning : Form → Option α) : Prop :=
  ∀ form bytes, Laid form bytes → ∀ blanks rest, Blanks blanks → Ends rest →
    parts? (reader (blanks ++ (bytes ++ rest))) = (meaning form).map fun value => (value, rest)

theorem Gets.map {reader : Reader α} {meaning : Form → Option α} (gets : Gets reader meaning)
    (f : α → β) : Gets (reader.map f) fun form => (meaning form).map f := by
  intro form bytes laid blanks rest blank ends
  unfold Reader.map
  rw [parts?_map, gets form bytes laid blanks rest blank ends]
  dsimp only
  cases meaning form with
  | none => rfl
  | some value => rfl

/-- A whole text is read as the meaning of its form. -/
theorem Gets.parse {reader : Reader α} {meaning : Form → Option α} (gets : Gets reader meaning)
    {form : Form} {text : Bytes} (spreads : form.Spreads text) :
    (Json.parse reader text).toOption = meaning form := by
  obtain ⟨before, bytes, after, blankBefore, laid, blankAfter, rfl⟩ := spreads
  have ends : Ends after := by
    have behind := ends_blanks blankAfter ends_nil
    rwa [List.append_nil] at behind
  have reads := gets form bytes laid before after blankBefore ends
  unfold Json.parse
  cases means : meaning form with
  | none =>
      rw [means] at reads
      obtain ⟨fault, fails⟩ := eq_error_of_parts? reads
      rw [fails]
      rfl
  | some value =>
      rw [means] at reads
      obtain ⟨shorter, found⟩ := eq_ok_of_parts? reads
      have nothing : skipBlanks after = [] := by
        have left := skipBlanks_append blankAfter []
        rwa [List.append_nil] at left
      rw [found]
      simp only [bind, Except.bind, nothing]
      rfl

theorem gets_skipValue : Gets skipValue fun _ => some () := by
  intro form bytes laid blanks rest blank ends
  unfold skipValue
  obtain ⟨inside, later, same⟩ := passesOver laid [] blanks rest blank ends
    (blanks ++ (bytes ++ rest)) (length_le_self _) (.inl rfl)
  refine (congrArg parts? same).trans ?_
  dsimp only
  rw [skipOpen]
  rfl

theorem parts?_afterColon {reader : Reader α} {meaning : Form → Option α}
    (gets : Gets reader meaning) {form : Form} {gap space bytes rest : Bytes}
    (laid : Laid form bytes) (blankGap : Blanks gap) (blankSpace : Blanks space)
    (ends : Ends rest) :
    parts? (afterColon reader (gap ++ byteOf ':' :: (space ++ (bytes ++ rest)))) =
      (meaning form).map fun value => (value, rest) := by
  have solid : isBlankByte (byteOf ':') = false := by decide
  obtain ⟨shorter, mark⟩ := eq_ok_of_parts
    (parts_colon (skipBlanks_blanks blankGap solid (space ++ (bytes ++ rest))))
  unfold afterColon
  rw [mark]
  dsimp only
  rw [parts?_widen]
  exact gets form bytes laid space rest blankSpace ends

def Form.text? : Form → Option String
  | .string inside => spelled? inside
  | _ => none

theorem gets_text : Gets text Form.text? := by
  intro form bytes laid blanks rest blank ends
  unfold text
  rw [parts?_atValue, laid.skipBlanks blank]
  cases laid with
  | nullWord => rfl
  | trueWord => rfl
  | falseWord => rfl
  | number numeral =>
      obtain ⟨first, more, rfl, begins⟩ := numeral.begins
      dsimp only [List.cons_append]
      rw [if_neg (begins.ne (by decide) (by decide))]
      rfl
  | string quoted =>
      dsimp only [List.cons_append]
      rw [if_pos rfl, List.append_assoc]
      exact parts?_stringAfterQuote quoted _ rest
  | array listed => rfl
  | object listed => rfl

def Form.number? (reader : Reader α) : Form → Option α
  | .number digits => (parts? (reader digits)).map Prod.fst
  | _ => none

theorem gets_wholeNumber (wanted : String) (accept : Int → Option α) :
    Gets (wholeNumber wanted accept) (Form.number? (wholeNumber wanted accept)) := by
  intro form bytes laid blanks rest blank ends
  have others : ∀ first more, bytes = first :: more → ¬BeginsNumber first →
      parts? (wholeNumber wanted accept (blanks ++ (bytes ++ rest))) = none := by
    rintro first more rfl no
    obtain ⟨noMinus, noDigit⟩ := not_or.mp no
    unfold wholeNumber
    rw [parts?_atValue, laid.skipBlanks blank]
    dsimp only [List.cons_append]
    rw [if_neg noMinus, if_neg noDigit]
    rfl
  cases laid with
  | number numeral =>
      obtain ⟨result, reads⟩ := wholeNumber_local wanted accept numeral
      have alone := reads [] [] blanks_nil ends_nil
      rw [List.nil_append, List.append_nil] at alone
      rw [reads blanks rest blank ends]
      unfold Form.number?
      dsimp only
      rw [alone]
      cases result with
      | none => rfl
      | some value => rfl
  | nullWord => exact others _ _ rfl (by unfold BeginsNumber; decide)
  | trueWord => exact others _ _ rfl (by unfold BeginsNumber; decide)
  | falseWord => exact others _ _ rfl (by unfold BeginsNumber; decide)
  | string quoted => exact others _ _ rfl (by unfold BeginsNumber; decide)
  | array listed => exact others _ _ rfl (by unfold BeginsNumber; decide)
  | object listed => exact others _ _ rfl (by unfold BeginsNumber; decide)

/-- A value that may be missing, which null says that it is. -/
def Form.optional? (meaning : Form → Option α) : Form → Option (Option α)
  | .null => some none
  | form => (meaning form).map some

theorem Form.optional?_of_ne {form : Form} (there : form ≠ .null)
    (meaning : Form → Option α) : form.optional? meaning = (meaning form).map some := by
  cases form with
  | null => exact absurd rfl there
  | _ => rfl

theorem gets_optional {reader : Reader α} {meaning : Form → Option α} (gets : Gets reader meaning) :
    Gets (optional reader) (Form.optional? meaning) := by
  intro form bytes laid blanks rest blank ends
  unfold optional
  rw [parts?_atValue, laid.skipBlanks blank]
  by_cases missing : form = .null
  · subst missing
    cases laid
    rfl
  · have reads := gets form bytes laid [] rest blanks_nil ends
    obtain ⟨first, more, rfl, -, -, letter⟩ := laid.head
    rw [List.nil_append, List.cons_append] at reads
    dsimp only [List.cons_append]
    rw [if_neg fun same => missing (letter same), parts?_map, reads,
      Form.optional?_of_ne missing]
    cases meaning form with
    | none => rfl
    | some value => rfl

/-! ### Members -/

def Form.build? (step : β → String → Form → Option β) (built : β) (members : List (Bytes × Form)) :
    Option β :=
  members.foldlM (fun built member => (spelled? member.1).bind fun name =>
    step built name member.2) built

/-- The steps over members come to what the steps over their forms come to, as it is seen from
there. -/
def Follows (step : α → String → Reader α) (view : α → β)
    (meaning : β → String → Form → Option β) : Prop :=
  ∀ built name form bytes, Laid form bytes → ∀ gap space rest, Blanks gap → Blanks space →
    Ends rest →
    (parts? (step built name (gap ++ byteOf ':' :: (space ++ (bytes ++ rest))))).map
      (Prod.map view id) =
    (meaning (view built) name form).map fun next => (next, rest)

theorem parts?_members {step : α → String → Reader α} {view : α → β}
    {meaning : β → String → Form → Option β} (follows : Follows step view meaning) {first : Bool}
    {members : List (Bytes × Form)} {bytes : Bytes}
    (listed : Listed '}' LaidMember first members bytes) (built : α) {whole : Bytes} (rest : Bytes)
    (within : (bytes ++ rest).length < whole.length) :
    (parts? (Json.members step first built (bytes ++ rest) within)).map (Prod.map view id) =
      (Form.build? meaning (view built) members).map fun last => (last, rest) := by
  induction members generalizing first bytes built with
  | nil =>
      cases listed with
      | @done _ blanks blank =>
          revert within
          rw [List.append_assoc, List.singleton_append]
          intro within
          obtain ⟨shorter, done⟩ := eq_ok_of_parts? (@parts?_nextName_done first _ blank rest)
          rw [Json.members, done]
          rfl
  | cons member members ih =>
      obtain ⟨inside, form⟩ := member
      cases listed with
      | @next _ before after _ more _ _ blankBefore blankAfter laid others =>
          cases laid with
          | @mk _ _ gap space text quoted blankGap blankSpace laid =>
              have cut : lead first before after ++ (byteOf '"' :: (inside ++ byteOf '"' ::
                    (gap ++ byteOf ':' :: (space ++ text)))) ++ more ++ rest =
                  lead first before after ++ byteOf '"' :: (inside ++ byteOf '"' ::
                    (gap ++ byteOf ':' :: (space ++ (text ++ (more ++ rest))))) := by
                simp only [List.append_assoc, List.cons_append]
              revert within
              rw [cut]
              intro within
              have named := @parts?_nextName first _ _ _ blankBefore blankAfter quoted
                (gap ++ byteOf ':' :: (space ++ (text ++ (more ++ rest))))
              unfold Form.build?
              rw [List.foldlM_cons, Json.members]
              cases spelled : spelled? inside with
              | none =>
                  rw [spelled] at named
                  obtain ⟨fault, fails⟩ := eq_error_of_parts? named
                  rw [fails]
                  rfl
              | some name =>
                  rw [spelled] at named
                  obtain ⟨shorter, found⟩ := eq_ok_of_parts? named
                  have steps := follows built name form text laid gap space (more ++ rest) blankGap
                    blankSpace (ends_of_listed ends_brace others rest)
                  rw [found]
                  dsimp only [Option.bind, bind]
                  cases means : meaning (view built) name form with
                  | none =>
                      rw [means, Option.map_none, Option.map_eq_none_iff] at steps
                      obtain ⟨fault, fails⟩ := eq_error_of_parts? steps
                      rw [fails]
                      rfl
                  | some seen =>
                      rw [means] at steps
                      obtain ⟨⟨next, left⟩, comes, same⟩ := Option.map_eq_some_iff.mp steps
                      obtain ⟨rfl, rfl⟩ := Prod.mk.inj same
                      obtain ⟨stepShorter, stepped⟩ := eq_ok_of_parts? comes
                      rw [stepped]
                      exact ih others next _

def Form.entryStep (meaning : Form → Option α) (built : Table α) (name : String) (form : Form) :
    Option (Table α) :=
  (meaning form).map fun value => built.insert name value

/-- A table, in which the last value of a key counts. -/
def Form.table? (meaning : Form → Option α) : Form → Option (Table α)
  | .object members => build? (entryStep meaning) ∅ members
  | _ => none

theorem gets_table {reader : Reader α} {meaning : Form → Option α} (gets : Gets reader meaning) :
    Gets (table reader) (Form.table? meaning) := by
  intro form bytes laid blanks rest blank ends
  have follows : Follows (fun (built : Table α) name =>
      (afterColon reader).map fun value => built.insert name value) id
      (Form.entryStep meaning) := by
    intro built name form bytes laid gap space rest blankGap blankSpace ends
    unfold Reader.map
    rw [parts?_map, parts?_afterColon gets laid blankGap blankSpace ends]
    unfold Form.entryStep
    cases meaning form with
    | none => rfl
    | some value => rfl
  unfold table
  rw [parts?_atValue, laid.skipBlanks blank]
  cases laid with
  | nullWord => rfl
  | trueWord => rfl
  | falseWord => rfl
  | number numeral =>
      obtain ⟨first, more, rfl, begins⟩ := numeral.begins
      dsimp only [List.cons_append]
      rw [if_neg (begins.ne (by decide) (by decide))]
      rfl
  | string quoted => rfl
  | array listed => rfl
  | object listed =>
      dsimp only [List.cons_append]
      rw [if_pos rfl]
      have reads := parts?_members follows listed ∅ rest (length_lt_cons (byteOf '{') _)
      rwa [Prod.map_id, Option.map_id] at reads

/-- A field of a record that may be left out, with the meaning of what is put into it. -/
structure KnownField (ρ : Type) where
  field : RecordField ρ
  meaning : Form → Option (ρ → ρ)
  gets : Gets field.put meaning
  free : field.isRequired = false

/-- A record as far as it is built, and the names of the fields that were given. -/
abbrev Built (ρ : Type) := ρ × Multiset String

def Draft.built (draft : Draft ρ) : Built ρ :=
  (draft.record, draft.seen)

/-- The record with one more field, unless it was given before. -/
def KnownField.give? (known : KnownField ρ) (built : Built ρ) (form : Form) : Option (Built ρ) :=
  if known.field.name ∈ built.2 then none
  else (known.meaning form).map fun put => (put built.1, known.field.name ::ₘ built.2)

def Form.fieldStep (fields : List (KnownField ρ)) (built : Built ρ) (name : String) (form : Form) :
    Option (Built ρ) :=
  match fields.find? (·.field.isCalled name) with
  | none => some built
  | some known => known.give? built form

/-- A record that is written as an array, with its fields in order. -/
def Form.inOrder? : List (KnownField ρ) → ρ → List Form → Option ρ
  | _, record, [] => some record
  | [], _, _ :: _ => none
  | known :: fields, record, item :: items =>
    (known.meaning item).bind fun put => inOrder? fields (put record) items

def Form.record? (fields : List (KnownField ρ)) (blank : ρ) : Form → Option ρ
  | .object members => (build? (fieldStep fields) (blank, 0) members).map Prod.fst
  | .array items => inOrder? fields blank items
  | _ => none

theorem follows_step (fields : List (KnownField ρ)) :
    Follows (Draft.step (fields.map (·.field))) Draft.built (Form.fieldStep fields) := by
  intro built name form bytes laid gap space rest blankGap blankSpace ends
  unfold Draft.step Form.fieldStep
  rw [List.find?_map]
  have called : ((fun field : RecordField ρ => field.isCalled name) ∘ fun known : KnownField ρ =>
      known.field) = fun known => known.field.isCalled name := rfl
  rw [called]
  cases fields.find? fun known => known.field.isCalled name with
  | none =>
      dsimp only [Option.map]
      unfold Reader.map
      rw [parts?_map, parts?_afterColon gets_skipValue laid blankGap blankSpace ends]
      rfl
  | some known =>
      dsimp only [Option.map]
      unfold KnownField.give?
      have seen : known.field.name ∈ built.built.2 ↔ known.field.name ∈ built.seen :=
        Multiset.mem_coe
      by_cases again : known.field.name ∈ built.seen
      · rw [if_pos again, if_pos (seen.mpr again)]
        rfl
      · rw [if_neg again, if_neg fun member => again (seen.mp member)]
        unfold Reader.map
        rw [parts?_map, parts?_afterColon known.gets laid blankGap blankSpace ends]
        cases known.meaning form with
        | none => rfl
        | some put => rfl

theorem finish_of_free {fields : List (KnownField ρ)} (draft : Draft ρ) :
    draft.finish (fields.map (·.field)) = .ok draft.record := by
  unfold Draft.finish
  have nothing : ((fields.map (·.field)).find? fun field =>
      field.isRequired && !draft.seen.contains field.name) = none := by
    rw [List.find?_eq_none]
    intro field member required
    obtain ⟨known, -, rfl⟩ := List.mem_map.mp member
    rw [known.free] at required
    cases required
  rw [nothing]

theorem parts?_closeList_of_ne {text rest : Bytes} {byte : UInt8}
    (found : skipBlanks text = byte :: rest) (opens : byte ≠ byteOf ']') :
    parts? (closeList text) = none := by
  unfold closeList
  refine (congrArg parts? (ahead_of_cons found _ _)).trans ?_
  rw [if_neg opens]
  split
  · split
    · split
      · rfl
      · rfl
    · rfl
  · rfl

theorem parts?_closeList_lead {first : Bool} {before after : Bytes} (blankBefore : Blanks before)
    {byte : UInt8} (solid : isBlankByte byte = false) (opens : byte ≠ byteOf ']')
    (more : Bytes) : parts? (closeList (lead first before after ++ byte :: more)) = none := by
  cases first with
  | true => exact parts?_closeList_of_ne (skipBlanks_blanks blankBefore solid more) opens
  | false =>
      have comma : isBlankByte (byteOf ',') = false := by decide
      unfold lead
      rw [if_neg Bool.false_ne_true, List.append_assoc, List.cons_append]
      exact parts?_closeList_of_ne (skipBlanks_blanks blankBefore comma _) (by decide)

theorem parts?_recordItems (wanted : String) (count : Nat) {fields : List (KnownField ρ)}
    {index : Nat} {record : ρ} {items : List Form} {bytes : Bytes}
    (listed : Listed ']' Laid (index == 0) items bytes) {whole : Bytes} (rest : Bytes)
    (within : (bytes ++ rest).length < whole.length) :
    parts? (recordItems wanted count index (fields.map (·.field)) record (bytes ++ rest) within) =
      (Form.inOrder? fields record items).map fun record => (record, rest) := by
  -- Fields and items go in step. The items may end first; then the fields left are optional.
  induction fields generalizing index record items bytes with
  | nil =>
      rw [List.map_nil, recordItems, parts?_map_widen]
      cases listed with
      | done blank =>
          rw [List.append_assoc, List.singleton_append, parts?_closeList blank]
          rfl
      | @next _ before after text more _ _ blankBefore blankAfter laid others =>
          obtain ⟨byte, left, rfl, solid, opens, -⟩ := laid.head
          rw [List.append_assoc, List.append_assoc, List.cons_append,
            parts?_closeList_lead blankBefore solid opens]
          rfl
  | cons known fields ih =>
      have free : ((known :: fields).map (·.field)).findIdx? (·.isRequired) = none := by
        rw [List.findIdx?_eq_none_iff]
        intro field member
        obtain ⟨other, -, rfl⟩ := List.mem_map.mp member
        exact other.free
      cases listed with
      | @done _ blanks blank =>
          revert within
          rw [List.append_assoc, List.singleton_append]
          intro within
          obtain ⟨inside, found⟩ := @nextItem_bracket (index == 0) _ blank rest
          rw [List.map_cons] at free ⊢
          rw [recordItems, found]
          dsimp only
          split
          · next place same =>
              rw [free] at same
              cases same
          · have closes := @parts?_closeList [] blanks_nil rest
            rw [List.nil_append] at closes
            rw [parts?_map_widen, closes]
            rfl
      | @next _ before after text more item items blankBefore blankAfter laid others =>
          obtain ⟨byte, left, spelled, solid, opens, -⟩ := laid.head
          have cut : lead (index == 0) before after ++ text ++ more ++ rest =
              lead (index == 0) before after ++ byte :: (left ++ (more ++ rest)) := by
            rw [spelled]
            simp only [List.append_assoc, List.cons_append]
          have reads := known.gets item text laid [] (more ++ rest) blanks_nil
            (ends_of_listed ends_bracket others rest)
          rw [List.nil_append, spelled, List.cons_append] at reads
          revert within
          rw [cut]
          intro within
          obtain ⟨inside, found⟩ := @nextItem_eq_ok (index == 0) _ _ blankBefore blankAfter _ solid
            opens (left ++ (more ++ rest))
          rw [List.map_cons, recordItems, found]
          dsimp only [Form.inOrder?]
          cases means : known.meaning item with
          | none =>
              rw [means] at reads
              obtain ⟨fault, fails⟩ := eq_error_of_parts? reads
              rw [fails]
              rfl
          | some put =>
              rw [means] at reads
              obtain ⟨shorter, read⟩ := eq_ok_of_parts? reads
              rw [read]
              exact @ih (index + 1) (put record) items more others _

theorem gets_record (wanted : String) (fields : List (KnownField ρ)) (blank : ρ) :
    Gets (record wanted (fields.map (·.field)) blank) (Form.record? fields blank) := by
  intro form bytes laid blanks rest blankBefore ends
  unfold record
  rw [parts?_atValue, laid.skipBlanks blankBefore]
  cases laid with
  | nullWord => rfl
  | trueWord => rfl
  | falseWord => rfl
  | number numeral =>
      obtain ⟨first, more, rfl, begins⟩ := numeral.begins
      dsimp only [List.cons_append]
      rw [if_neg (begins.ne (by decide) (by decide)), if_neg (begins.ne (by decide) (by decide))]
      rfl
  | string quoted => rfl
  | array listed =>
      dsimp only [List.cons_append]
      rw [if_neg (by decide), if_pos rfl]
      exact @parts?_recordItems _ wanted _ fields 0 blank _ _ listed _ rest _
  | @object members bytes listed =>
      have reads := parts?_members (follows_step fields) listed { record := blank } rest
        (length_lt_cons (byteOf '{') (bytes ++ rest))
      dsimp only [List.cons_append]
      rw [if_pos rfl]
      change _ = (((Form.build? (Form.fieldStep fields) (blank, 0) members).map Prod.fst).map _)
      have start : Draft.built ({ record := blank } : Draft ρ) = (blank, 0) := rfl
      rw [start] at reads
      cases means : Form.build? (Form.fieldStep fields) (blank, 0) members with
      | none =>
          rw [means, Option.map_none, Option.map_eq_none_iff] at reads
          obtain ⟨fault, fails⟩ := eq_error_of_parts? reads
          rw [fails]
          rfl
      | some built =>
          rw [means] at reads
          obtain ⟨⟨draft, left⟩, comes, same⟩ := Option.map_eq_some_iff.mp reads
          obtain ⟨rfl, rfl⟩ := Prod.mk.inj same
          obtain ⟨shorter, found⟩ := eq_ok_of_parts? comes
          rw [found]
          simp only [bind, Except.bind, finish_of_free]
          rfl

end Courier.Json
