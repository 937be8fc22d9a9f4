import Courier.Proofs.Json.Tokens
/-!
Optional values, lists, tables and records. The members of an object are read one after another, and
every member changes what the ones before it built. Main statements: a list is read back from the
items of an array, a table from an object of its entries in any order, and a record from an object
that gives each of its fields at most once.
-/

namespace Courier.Json

variable {α β ρ : Type}

theorem Written.head {tree : Json} {bytes : Bytes} (written : Written tree bytes) :
    ∃ first more, bytes = first :: more ∧ isBlankByte first = false ∧ first ≠ byteOf ']' ∧
      (first = byteOf 'n' → tree = .null) := by
  obtain ⟨first, more, same, solid, opens, letter⟩ := written.laid.head
  refine ⟨first, more, same, solid, opens, fun isLetter => ?_⟩
  have nothing := letter isLetter
  cases tree with
  | null => rfl
  | _ =>
      rw [form] at nothing
      cases nothing

theorem Understands.optional {reader : Reader α} {tree : Json} {value : α}
    (understands : Understands reader tree value) (there : tree ≠ .null) :
    Understands (Json.optional reader) tree (some value) := by
  intro bytes written blanks rest blank ends
  have reads := understands bytes written [] rest blanks_nil ends
  obtain ⟨first, more, rfl, solid, -, letter⟩ := written.head
  unfold Json.optional
  rw [parts_atValue, List.cons_append, skipBlanks_blanks blank solid]
  dsimp only
  rw [if_neg fun same => there (letter same), parts_map]
  rw [List.nil_append, List.cons_append] at reads
  rw [reads]
  rfl

theorem nextItem_eq_ok {first : Bool} {before after : Bytes} (blankBefore : Blanks before)
    (blankAfter : Blanks after) {byte : UInt8} (solid : isBlankByte byte = false)
    (opens : byte ≠ byteOf ']') (more : Bytes) :
    ∃ within, nextItem first (lead first before after ++ byte :: more) =
      .ok (true, ⟨byte :: more, within⟩) := by
  cases first with
  | true =>
      have found : skipBlanks (lead true before after ++ byte :: more) = byte :: more :=
        skipBlanks_blanks blankBefore solid more
      refine ⟨length_le_of_skipBlanks found, ?_⟩
      unfold nextItem
      refine (ahead_of_cons found _ _).trans ?_
      rw [if_neg opens, if_pos rfl]
  | false =>
      have comma : isBlankByte (byteOf ',') = false := by decide
      have found : skipBlanks (lead false before after ++ byte :: more) =
          byteOf ',' :: (after ++ byte :: more) := by
        unfold lead
        rw [if_neg Bool.false_ne_true, List.append_assoc, List.cons_append]
        exact skipBlanks_blanks blankBefore comma _
      have ahead : skipBlanks (after ++ byte :: more) = byte :: more :=
        skipBlanks_blanks blankAfter solid more
      refine ⟨Nat.le_trans (length_le_of_skipBlanks ahead)
        (Nat.le_of_lt (length_le_of_skipBlanks found)), ?_⟩
      unfold nextItem
      refine (ahead_of_cons found _ _).trans ?_
      rw [if_neg (by decide), if_neg Bool.false_ne_true, if_pos rfl]
      refine (ahead_of_cons ahead _ _).trans ?_
      rw [if_neg opens]

theorem nextItem_bracket {first : Bool} {blanks : Bytes} (blank : Blanks blanks) (rest : Bytes) :
    ∃ within, nextItem first (blanks ++ byteOf ']' :: rest) =
      .ok (false, ⟨byteOf ']' :: rest, within⟩) := by
  have bracket : isBlankByte (byteOf ']') = false := by decide
  have found := skipBlanks_blanks blank bracket rest
  refine ⟨length_le_of_skipBlanks found, ?_⟩
  unfold nextItem
  refine (ahead_of_cons found _ _).trans ?_
  rw [if_pos rfl]

theorem parts?_closeList {blanks : Bytes} (blank : Blanks blanks) (rest : Bytes) :
    parts? (closeList (blanks ++ byteOf ']' :: rest)) = some ((), rest) := by
  have bracket : isBlankByte (byteOf ']') = false := by decide
  have found := skipBlanks_blanks blank bracket rest
  unfold closeList
  refine (congrArg parts? (ahead_of_cons found _ _)).trans ?_
  rfl

theorem parts_items {reader : Reader α} {tree : α → Json}
    (understands : ∀ value, Understands reader (tree value) value) {values : List α} {first : Bool}
    {bytes : Bytes} (listed : Listed ']' Written first (values.map tree) bytes) (read : List α)
    {whole : Bytes} (rest : Bytes) (within : (bytes ++ rest).length < whole.length) :
    parts (items reader first read (bytes ++ rest) within) =
      .ok (read.reverse ++ values, rest) := by
  induction values generalizing first bytes read with
  | nil =>
      cases listed with
      | @done _ blanks blank =>
          revert within
          rw [List.append_assoc]
          intro within
          obtain ⟨inside, found⟩ := @nextItem_bracket first _ blank rest
          rw [items]
          simp only [List.singleton_append, found, List.append_nil]
          rfl
  | cons value values ih =>
      cases listed with
      | @next _ before after text more _ _ blankBefore blankAfter written listed =>
          obtain ⟨byte, others, spelled, solid, opens, -⟩ := written.head
          have cut : lead first before after ++ text ++ more ++ rest =
              lead first before after ++ byte :: (others ++ (more ++ rest)) := by
            rw [spelled]
            simp only [List.append_assoc, List.cons_append]
          have reads := understands value text written [] (more ++ rest) blanks_nil
            (ends_of_listed ends_bracket listed rest)
          rw [List.nil_append, spelled, List.cons_append] at reads
          obtain ⟨shorter, item⟩ := eq_ok_of_parts reads
          revert within
          rw [cut]
          intro within
          obtain ⟨inside, found⟩ := @nextItem_eq_ok first _ _ blankBefore blankAfter _ solid
            opens (others ++ (more ++ rest))
          rw [items]
          simp only [found, item]
          rw [ih listed (value :: read), List.reverse_cons, List.append_assoc,
            List.singleton_append]

theorem understands_list {reader : Reader α} {tree : α → Json}
    (understands : ∀ value, Understands reader (tree value) value) (values : List α) :
    Understands (list reader) (.array (values.map tree)) values := by
  intro bytes written blanks rest blank ends
  have bracket : isBlankByte (byteOf '[') = false := by decide
  cases written with
  | array listed =>
      unfold list
      rw [parts_atValue, List.cons_append, skipBlanks_blanks blank bracket]
      dsimp only
      rw [if_pos rfl]
      exact parts_items understands listed [] rest _

/-! ### The members of an object -/

/-- What the steps over some members come to, one after another. -/
inductive Builds (step : α → String → Reader α) : α → List (String × Json) → α → Prop
  | done (built : α) : Builds step built [] built
  | next {built next last : α} {name : String} {tree : Json} {rest : List (String × Json)}
      (reads : ∀ space bytes, Blanks space → Written tree bytes →
        Reads (step built name) (byteOf ':' :: (space ++ bytes)) next)
      (later : Builds step next rest last) :
      Builds step built ((name, tree) :: rest) last

theorem parts?_nextName_done {first : Bool} {blanks : Bytes} (blank : Blanks blanks)
    (rest : Bytes) :
    parts? (nextName first (blanks ++ byteOf '}' :: rest)) = some (none, rest) := by
  have brace : isBlankByte (byteOf '}') = false := by decide
  have found := skipBlanks_blanks blank brace rest
  unfold nextName
  refine (congrArg parts? (ahead_of_cons found _ _)).trans ?_
  rw [if_pos rfl]
  rfl

theorem parts?_nextName {first : Bool} {before after inside : Bytes} (blankBefore : Blanks before)
    (blankAfter : Blanks after) (quoted : Quoted inside) (rest : Bytes) :
    parts? (nextName first (lead first before after ++
      byteOf '"' :: (inside ++ byteOf '"' :: rest))) =
      (spelled? inside).map fun name => (some name, rest) := by
  have quote : isBlankByte (byteOf '"') = false := by decide
  have names : ∀ {far : Bytes}
      (within : (byteOf '"' :: (inside ++ byteOf '"' :: rest)).length ≤ far.length),
      parts? ((stringAfterQuote (byteOf '"') (inside ++ byteOf '"' :: rest)).map fun name =>
        ((name.map some).widen within : Rest far (Option String))) =
      (spelled? inside).map fun name => (some name, rest) := by
    intro far within
    rw [parts?_map_widen, parts?_stringAfterQuote quoted]
    cases spelled? inside with
    | none => rfl
    | some name => rfl
  cases first with
  | true =>
      have found : skipBlanks (lead true before after ++
          byteOf '"' :: (inside ++ byteOf '"' :: rest)) =
          byteOf '"' :: (inside ++ byteOf '"' :: rest) :=
        skipBlanks_blanks blankBefore quote _
      unfold nextName
      refine (congrArg parts? (ahead_of_cons found _ _)).trans ?_
      rw [if_neg (by decide), if_pos rfl, if_pos rfl]
      exact names _
  | false =>
      have comma : isBlankByte (byteOf ',') = false := by decide
      have found : skipBlanks (lead false before after ++
          byteOf '"' :: (inside ++ byteOf '"' :: rest)) =
          byteOf ',' :: (after ++ byteOf '"' :: (inside ++ byteOf '"' :: rest)) := by
        unfold lead
        rw [if_neg Bool.false_ne_true, List.append_assoc, List.cons_append]
        exact skipBlanks_blanks blankBefore comma _
      have ahead : skipBlanks (after ++ byteOf '"' :: (inside ++ byteOf '"' :: rest)) =
          byteOf '"' :: (inside ++ byteOf '"' :: rest) :=
        skipBlanks_blanks blankAfter quote _
      unfold nextName
      refine (congrArg parts? (ahead_of_cons found _ _)).trans ?_
      rw [if_neg (by decide), if_neg Bool.false_ne_true, if_pos rfl]
      refine (congrArg parts? (ahead_of_cons ahead _ _)).trans ?_
      rw [if_pos rfl]
      exact names _

theorem parts?_nextName_text {first : Bool} {before after : Bytes} (blankBefore : Blanks before)
    (blankAfter : Blanks after) (name : String) (rest : Bytes) :
    parts? (nextName first (lead first before after ++ (spell (writeString name) ++ rest))) =
      some (some name, rest) := by
  have named := @parts?_nextName first _ _ _ blankBefore blankAfter (quoted_escaped name) rest
  rw [spelled?_escaped] at named
  rw [spell_writeString]
  exact named

theorem parts_members {step : α → String → Reader α} {built last : α}
    {members : List (String × Json)} (builds : Builds step built members last) {first : Bool}
    {bytes : Bytes} (listed : Listed '}' WrittenMember first members bytes) {whole : Bytes}
    (rest : Bytes) (within : (bytes ++ rest).length < whole.length) :
    parts (Json.members step first built (bytes ++ rest) within) = .ok (last, rest) := by
  induction builds generalizing first bytes with
  | done built =>
      cases listed with
      | @done _ blanks blank =>
          revert within
          rw [List.append_assoc, List.singleton_append]
          intro within
          obtain ⟨shorter, same⟩ := eq_ok_of_parts? (@parts?_nextName_done first _ blank rest)
          rw [Json.members, same]
          rfl
  | @next built next last name tree others reads later ih =>
      cases listed with
      | @next _ before after _ more _ _ blankBefore blankAfter written listed =>
          cases written with
          | @mk _ _ gap space text blankGap blankSpace written =>
              have cut : lead first before after ++ (spell (writeString name) ++
                  (gap ++ byteOf ':' :: (space ++ text))) ++ more ++ rest =
                  lead first before after ++ (spell (writeString name) ++
                    (gap ++ (byteOf ':' :: (space ++ text) ++ (more ++ rest)))) := by
                simp only [List.append_assoc, List.cons_append]
              revert within
              rw [cut]
              intro within
              obtain ⟨shorter, named⟩ :=
                eq_ok_of_parts? (parts?_nextName_text blankBefore blankAfter name _)
              obtain ⟨stepShorter, stepped⟩ := eq_ok_of_parts (reads space text blankSpace written
                gap (more ++ rest) blankGap (ends_of_listed ends_brace listed rest))
              rw [Json.members, named]
              dsimp only
              rw [stepped]
              exact ih listed _

theorem understands_table_of_builds {reader : Reader α} {members : List (String × Json)}
    {table : Table α}
    (builds : Builds (fun (built : Table α) name =>
      (afterColon reader).map fun read => built.insert name read) ∅ members table) :
    Understands (Json.table reader) (.object members) table := by
  intro bytes written blanks rest blank ends
  have brace : isBlankByte (byteOf '{') = false := by decide
  cases written with
  | object listed =>
      unfold Json.table
      rw [parts_atValue, List.cons_append, skipBlanks_blanks blank brace]
      dsimp only
      rw [if_pos rfl]
      exact parts_members builds listed rest _

/-- Entries as the members of an object, one for one. -/
inductive SpellsEntries (spells : α → Json → Prop) :
    List (String × α) → List (String × Json) → Prop
  | none : SpellsEntries spells [] []
  | next {name : String} {value : α} {tree : Json} {entries : List (String × α)}
      {members : List (String × Json)} (spelled : spells value tree)
      (others : SpellsEntries spells entries members) :
      SpellsEntries spells ((name, value) :: entries) ((name, tree) :: members)

/-- A tree whose members are the entries of a table, in any order. -/
def SpellsTable (spells : α → Json → Prop) (table : Table α) (tree : Json) : Prop :=
  ∃ entries members, tree = .object members ∧ entries.Perm table.toList ∧
    SpellsEntries spells entries members

def insertAll (start : Table α) (entries : List (String × α)) : Table α :=
  entries.foldl (fun built entry => built.insert entry.1 entry.2) start

theorem builds_insertAll {reader : Reader α} {spells : α → Json → Prop}
    (understands : ∀ value tree, spells value tree → Understands reader tree value)
    {entries : List (String × α)} {members : List (String × Json)}
    (spelled : SpellsEntries spells entries members) (start : Table α) :
    Builds (fun (built : Table α) name =>
      (afterColon reader).map fun read => built.insert name read) start members
      (insertAll start entries) := by
  induction spelled generalizing start with
  | none => exact .done start
  | @next name value tree entries members spelled others ih =>
      refine .next ?_ (ih (start.insert name value))
      intro space bytes blank written
      exact (reads_afterColon (understands value tree spelled bytes written) blank).map _

theorem getElem?_insertAll_of_not_mem {entries : List (String × α)} {key : String}
    (absent : key ∉ entries.map Prod.fst) (start : Table α) :
    (insertAll start entries)[key]? = start[key]? := by
  induction entries generalizing start with
  | nil => rfl
  | cons entry rest ih =>
      rw [List.map_cons, List.mem_cons, not_or] at absent
      have later := ih absent.2 (start.insert entry.1 entry.2)
      rw [Std.ExtTreeMap.getElem?_insert, if_neg (by simpa using Ne.symm absent.1)] at later
      exact later

theorem getElem?_insertAll_of_mem {entries : List (String × α)}
    (distinct : (entries.map Prod.fst).Nodup) {key : String} {value : α}
    (member : (key, value) ∈ entries) (start : Table α) :
    (insertAll start entries)[key]? = some value := by
  induction entries generalizing start with
  | nil => cases member
  | cons entry rest ih =>
      rw [List.map_cons, List.nodup_cons] at distinct
      rcases List.mem_cons.mp member with same | inside
      · subst same
        have later := getElem?_insertAll_of_not_mem distinct.1 (start.insert key value)
        rw [Std.ExtTreeMap.getElem?_insert_self] at later
        exact later
      · exact ih distinct.2 inside _

theorem nodup_keys_toList (table : Table α) : (table.toList.map Prod.fst).Nodup := by
  rw [List.nodup_iff_pairwise_ne, List.pairwise_map]
  refine table.distinct_keys_toList.imp ?_
  intro left right differ same
  exact differ (Std.LawfulEqCmp.compare_eq_iff_eq.mpr same)

theorem insertAll_perm {table : Table α} {entries : List (String × α)}
    (order : entries.Perm table.toList) : insertAll ∅ entries = table := by
  have distinct : (entries.map Prod.fst).Nodup :=
    (order.map Prod.fst).nodup_iff.mpr (nodup_keys_toList table)
  apply Std.ExtTreeMap.ext_getElem?
  intro key
  cases found : table[key]? with
  | some value =>
      have listed := order.mem_iff.mpr (Std.ExtTreeMap.mem_toList_iff_getElem?_eq_some.mpr found)
      exact getElem?_insertAll_of_mem distinct listed ∅
  | none =>
      have absent : key ∉ entries.map Prod.fst := by
        intro member
        obtain ⟨⟨name, value⟩, listed, rfl⟩ := List.mem_map.mp member
        have held := Std.ExtTreeMap.mem_toList_iff_getElem?_eq_some.mp (order.mem_iff.mp listed)
        rw [found] at held
        cases held
      rw [getElem?_insertAll_of_not_mem absent]
      exact Std.ExtTreeMap.getElem?_empty

/-- A table is read back from its entries in any order. -/
theorem understands_table {reader : Reader α} {spells : α → Json → Prop}
    (understands : ∀ value tree, spells value tree → Understands reader tree value)
    {table : Table α} {tree : Json} (spelled : SpellsTable spells table tree) :
    Understands (Json.table reader) tree table := by
  obtain ⟨entries, members, rfl, order, listed⟩ := spelled
  apply understands_table_of_builds
  rw [← insertAll_perm order]
  exact builds_insertAll understands listed ∅

/-- What the fields of a record come to that an object gives, one after another. -/
inductive Fills (fields : List (RecordField ρ)) : Draft ρ → List (String × Json) → Draft ρ → Prop
  | done (built : Draft ρ) : Fills fields built [] built
  | next {built last : Draft ρ} {name : String} {tree : Json} {rest : List (String × Json)}
      {field : RecordField ρ} {put : ρ → ρ}
      (called : fields.find? (·.isCalled name) = some field) (fresh : field.name ∉ built.seen)
      (understands : Understands field.put tree put)
      (later : Fills fields
        { record := put built.record, seen := field.name :: built.seen } rest last) :
      Fills fields built ((name, tree) :: rest) last

theorem Fills.builds {fields : List (RecordField ρ)} {built last : Draft ρ}
    {members : List (String × Json)} (fills : Fills fields built members last) :
    Builds (Draft.step fields) built members last := by
  induction fills with
  | done built => exact .done built
  | @next built last name tree rest field put called fresh understands later ih =>
      refine .next ?_ ih
      intro space bytes blank written
      have reads := (reads_afterColon (understands bytes written) blank).map fun put =>
        ({ record := put built.record, seen := field.name :: built.seen } : Draft ρ)
      unfold Draft.step
      rw [called]
      dsimp only
      rw [if_neg fresh]
      exact reads

/-- A record is read back from an object that gives each of its fields at most once. -/
theorem understands_record {wanted : String} {fields : List (RecordField ρ)} {blank : ρ}
    {members : List (String × Json)} {last : Draft ρ} {record : ρ}
    (fills : Fills fields { record := blank } members last)
    (complete : last.finish fields = .ok record) :
    Understands (Json.record wanted fields blank) (.object members) record := by
  intro bytes written blanks rest blankBefore ends
  have brace : isBlankByte (byteOf '{') = false := by decide
  cases written with
  | @object _ bytes listed =>
      have within := length_lt_cons (byteOf '{') (bytes ++ rest)
      obtain ⟨shorter, same⟩ := eq_ok_of_parts (parts_members fills.builds listed rest within)
      unfold Json.record
      rw [parts_atValue, List.cons_append, skipBlanks_blanks blankBefore brace]
      dsimp only
      rw [if_pos rfl, same]
      simp only [bind, Except.bind, complete]
      rfl

end Courier.Json
