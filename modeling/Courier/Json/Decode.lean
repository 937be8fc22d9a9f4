import Courier.Json.Basic
import Courier.Json.Skip
/-!
Typed readers: text, whole numbers, optional values, lists, tables and records. A record is written
as an object with its fields by name, or as an array with its fields in order. Fields nobody asks
for are passed over; a field given twice is a fault, while in a table the last value of a key wins.
-/

namespace Courier.Json

/-- The fault of a value that is not `wanted`; `text` begins at the value. A scalar that is itself
malformed is reported as such. -/
def mismatch (wanted : String) (text : Bytes) : Fault :=
  let orElse {α : Type} (outcome : Except Fault α) (found : α → Found) : Fault :=
    match outcome with
    | .error fault => fault
    | .ok value => .wrongType (found value) wanted
  let numeric {whole : Bytes} (outcome : Except Fault (Rest whole Number)) : Fault :=
    orElse outcome fun read =>
      match read.value with
      | .whole value => .integer value
      | .real bits => .real bits
  match text with
  | [] => .endOf .value
  | first :: rest =>
    if first = byteOf 'n' then orElse (wordRest ['u', 'l', 'l'] rest) fun _ => .null
    else if first = byteOf 't' then
      orElse (wordRest ['r', 'u', 'e'] rest) fun _ => .boolean true
    else if first = byteOf 'f' then
      orElse (wordRest ['a', 'l', 's', 'e'] rest) fun _ => .boolean false
    else if first = byteOf '-' then
      numeric (numberDigits true rest)
    else if isDigitByte first then numeric (numberDigits false (first :: rest))
    else if first = byteOf '"' then
      orElse (stringAfterQuote first rest) fun read => .string read.value
    else if first = byteOf '[' then .wrongType .sequence wanted
    else if first = byteOf '{' then .wrongType .map wanted
    else .expectedValue

def atValue {α : Type} (reader : Reader α) : Reader α := fun text =>
  (reader (skipBlanks text)).map fun read => read.widen (length_skipBlanks text)

def text : Reader String := atValue fun
  | [] => .error (.endOf .value)
  | first :: rest =>
    if first = byteOf '"' then stringAfterQuote first rest
    else .error (mismatch "a string" (first :: rest))

/-- A whole number for which `accept` has a value. -/
def wholeNumber {α : Type} (wanted : String) (accept : Int → Option α) : Reader α := atValue fun
  | [] => .error (.endOf .value)
  | first :: rest => do
    let number : Rest (first :: rest) Number ←
      if first = byteOf '-' then
        (numberDigits true rest).map fun read => read.widen (length_le_cons first rest)
      else if isDigitByte first then numberDigits false (first :: rest)
      else throw (mismatch wanted (first :: rest))
    match number.value with
    | .real bits => throw (.wrongType (.real bits) wanted)
    | .whole value =>
      match accept value with
      | some accepted => return number.map fun _ => accepted
      | none => throw (.wrongValue (.integer value) wanted)

def unsigned64 : Reader UInt64 :=
  wholeNumber "u64" fun value =>
    if 0 ≤ value ∧ value.toNat ≤ wholeLimit then some (UInt64.ofNat value.toNat) else none

def signed64 : Reader Int64 :=
  wholeNumber "i64" fun value =>
    if Int64.minValue.toInt ≤ value ∧ value ≤ Int64.maxValue.toInt then some (Int64.ofInt value)
    else none

def optional {α : Type} (reader : Reader α) : Reader (Option α) := atValue fun
  | [] => (reader []).map (Rest.map some)
  | first :: rest =>
    if first = byteOf 'n' then word ['u', 'l', 'l'] none rest
    else (reader (first :: rest)).map (Rest.map some)

/-- Whether another item follows, and the text at it or at the closing bracket. -/
def nextItem (first : Bool) (text : Bytes) :
    Except Fault (Bool × { rest : Bytes // rest.length ≤ text.length }) :=
  match found : skipBlanks text with
  | [] => .error (.endOf .list)
  | byte :: rest =>
    have here := length_le_of_skipBlanks found
    if byte = byteOf ']' then .ok (false, ⟨byte :: rest, here⟩)
    else if first then .ok (true, ⟨byte :: rest, here⟩)
    else if byte = byteOf ',' then
      match ahead : skipBlanks rest with
      | [] => .error (.endOf .value)
      | next :: more =>
        if next = byteOf ']' then .error .trailingComma
        else
          have later := length_le_of_skipBlanks ahead
          .ok (true, ⟨next :: more, Nat.le_trans later (Nat.le_of_lt here)⟩)
    else .error .expectedCommaOrBracket

def closeList : Reader Unit := fun text =>
  match found : skipBlanks text with
  | [] => .error (.endOf .list)
  | byte :: rest =>
    if byte = byteOf ']' then .ok ⟨(), rest, length_lt_of_skipBlanks found⟩
    else if byte = byteOf ',' then
      match skipBlanks rest with
      | next :: _ => if next = byteOf ']' then .error .trailingComma else .error .trailingText
      | [] => .error .trailingText
    else .error .trailingText

def items {α : Type} (item : Reader α) {whole : Bytes} (first : Bool) (read : List α)
    (text : Bytes) (within : text.length < whole.length) : Except Fault (Rest whole (List α)) :=
  match nextItem first text with
  | .error fault => .error fault
  | .ok (false, ⟨rest, kept⟩) =>
    (closeList rest).map fun close =>
      (close.map fun _ => read.reverse).widen (by omega)
  | .ok (true, ⟨rest, kept⟩) =>
    match item rest with
    | .error fault => .error fault
    | .ok ⟨value, after, shorter⟩ => items item false (value :: read) after (by omega)
  termination_by text.length

def list {α : Type} (item : Reader α) : Reader (List α) := atValue fun
  | [] => .error (.endOf .value)
  | first :: rest =>
    if first = byteOf '[' then items item true [] rest (length_lt_cons first rest)
    else .error (mismatch "a sequence" (first :: rest))

/-! ### Objects -/

/-- The next name of an object with the colon not yet read, or nothing at its closing brace. -/
def nextName (first : Bool) : Reader (Option String) := fun text =>
  match found : skipBlanks text with
  | [] => .error (.endOf .object)
  | byte :: rest =>
    have here := length_le_of_skipBlanks found
    if byte = byteOf '}' then .ok ⟨none, rest, here⟩
    else if first then
      if byte = byteOf '"' then
        (stringAfterQuote byte rest).map
          fun name => (name.map some).widen here
      else .error .keyNotString
    else if byte = byteOf ',' then
      match ahead : skipBlanks rest with
      | [] => .error (.endOf .value)
      | next :: more =>
        have later := length_le_of_skipBlanks ahead
        if next = byteOf '"' then
          (stringAfterQuote next more).map
            fun name => (name.map some).widen (Nat.le_trans later (Nat.le_of_lt here))
        else if next = byteOf '}' then .error .trailingComma
        else .error .keyNotString
    else .error .expectedCommaOrBrace

/-- The members of an object after its opening brace. `step` reads the value of a member, colon
included, given what the members before it built. -/
def members {α : Type} (step : α → String → Reader α) {whole : Bytes} (first : Bool) (built : α)
    (text : Bytes) (within : text.length < whole.length) : Except Fault (Rest whole α) :=
  match nextName first text with
  | .error fault => .error fault
  | .ok ⟨none, rest, shorter⟩ => .ok ⟨built, rest, by omega⟩
  | .ok ⟨some name, rest, shorter⟩ =>
    match step built name rest with
    | .error fault => .error fault
    | .ok ⟨next, after, stepShorter⟩ => members step false next after (by omega)
  termination_by text.length

def afterColon {α : Type} (reader : Reader α) : Reader α := fun text =>
  match colon text with
  | .error fault => .error fault
  | .ok mark => (reader mark.rest).map fun read => read.widen (Nat.le_of_lt mark.shorter)

def table {α : Type} (value : Reader α) : Reader (Table α) := atValue fun
  | [] => .error (.endOf .value)
  | first :: rest =>
    if first = byteOf '{' then
      members (fun built name => (afterColon value).map fun read => built.insert name read)
        true ∅ rest (length_lt_cons first rest)
    else .error (mismatch "a map" (first :: rest))

/-- A field of a record of type `ρ`: how it may be called, whether it may be left out, and how its
value is put into the record. -/
structure RecordField (ρ : Type) where
  name : String
  otherName : Option String := none
  isRequired : Bool := false
  put : Reader (ρ → ρ)

def RecordField.of {ρ α : Type} (name : String) (reader : Reader α) (set : α → ρ → ρ) :
    RecordField ρ :=
  { name, put := reader.map set }

def RecordField.required {ρ α : Type} (name : String) (reader : Reader α) (set : α → ρ → ρ) :
    RecordField ρ :=
  { RecordField.of name reader set with isRequired := true }

def RecordField.isCalled {ρ : Type} (field : RecordField ρ) (name : String) : Bool :=
  field.name == name || field.otherName == some name

/-- The record built from the members read so far, and the fields they named. -/
structure Draft (ρ : Type) where
  record : ρ
  seen : List String := []

def Draft.step {ρ : Type} (fields : List (RecordField ρ)) (built : Draft ρ) (name : String) :
    Reader (Draft ρ) :=
  match fields.find? (·.isCalled name) with
  | none => (afterColon skipValue).map fun _ => built
  | some field =>
    if field.name ∈ built.seen then fun _ => .error (.duplicateField field.name)
    else (afterColon field.put).map fun put =>
      { record := put built.record, seen := field.name :: built.seen }

def Draft.finish {ρ : Type} (fields : List (RecordField ρ)) (built : Draft ρ) : Except Fault ρ :=
  match fields.find? fun field => field.isRequired && !built.seen.contains field.name with
  | some field => .error (.missingField field.name)
  | none => .ok built.record

def recordLength (wanted : String) (count : Nat) : String :=
  wanted ++ " with " ++ toString count ++ (if count = 1 then " element" else " elements")

/-- The items of a record that is written as an array, for the fields from number `index` on. -/
def recordItems {ρ : Type} (wanted : String) (count : Nat) {whole : Bytes} :
    (index : Nat) → List (RecordField ρ) → ρ → (text : Bytes) → text.length < whole.length →
      Except Fault (Rest whole ρ)
  | _, [], record, text, within =>
    (closeList text).map fun close => (close.map fun _ => record).widen (Nat.le_of_lt within)
  | index, field :: fields, record, text, within =>
    match nextItem (index == 0) text with
    | .error fault => .error fault
    | .ok (true, ⟨rest, kept⟩) =>
      match field.put rest with
      | .error fault => .error fault
      | .ok ⟨put, after, shorter⟩ =>
        recordItems wanted count (index + 1) fields (put record) after (by omega)
    | .ok (false, ⟨rest, kept⟩) =>
      match (field :: fields).findIdx? (·.isRequired) with
      | some place => .error (.wrongLength (index + place) (recordLength wanted count))
      | none =>
        (closeList rest).map fun close => (close.map fun _ => record).widen (by omega)

def record {ρ : Type} (wanted : String) (fields : List (RecordField ρ)) (blank : ρ) : Reader ρ :=
  atValue fun
    | [] => .error (.endOf .value)
    | first :: rest =>
      if first = byteOf '{' then do
        let built : Rest (first :: rest) (Draft ρ) ←
          members (Draft.step fields) true { record := blank } rest (length_lt_cons first rest)
        let finished ← built.value.finish fields
        return built.map fun _ => finished
      else if first = byteOf '[' then
        recordItems wanted fields.length 0 fields blank rest (length_lt_cons first rest)
      else .error (mismatch wanted (first :: rest))

def parse {α : Type} (reader : Reader α) (text : Bytes) : Except Fault α := do
  let read ← reader text
  if (skipBlanks read.rest).isEmpty then return read.value else throw .trailingText

end Courier.Json
