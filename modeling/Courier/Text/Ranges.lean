/-!
Sets of code points and tables over code points, as closed ranges in rising order, searched by
halving. Main statement: the entry that is found is one of the entries, and its range holds the
value.
-/

namespace Courier.Text

abbrev Ranges := Array (Nat × Nat)

abbrev RangeTable (α : Type) := Array (Nat × Nat × α)

namespace Ranges

/-- The entry whose range holds the value, among those from place `low` on and before place `high`.
A step leaves at most half of the places, and `budget` bounds the steps. -/
def searchBetween {α : Type} (range : α → Nat × Nat) (entries : Array α) (value : Nat) :
    (budget low high : Nat) → Option α
  | 0, _, _ => none
  | budget + 1, low, high =>
    if high ≤ low then none
    else match entries[(low + high) / 2]? with
      | none => none
      | some entry =>
        if value < (range entry).1 then
          searchBetween range entries value budget low ((low + high) / 2)
        else if (range entry).2 < value then
          searchBetween range entries value budget ((low + high) / 2 + 1) high
        else some entry

def search {α : Type} (range : α → Nat × Nat) (entries : Array α) (value : Nat) : Option α :=
  searchBetween range entries value (entries.size.log2 + 1) 0 entries.size

theorem mem_of_searchBetween {α : Type} {range : α → Nat × Nat} {entries : Array α} {value : Nat}
    {budget low high : Nat} {entry : α}
    (found : searchBetween range entries value budget low high = some entry) :
    entry ∈ entries ∧ (range entry).1 ≤ value ∧ value ≤ (range entry).2 := by
  induction budget generalizing low high with
  | zero => simp [searchBetween] at found
  | succ budget ih =>
    rw [searchBetween] at found
    split at found
    · simp at found
    · split at found
      · simp at found
      · next middle here =>
        split at found
        · exact ih found
        · split at found
          · exact ih found
          · next above below =>
            obtain rfl : middle = entry := by simpa using found
            exact ⟨Array.mem_of_getElem? here, by omega, by omega⟩

theorem mem_of_search {α : Type} {range : α → Nat × Nat} {entries : Array α} {value : Nat}
    {entry : α} (found : search range entries value = some entry) :
    entry ∈ entries ∧ (range entry).1 ≤ value ∧ value ≤ (range entry).2 :=
  mem_of_searchBetween found

def holds (ranges : Ranges) (char : Char) : Bool :=
  (search id ranges char.toNat).isSome

end Ranges

def RangeTable.find? {α : Type} (table : RangeTable α) (char : Char) : Option α :=
  (Ranges.search (fun entry => (entry.1, entry.2.1)) table char.toNat).map (·.2.2)

end Courier.Text
