import Courier.Clock
/-!
Time. Main statement: milliseconds since a time grow with the time until which they are counted, and
are none before it, also where the difference of the two times does not fit.
-/

namespace Courier

theorem toInt_saturate (value : Int) :
    (Int64.saturate value).toInt =
      max Int64.minValue.toInt (min Int64.maxValue.toInt value) := by
  have lowest : Int64.minValue.toInt = -2 ^ 63 := Int64.toInt_minValue
  have highest : Int64.maxValue.toInt = 2 ^ 63 - 1 := by decide
  unfold Int64.saturate
  rw [lowest, highest]
  exact Int64.toInt_ofInt_of_le (by omega) (by omega)

theorem toInt_elapsedMillis (timestamp start : Int64) :
    (elapsedMillis timestamp start).toInt =
      (Int64.saturate (timestamp.toInt - start.toInt)).toInt.tdiv nanosPerMilli := by
  have low := Int64.le_toInt (Int64.saturate (timestamp.toInt - start.toInt))
  have high := Int64.toInt_lt (Int64.saturate (timestamp.toInt - start.toInt))
  unfold elapsedMillis nanosPerMilli
  generalize (Int64.saturate (timestamp.toInt - start.toInt)).toInt = nanos at low high ⊢
  have least : (-2 ^ 63 : Int).tdiv 1000000 ≤ nanos.tdiv 1000000 :=
    Int.tdiv_le_tdiv (by decide) low
  have most : nanos.tdiv 1000000 ≤ (2 ^ 63 : Int).tdiv 1000000 :=
    Int.tdiv_le_tdiv (by decide) (Int.le_of_lt high)
  exact Int64.toInt_ofInt_of_le (Int.le_trans (by decide) least)
    (Int.lt_of_le_of_lt most (by decide))

theorem elapsedMillis_mono {early late : Int64} (ordered : early ≤ late) (start : Int64) :
    elapsedMillis early start ≤ elapsedMillis late start := by
  have apart : early.toInt ≤ late.toInt := Int64.le_iff_toInt_le.mp ordered
  rw [Int64.le_iff_toInt_le, toInt_elapsedMillis, toInt_elapsedMillis]
  refine Int.tdiv_le_tdiv (by decide) ?_
  rw [toInt_saturate, toInt_saturate]
  omega

theorem elapsedMillis_self (start : Int64) : elapsedMillis start start = 0 := by
  apply Int64.toInt_inj.mp
  rw [toInt_elapsedMillis, Int.sub_self]
  decide

theorem elapsedMillis_nonneg {start timestamp : Int64} (ordered : start ≤ timestamp) :
    0 ≤ elapsedMillis timestamp start := by
  rw [← elapsedMillis_self start]
  exact elapsedMillis_mono ordered start

namespace Clock

/-- The clock when some of its readings have been taken. -/
def skip (clock : Clock) (count : Nat) : Clock :=
  ⟨fun later => clock.reading (count + later)⟩

/-- No reading comes before the one that was taken last. -/
def Steady (clock : Clock) : Prop :=
  ∀ count, clock.reading count ≤ clock.reading (count + 1)

theorem skip_skip (clock : Clock) (first second : Nat) :
    (clock.skip first).skip second = clock.skip (first + second) := by
  unfold skip
  simp only [Nat.add_assoc]

theorem skip_zero (clock : Clock) : clock.skip 0 = clock := by
  unfold skip
  simp only [Nat.zero_add]

variable {clock : Clock}

theorem Steady.skip (steady : clock.Steady) (count : Nat) : (clock.skip count).Steady :=
  fun later => steady (count + later)

theorem Steady.le (steady : clock.Steady) (count : Nat) :
    clock.reading 0 ≤ clock.reading count := by
  induction count with
  | zero => exact Int64.le_refl _
  | succ count ih => exact Int64.le_trans ih (steady count)

end Clock

end Courier
