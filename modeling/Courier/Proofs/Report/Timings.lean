import Courier.Proofs.Clock
import Courier.Report.Basic
/-!
Milliseconds between any two times of 64 bits. The difference of two times need not fit; then the
limit on its side counts, and the two limits are equally many milliseconds away from zero. Main
statement: the milliseconds are the exact number, or that of the limit; they grow with the later
time, shrink with the start, and only change their sign when the two times change places, so that a
report never gives a later time fewer milliseconds.
-/

namespace Courier

theorem saturate_of_fits {value : Int} (least : Int64.minValue.toInt ≤ value)
    (most : value ≤ Int64.maxValue.toInt) : (Int64.saturate value).toInt = value := by
  rw [toInt_saturate]
  omega

theorem saturate_of_late {value : Int} (beyond : Int64.maxValue.toInt < value) :
    (Int64.saturate value).toInt = Int64.maxValue.toInt := by
  have ordered : Int64.minValue.toInt ≤ Int64.maxValue.toInt := by decide
  rw [toInt_saturate]
  omega

theorem saturate_of_early {value : Int} (beyond : value < Int64.minValue.toInt) :
    (Int64.saturate value).toInt = Int64.minValue.toInt := by
  have ordered : Int64.minValue.toInt ≤ Int64.maxValue.toInt := by decide
  rw [toInt_saturate]
  omega

/-- The lower limit is one nanosecond further from zero than the upper one, and no millisecond. -/
theorem tdiv_minValue :
    Int64.minValue.toInt.tdiv nanosPerMilli = -Int64.maxValue.toInt.tdiv nanosPerMilli := by
  decide

/-- What the milliseconds between two times are, told by the difference of the times: cut toward
zero where it fits 64 bits, and else taken of the limit that it goes beyond. -/
structure CountsMillis (timestamp start millis : Int64) : Prop where
  fitting : Int64.minValue.toInt ≤ timestamp.toInt - start.toInt →
    timestamp.toInt - start.toInt ≤ Int64.maxValue.toInt →
    millis.toInt = (timestamp.toInt - start.toInt).tdiv 1000000
  late : Int64.maxValue.toInt < timestamp.toInt - start.toInt →
    millis.toInt = Int64.maxValue.toInt.tdiv 1000000 ∧ 0 < millis.toInt
  early : timestamp.toInt - start.toInt < Int64.minValue.toInt →
    millis.toInt = Int64.minValue.toInt.tdiv 1000000 ∧ millis.toInt < 0

theorem countsMillis_elapsedMillis (timestamp start : Int64) :
    CountsMillis timestamp start (elapsedMillis timestamp start) := by
  have counted := toInt_elapsedMillis timestamp start
  constructor
  case fitting =>
    intro least most
    rw [counted, saturate_of_fits least most]
    rfl
  case late =>
    intro beyond
    rw [counted, saturate_of_late beyond]
    exact ⟨rfl, by decide⟩
  case early =>
    intro beyond
    rw [counted, saturate_of_early beyond]
    exact ⟨rfl, by decide⟩

theorem elapsedMillis_anti {first second : Int64} (ordered : first ≤ second) (timestamp : Int64) :
    elapsedMillis timestamp second ≤ elapsedMillis timestamp first := by
  have apart : first.toInt ≤ second.toInt := Int64.le_iff_toInt_le.mp ordered
  rw [Int64.le_iff_toInt_le, toInt_elapsedMillis, toInt_elapsedMillis]
  refine Int.tdiv_le_tdiv (by decide) ?_
  rw [toInt_saturate, toInt_saturate]
  omega

theorem tdiv_saturate_neg (nanos : Int) :
    (Int64.saturate (-nanos)).toInt.tdiv nanosPerMilli =
      -(Int64.saturate nanos).toInt.tdiv nanosPerMilli := by
  have low : Int64.minValue.toInt = -2 ^ 63 := Int64.toInt_minValue
  have high : Int64.maxValue.toInt = 2 ^ 63 - 1 := by decide
  by_cases least : nanos ≤ Int64.minValue.toInt
  · -- The opposite of the lower limit itself is beyond the upper one.
    have counted : (Int64.saturate nanos).toInt = Int64.minValue.toInt := by
      rw [toInt_saturate]
      omega
    rw [counted, saturate_of_late (by omega), tdiv_minValue, Int.neg_neg]
  · by_cases most : nanos ≤ Int64.maxValue.toInt
    · rw [saturate_of_fits (by omega) most, saturate_of_fits (by omega) (by omega), Int.neg_tdiv]
    · have counted : (Int64.saturate (-nanos)).toInt = Int64.minValue.toInt := by
        rw [toInt_saturate]
        omega
      rw [counted, saturate_of_late (by omega), tdiv_minValue]

theorem toInt_elapsedMillis_swap (timestamp start : Int64) :
    (elapsedMillis timestamp start).toInt = -(elapsedMillis start timestamp).toInt := by
  rw [toInt_elapsedMillis, toInt_elapsedMillis, ← tdiv_saturate_neg, Int.neg_sub]

/-- The times that a report is made of, with the milliseconds that it gives for them: that at which
it is made, and those of the steps. -/
def PackageResult.timings (result : PackageResult) (report : ResultReport) (now : Int64) :
    List (Int64 × Int64) :=
  (now, report.overallTiming) ::
    (result.steps.map (·.timestampNanos)).zip (report.steps.map (·.timing))

theorem PackageResult.timings_report (result : PackageResult) (host : HostEnvironment)
    (now : Int64) :
    result.timings (result.report host now) now =
      (now :: result.steps.map (·.timestampNanos)).map
        fun time => (time, elapsedMillis time result.startTimestampNanos) := by
  have steps : (result.report host now).steps.map (·.timing) =
      result.steps.map fun step =>
        elapsedMillis step.timestampNanos result.startTimestampNanos :=
    List.map_map
  rw [timings, steps, List.zip_map', List.map_cons, List.map_map]
  rfl

/-- Milliseconds over all times of 64 bits. No step wraps: the milliseconds are, as integers, those
of the difference of the two times or of the limit that it goes beyond. In reports that count from
one start a later time never has fewer milliseconds, whatever the start. -/
theorem millis_follow_times :
    (∀ timestamp start, CountsMillis timestamp start (elapsedMillis timestamp start)) ∧
    (∀ timestamp later start, timestamp ≤ later →
      elapsedMillis timestamp start ≤ elapsedMillis later start) ∧
    (∀ timestamp start later, start ≤ later →
      elapsedMillis timestamp later ≤ elapsedMillis timestamp start) ∧
    (∀ timestamp start,
      (elapsedMillis timestamp start).toInt = -(elapsedMillis start timestamp).toInt) ∧
    ∀ (first second : PackageResult) (host otherHost : HostEnvironment) (now otherNow : Int64),
      (first.report host now).steps.length = first.steps.length ∧
      (first.startTimestampNanos = second.startTimestampNanos →
        ∀ early ∈ first.timings (first.report host now) now,
        ∀ late ∈ second.timings (second.report otherHost otherNow) otherNow,
          early.1 ≤ late.1 → early.2 ≤ late.2) := by
  refine ⟨countsMillis_elapsedMillis, fun _ _ start ordered => elapsedMillis_mono ordered start,
    fun timestamp _ _ ordered => elapsedMillis_anti ordered timestamp, toInt_elapsedMillis_swap,
    ?reports⟩
  case reports =>
    intro first second host otherHost now otherNow
    refine ⟨List.length_map _, fun begun early there late here ordered => ?_⟩
    rw [PackageResult.timings_report] at there here
    obtain ⟨earlyTime, -, rfl⟩ := List.mem_map.mp there
    obtain ⟨lateTime, -, rfl⟩ := List.mem_map.mp here
    rw [← begun]
    exact elapsedMillis_mono ordered first.startTimestampNanos

example : elapsedMillis 0 Int64.minValue = 9223372036854 ∧
    elapsedMillis Int64.minValue 0 = -9223372036854 := by decide

end Courier
