/-!
Time in nanoseconds since the epoch, in 64 bits, and the milliseconds between two such times: the
exact difference where it fits 64 bits, and else the nearest number that does, cut to whole
milliseconds.
-/

namespace Courier

/-- The number of 64 bits that lies nearest to an integer. -/
def Int64.saturate (value : Int) : Int64 :=
  Int64.ofInt (max Int64.minValue.toInt (min Int64.maxValue.toInt value))

def nanosPerMilli : Int := 1000000

/-- Milliseconds from `start` to `timestamp`, cut toward zero; negative when it comes before. -/
def elapsedMillis (timestamp start : Int64) : Int64 :=
  Int64.ofInt ((Int64.saturate (timestamp.toInt - start.toInt)).toInt.tdiv nanosPerMilli)

/-- A clock, as the readings that are still to come. -/
structure Clock where
  reading : Nat → Int64

namespace Clock

/-- A clock whose readings are `now`, then `now + tick` and so on, in wrapping arithmetic. -/
def ticking (now tick : Int64) : Clock :=
  ⟨fun count => now + Int64.ofNat count * tick⟩

def still (now : Int64) : Clock :=
  ⟨fun _ => now⟩

instance : Inhabited Clock := ⟨still 0⟩

def next (clock : Clock) : Clock :=
  ⟨fun count => clock.reading (count + 1)⟩

def advance (clock : Clock) (nanos : Int64) : Clock :=
  ⟨fun count => clock.reading count + nanos⟩

def read {m : Type → Type} [MonadStateOf Clock m] : m Int64 :=
  modifyGetThe Clock fun clock => (clock.reading 0, clock.next)

end Clock

end Courier
