/-!
The shortest decimal that reads back as a given binary floating-point number. A number is taken
apart into `mantissa * 2 ^ exponent`; the reals that round to it form an interval, closed when the
mantissa is even. With one digit, two digits and so on, the two multiples of the last digit's place
next to the number are tried, and the first count with one in the interval wins.
-/

namespace Courier.Text

structure Binary where
  negative : Bool
  mantissa : Nat
  exponent : Int
  /-- Whether the numbers below it lie closer together than those above it. -/
  narrowBelow : Bool

def Binary.ofBits (bits : UInt64) : Binary :=
  let bits := bits.toNat
  let field := bits >>> 52 % 0x800
  let fraction := bits % 0x10000000000000
  { negative := bits >>> 63 == 1
    mantissa := if field = 0 then fraction else fraction + 0x10000000000000
    exponent := (if field = 0 then 1 else field : Nat) - 1075
    narrowBelow := fraction == 0 && field > 1 }

/-- Digits and the power of ten of the first one: `12.5` has digits `125` and power `1`. -/
structure Decimal where
  digits : List Char
  power : Int

/-- A fraction of naturals, used to compare numbers exactly. -/
structure Ratio where
  above : Nat
  below : Nat

/-- `count * base ^ power`. -/
def Ratio.scaled (count base : Nat) (power : Int) : Ratio :=
  if power < 0 then ⟨count, base.pow power.natAbs⟩ else ⟨count * base.pow power.natAbs, 1⟩

def Ratio.le (left right : Ratio) : Bool :=
  left.above * right.below ≤ right.above * left.below

def Ratio.lt (left right : Ratio) : Bool :=
  !right.le left

/-- The interval of reals that round to a number, in quarters of its last place. -/
def Binary.holds (number : Binary) (candidate : Ratio) : Bool :=
  let quarter := number.exponent - 2
  let low := Ratio.scaled (4 * number.mantissa - if number.narrowBelow then 1 else 2) 2 quarter
  let high := Ratio.scaled (4 * number.mantissa + 2) 2 quarter
  if number.mantissa % 2 = 0 then low.le candidate && candidate.le high
  else low.lt candidate && candidate.lt high

/-- The power of ten of the first digit, searched for downward from `guess`. -/
def leadingPower (number : Ratio) : Nat → Int → Int
  | 0, guess => guess
  | budget + 1, guess =>
    if (Ratio.scaled 1 10 guess).le number then guess else leadingPower number budget (guess - 1)

/-- The decimal with `count` digits that lies in the interval, nearest first, if there is one. -/
def Binary.withDigits? (number : Binary) (exact : Ratio) (power : Int) (count : Nat) :
    Option (Nat × Int) :=
  let place := power - count + 1
  let unit := Ratio.scaled 1 10 place
  let floor := exact.above * unit.below / (exact.below * unit.above)
  let lower := Ratio.scaled floor 10 place
  let upper := Ratio.scaled (floor + 1) 10 place
  let twice : Ratio := ⟨2 * exact.above, exact.below⟩
  let middle := Ratio.scaled (2 * floor + 1) 10 place
  match number.holds lower, number.holds upper with
  | true, true => if middle.lt twice then some (floor + 1, place) else some (floor, place)
  | true, false => some (floor, place)
  | false, true => some (floor + 1, place)
  | false, false => none

/-- The shortest decimal that reads back as the number; among those, the nearest. -/
def Binary.shortest (number : Binary) : Decimal :=
  if number.mantissa = 0 then ⟨['0'], 0⟩
  else
    let exact := Ratio.scaled number.mantissa 2 number.exponent
    let power := leadingPower exact 700 310
    let found := (List.range 17).findSome? fun count => number.withDigits? exact power (count + 1)
    let (value, place) := found.getD (0, 0)
    let written := Nat.toDigits 10 value
    let kept := (written.reverse.dropWhile (· == '0')).reverse
    ⟨kept, place + written.length - 1⟩

end Courier.Text
