import Courier.Text.Cut
/-!
Punycode: the characters of a label beyond ASCII, written in ASCII. The basic characters come first,
as they are; then, for every other character in the order of their code points, the number of steps
that a counter over code points and positions makes to reach it, in digits of base 36 whose
thresholds adapt to the size of the steps so far. `encode` writes a label and `decode?` reads it.
-/

namespace Courier.Punycode

/-- A digit in base 36, the letters before the numerals. -/
def digit (value : Nat) : Char :=
  if value < 26 then Char.ofNat (0x61 + value) else Char.ofNat (0x16 + value)

/-- From which value on a digit is followed by another one. -/
def threshold (place bias : Nat) : Nat :=
  max 1 (min 26 (place - bias))

/-- The digits of a step count. Every digit takes at least a tenth off, so that `fuel` bounds their
number. -/
def digits (bias : Nat) : (fuel place steps : Nat) → List Char
  | 0, _, _ => []
  | fuel + 1, place, steps =>
    let limit := threshold place bias
    if steps < limit then [digit steps]
    else
      digit (limit + (steps - limit) % (36 - limit)) ::
        digits bias fuel (place + 36) ((steps - limit) / (36 - limit))

/-- Divides by 35 as long as the value is above 455, and counts 36 for every time. -/
def shrink : (fuel value place : Nat) → Nat × Nat
  | 0, value, place => (value, place)
  | fuel + 1, value, place =>
    if 455 < value then shrink fuel (value / 35) (place + 36) else (value, place)

/-- The bias after a step count, of which `written` characters are known by then. -/
def adapt (steps written : Nat) (first : Bool) : Nat :=
  let damped := if first then steps / 700 else steps / 2
  let (value, place) := shrink damped.log2.succ (damped + damped / written) 0
  place + 36 * value / (value + 38)

structure Progress where
  output : List Char := []
  steps : Nat := 0
  bias : Nat := 72
  written : Nat

/-- Walks past one character of the label while the counter is at the code point `point`. -/
def Progress.pass (basic point : Nat) (progress : Progress) (char : Char) : Progress :=
  if char.toNat < point then { progress with steps := progress.steps + 1 }
  else if char.toNat = point then
    { output := progress.output ++
        digits progress.bias (progress.steps.log2 + 2) 36 progress.steps
      steps := 0
      bias := adapt progress.steps (progress.written + 1) (progress.written == basic)
      written := progress.written + 1 }
  else progress

/-- The digits for the code points of a list, in ascending order; the counter stands at `start`. -/
def extend (label : List Char) (basic : Nat) : List Nat → Nat → Progress → Progress
  | [], _, progress => progress
  | point :: rest, start, progress =>
    let reached := { progress with
      steps := progress.steps + (point - start) * (progress.written + 1) }
    let passed := label.foldl (Progress.pass basic point) reached
    extend label basic rest (point + 1) { passed with steps := passed.steps + 1 }

def encode (label : List Char) : List Char :=
  let basic := label.filter fun char => char.toNat < 0x80
  let points := ((label.map Char.toNat).filter (0x80 ≤ ·)).mergeSort.eraseDups
  basic ++ (if basic.isEmpty then [] else ['-']) ++
    (extend label basic.length points 0x80 { written := basic.length }).output

def digitValue? (char : Char) : Option Nat :=
  if 'a' ≤ char ∧ char ≤ 'z' then some (char.toNat - 0x61)
  else if 'A' ≤ char ∧ char ≤ 'Z' then some (char.toNat - 0x41)
  else if char.isDigit then some (char.toNat - 0x16)
  else none

/-- Numbers from here on are not read. -/
def numberLimit : Nat := 0x100000000

/-- The label so far, where the counter stands, and the step count that is being read. -/
structure Reading where
  label : List Char
  point : Nat := 0x80
  position : Nat := 0
  bias : Nat := 72
  start : Nat := 0
  /-- What the next digit counts. -/
  weight : Nat := 1
  place : Nat := 36

namespace Reading

/-- The label with one more character, to which the counter has made its steps. -/
def insert? (reading : Reading) : Option Reading :=
  let written := reading.label.length + 1
  let point := reading.point + reading.position / written
  let position := reading.position % written
  if valid : point.isValidChar then
    some {
      label := reading.label.insertIdx position (Char.ofNatAux point valid)
      point
      position := position + 1
      bias := adapt (reading.position - reading.start) written (reading.start == 0)
      start := position + 1 }
  else none

def step? (reading : Reading) (char : Char) : Option Reading :=
  (digitValue? char).bind fun value =>
    let position := reading.position + value * reading.weight
    let limit := threshold reading.place reading.bias
    let weight := reading.weight * (36 - limit)
    if numberLimit ≤ position then none
    else if value < limit then { reading with position }.insert?
    else if numberLimit ≤ weight then none
    else some { reading with position, weight, place := reading.place + 36 }

end Reading

/-- The label that a text in small letters spells. A text that begins with its last hyphen spells
none. -/
def decode? (written : List Char) : Option (List Char) := do
  let (basic, digits) ← match Text.cutLast? (· == '-') written with
    | none => some ([], written)
    | some ([], _) => none
    | some cut => some cut
  let reading ← digits.foldlM Reading.step? { label := basic }
  if reading.place = 36 then some reading.label else none

end Courier.Punycode
