import Courier.Text.Utf8
/-!
The SHA-2 family of digests, for words of any width. Its constants are the first bits after the
point of the square and cube roots of the first primes, so they are computed from that rule. A
message is padded to whole blocks of sixteen words, and every block is mixed into eight words of
state, which are the digest.
-/

namespace Courier.Sha2

def primesBelow (bound : Nat) : List Nat :=
  (List.range bound).filter fun candidate =>
    2 ≤ candidate && (List.range candidate).all fun divisor =>
      divisor < 2 || candidate % divisor != 0

/-- The greatest number of at most `bits` bits whose power is at most `value`. -/
def root (exponent value bits : Nat) : Nat :=
  (List.range bits).foldr (fun bit found =>
    let larger := found + 1 <<< bit
    if larger.pow exponent ≤ value then larger else found) 0

/-- The bits after the point of a root of a number, as many as a word has. -/
def rootBits (width exponent number : Nat) : BitVec width :=
  .ofNat width (root exponent (number <<< (exponent * width)) (width + number.log2 + 1))

/-- A mixture of three turned copies of a word, or of two with a shifted third. -/
structure Mixture where
  first : Nat
  second : Nat
  third : Nat
  /-- Whether the third copy is shifted, so that bits are lost, and not turned. -/
  shifts : Bool := false
  deriving DecidableEq, Repr

def Mixture.apply {width : Nat} (mixture : Mixture) (word : BitVec width) : BitVec width :=
  word.rotateRight mixture.first ^^^ word.rotateRight mixture.second ^^^
    (if mixture.shifts then word >>> mixture.third else word.rotateRight mixture.third)

/-- What tells the members of the family apart. -/
structure Member where
  wordBytes : Nat
  rounds : Nat
  scheduleNear : Mixture
  scheduleFar : Mixture
  stateFirst : Mixture
  stateFifth : Mixture
  deriving DecidableEq, Repr

namespace Member

def width (member : Member) : Nat := 8 * member.wordBytes

abbrev Word (member : Member) := BitVec member.width

def blockBytes (member : Member) : Nat := 16 * member.wordBytes

/-- The constants of the rounds. Every member has at most eighty. -/
def roundConstants (member : Member) : List member.Word :=
  ((primesBelow 410).take member.rounds).map (rootBits member.width 3)

end Member

structure State (Word : Type) where
  a : Word
  b : Word
  c : Word
  d : Word
  e : Word
  f : Word
  g : Word
  h : Word
  deriving DecidableEq, Repr

namespace State

def zipWith {Word : Type} (join : Word → Word → Word) (left right : State Word) : State Word :=
  { a := join left.a right.a, b := join left.b right.b, c := join left.c right.c
    d := join left.d right.d, e := join left.e right.e, f := join left.f right.f
    g := join left.g right.g, h := join left.h right.h }

def toList {Word : Type} (state : State Word) : List Word :=
  [state.a, state.b, state.c, state.d, state.e, state.f, state.g, state.h]

end State

namespace Member

variable (member : Member)

def start : State member.Word :=
  let word (prime : Nat) := rootBits member.width 2 prime
  { a := word 2, b := word 3, c := word 5, d := word 7
    e := word 11, f := word 13, g := word 17, h := word 19 }

/-- The word that the bytes spell, the most significant one first. -/
def wordOf (bytes : Bytes) : member.Word :=
  .ofNat member.width (bytes.foldl (fun value byte => value * 0x100 + byte.toNat) 0)

/-- The given number of bytes that spell a number, the most significant one first. -/
def bytesOf (count value : Nat) : Bytes :=
  (List.range count).reverse.map fun place => UInt8.ofNat (value >>> (8 * place))

/-- Consecutive pieces of a list, `count` of them, `size` long. -/
def chunks {α : Type} (size : Nat) : (count : Nat) → List α → List (List α)
  | 0, _ => []
  | count + 1, items => items.take size :: chunks size count (items.drop size)

/-- The message with a single bit after it, zeros, and its length in bits as a number of two words,
so that the whole is made of blocks. -/
def padded (message : Bytes) : Bytes :=
  let used := message.length + 1 + 2 * member.wordBytes
  let zeros := (member.blockBytes - used % member.blockBytes) % member.blockBytes
  message ++ 0x80 :: List.replicate zeros 0 ++
    bytesOf (2 * member.wordBytes) (8 * message.length)

/-! ### Mixing -/

/-- The words of the schedule read so far, the latest first, and one more. -/
def extend (words : List member.Word) : List member.Word :=
  let back (distance : Nat) : member.Word := words.getD (distance - 1) 0
  (member.scheduleNear.apply (back 2) + back 7 + member.scheduleFar.apply (back 15) + back 16)
    :: words

/-- One word for every round: those of the block, and the ones that follow from them. -/
def schedule (block : Bytes) : List member.Word :=
  let given := (chunks member.wordBytes 16 block).map member.wordOf
  ((List.range (member.rounds - 16)).foldl (fun words _ => member.extend words)
    given.reverse).reverse

/-- One round, with the sum of the round's constant and its word of the schedule. -/
def mix (state : State member.Word) (input : member.Word) : State member.Word :=
  let chosen := (state.e &&& state.f) ^^^ (~~~state.e &&& state.g)
  let major := (state.a &&& state.b) ^^^ (state.a &&& state.c) ^^^ (state.b &&& state.c)
  let first := state.h + member.stateFifth.apply state.e + chosen + input
  let second := member.stateFirst.apply state.a + major
  { a := first + second, b := state.a, c := state.b, d := state.c
    e := state.d + first, f := state.e, g := state.f, h := state.g }

def absorb (constants : List member.Word) (state : State member.Word) (block : Bytes) :
    State member.Word :=
  let inputs := List.zipWith (· + ·) constants (member.schedule block)
  state.zipWith (· + ·) (inputs.foldl member.mix state)

def digest (message : Bytes) : Bytes :=
  let whole := member.padded message
  let blocks := chunks member.blockBytes (whole.length / member.blockBytes) whole
  let final := blocks.foldl (member.absorb member.roundConstants) member.start
  final.toList.flatMap fun word => bytesOf member.wordBytes word.toNat

end Member

def sha256 : Member where
  wordBytes := 4
  rounds := 64
  scheduleNear := { first := 17, second := 19, third := 10, shifts := true }
  scheduleFar := { first := 7, second := 18, third := 3, shifts := true }
  stateFirst := { first := 2, second := 13, third := 22 }
  stateFifth := { first := 6, second := 11, third := 25 }

def sha512 : Member where
  wordBytes := 8
  rounds := 80
  scheduleNear := { first := 19, second := 61, third := 6, shifts := true }
  scheduleFar := { first := 1, second := 8, third := 7, shifts := true }
  stateFirst := { first := 28, second := 34, third := 39 }
  stateFifth := { first := 14, second := 18, third := 41 }

def hexByte (byte : UInt8) : List Char :=
  [Nat.digitChar (byte.toNat / 16), Nat.digitChar (byte.toNat % 16)]

def hexText (bytes : Bytes) : String :=
  String.ofList (bytes.flatMap hexByte)

@[simp] theorem length_bytesOf (count value : Nat) :
    (Member.bytesOf count value).length = count := by
  simp [Member.bytesOf]

@[simp] theorem length_digest (member : Member) (message : Bytes) :
    (member.digest message).length = 8 * member.wordBytes := by
  simp [Member.digest, State.toList]
  omega

@[simp] theorem length_hexText (bytes : Bytes) : (hexText bytes).length = 2 * bytes.length := by
  have pairs : (bytes.flatMap hexByte).length = 2 * bytes.length := by
    induction bytes with
    | nil => rfl
    | cons byte rest ih =>
      rw [List.flatMap_cons, List.length_append, ih, List.length_cons]
      change 2 + _ = _
      omega
  rw [hexText, String.length_ofList, pairs]

end Courier.Sha2
