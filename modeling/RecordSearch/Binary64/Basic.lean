/-!
# Finite binary64 numbers

A finite binary64 number is a sign and a **rank**: the magnitudes are numbered from zero upwards,
so comparing magnitudes is comparing ranks. A rank below `2 ^ 52` counts steps of `2 ^ -1074`;
from there on each block of `2 ^ 52` ranks has steps twice as wide as the block before.

Both zeros are numbers of their own (they are written differently) but compare equal, which is
why `same` and `order` are functions beside the structural equality. All arithmetic is exact
arithmetic on natural numbers followed by one rounding, `ofRatio?`: to the nearest rank, a tie to
the even one, and nothing above the largest finite number.
-/

namespace RecordSearch

/-- A finite binary64 number. -/
structure Binary64 where
  /-- Is the sign bit set? -/
  negative : Bool
  /-- The place of the magnitude among all magnitudes. -/
  rank : Nat
deriving DecidableEq, Inhabited

namespace Binary64

/-- The ranks between two doublings of the step, `2 ^ 52`. -/
def block : Nat := 0x10000000000000

/-- The first rank that is too large to be finite. -/
def rankLimit : Nat := 2047 * block

/-- The positive zero. -/
def zero : Binary64 := ⟨false, 0⟩

/-- The integer multiple of a power of two that a magnitude is. -/
def significand (x : Binary64) : Nat :=
  if x.rank < block then x.rank else block + x.rank % block

/-- The power of two that belongs to `significand`. -/
def exponent (x : Binary64) : Int :=
  if x.rank < block then -1074 else (x.rank / block : Nat) - 1075

/-- The fraction `num * 2 ^ k / den` with a natural numerator and denominator. -/
def shifted (num den : Nat) (k : Int) : Nat × Nat :=
  match k with
  | .ofNat n => (num <<< n, den)
  | .negSucc n => (num, den <<< (n + 1))

/-- The magnitude as a fraction. -/
def ratio (x : Binary64) : Nat × Nat :=
  shifted x.significand 1 x.exponent

/-! ### Rounding -/

/-- The nearest integer to a fraction; a half goes to the even neighbour. -/
def divRound (num den : Nat) : Nat :=
  let floor := num / den
  let twice := 2 * (num % den)
  if twice < den then floor
  else if den < twice then floor + 1
  else floor + floor % 2

/-- The largest `k` with `2 ^ k ≤ num / den`, for positive `num` and `den`. -/
def floorLog2 (num den : Nat) : Int :=
  let guess : Int := (num.log2 : Int) - den.log2
  let (n, d) := shifted num den (-guess)
  if d ≤ n then guess else guess - 1

/-- The rank nearest to a positive fraction. -/
def nearestRank (num den : Nat) : Nat :=
  let step := max (floorLog2 num den - 52) (-1074)
  let (n, d) := shifted num den (-step)
  (step + 1074).toNat * block + divRound n d

/-- The number nearest to a fraction, if that is finite. -/
def ofRatio? (negative : Bool) (num den : Nat) : Option Binary64 :=
  if num = 0 then some ⟨negative, 0⟩
  else
    let rank := nearestRank num den
    if rank < rankLimit then some ⟨negative, rank⟩ else none

/-- The number nearest to an integer; integers beyond all finite numbers give the largest. -/
def ofInt (n : Int) : Binary64 :=
  (ofRatio? (n < 0) n.natAbs 1).getD ⟨n < 0, rankLimit - 1⟩

/-- The rounded product. -/
def mul? (x y : Binary64) : Option Binary64 :=
  ofRatio? (x.negative != y.negative) (x.ratio.1 * y.ratio.1) (x.ratio.2 * y.ratio.2)

/-- The rounded quotient. -/
def div? (x y : Binary64) : Option Binary64 :=
  if y.rank = 0 then none
  else ofRatio? (x.negative != y.negative) (x.ratio.1 * y.ratio.2) (x.ratio.2 * y.ratio.1)

/-! ### Comparison -/

/-- Is it one of the zeros? -/
def isZero (x : Binary64) : Bool :=
  x.rank == 0

/-- The place on the number line: the rank with its sign. -/
def place (x : Binary64) : Int :=
  if x.negative then -(x.rank : Int) else x.rank

/-- Comparison by value; both zeros are at the same place. -/
def order (x y : Binary64) : Ordering :=
  compare x.place y.place

/-- Equality of values. -/
def same (x y : Binary64) : Bool :=
  x.place == y.place

@[simp]
theorem same_self (x : Binary64) : x.same x = true := by
  simp [same]

end Binary64

end RecordSearch
