import RecordSearch.Binary64.Basic
/-!
# Decimals and binary64 numbers

Reading: a decimal `digits * 10 ^ exponent` becomes a number in two roundings, first the digits,
then their product with (or quotient by) a power of ten that is itself a binary64 number
(`ofDecimal?`). Decimals of at most fifteen digits and a small exponent are read exactly rounded.

Writing: `shortest` finds the fewest significant digits that lie in the interval of reals nearest
to the number, and among those the nearest to it. The interval's ends belong to it exactly when
the significand is even, because a tie is rounded to the even neighbour.
-/

namespace RecordSearch.Binary64

/-! ### Reading -/

/-- The largest power of ten that is a finite number. -/
def maxTen : Nat := 308

/-- The number nearest to a power of ten up to `maxTen`. -/
def powTen (k : Nat) : Binary64 :=
  ofInt (Nat.pow 10 k)

/-- Multiply by a power of ten. Exponents below `-maxTen` are divided off in steps, until
nothing is left of the number. -/
def scaleTen? (x : Binary64) (exponent : Int) : Option Binary64 :=
  if exponent.natAbs ≤ maxTen then
    if 0 ≤ exponent then x.mul? (powTen exponent.natAbs) else x.div? (powTen exponent.natAbs)
  else if x.isZero then some x
  else if 0 ≤ exponent then none
  else (x.div? (powTen maxTen)).bind fun y ↦ scaleTen? y (exponent + maxTen)
termination_by exponent.natAbs
decreasing_by simp only [maxTen] at *; omega

/-- The number that a decimal is read as, if it is finite. -/
def ofDecimal? (negative : Bool) (digits : Nat) (exponent : Int) : Option Binary64 :=
  (scaleTen? (ofInt digits) exponent).map fun x ↦ ⟨negative, x.rank⟩

/-! ### Writing -/

/-- A decimal `digits * 10 ^ exponent`. -/
structure Decimal where
  /-- All digits, as one number. -/
  digits : Nat
  /-- The power of ten of the last digit. -/
  exponent : Int
deriving DecidableEq, Inhabited

/-- The fraction `num / den * 10 ^ k`. -/
def shiftedTen (num den : Nat) (k : Int) : Nat × Nat :=
  match k with
  | .ofNat n => (num * Nat.pow 10 n, den)
  | .negSucc n => (num, den * Nat.pow 10 (n + 1))

/-- The ends of the interval of magnitudes that are nearest to a number, in quarters of its
step. Below a doubling of the step the lower neighbour is only half as far. -/
def quarters (x : Binary64) : Nat × Nat :=
  let m := 4 * x.significand
  (if x.significand = block ∧ x.exponent ≠ -1074 then m - 1 else m - 2, m + 2)

/-- Does the magnitude `digits * 10 ^ k` round to the magnitude of `x`? -/
def isNear (x : Binary64) (digits : Nat) (k : Int) : Bool :=
  let (n, d) := shiftedTen digits 1 k
  let (sn, sd) := shifted 1 4 x.exponent
  let (low, high) := x.quarters
  let middle := n * sd
  if x.significand % 2 = 0 then low * sn * d ≤ middle && middle ≤ high * sn * d
  else low * sn * d < middle && middle < high * sn * d

/-- The nearest of the two neighbours of the magnitude on the grid of `10 ^ k` that rounds to it,
if one does; of two equally near ones the even. -/
def onGrid? (x : Binary64) (k : Int) : Option Decimal :=
  let (n, d) := shiftedTen x.ratio.1 x.ratio.2 (-k)
  let below := n / d
  let rest := n % d
  match isNear x below k && below ≠ 0, isNear x (below + 1) k with
  | true, true =>
    if 2 * rest < d then some ⟨below, k⟩
    else if d < 2 * rest then some ⟨below + 1, k⟩
    else some ⟨below + below % 2, k⟩
  | true, false => some ⟨below, k⟩
  | false, true => some ⟨below + 1, k⟩
  | false, false => none

/-- The power of ten of the leading digit of a positive fraction. -/
def leadingTen (num den : Nat) : Int :=
  let digits (n : Nat) : Int := (Nat.toDigits 10 n).length
  let guess := digits num - digits den
  let (n, d) := shiftedTen num den (-guess)
  if d ≤ n then guess else guess - 1

/-- The first grid that holds a decimal near the number, from coarse to fine. -/
def search (x : Binary64) (top : Int) : Nat → Nat → Decimal
  | 0, _ => ⟨x.significand, 0⟩
  | fuel + 1, count =>
    match onGrid? x (top - count) with
    | some decimal => decimal
    | none => search x top fuel (count + 1)

/-- The shortest decimal that reads back as the magnitude. The first grid tried has the next
power of ten as its only positive point near the number; seventeen digits always suffice. -/
def shortest (x : Binary64) : Decimal :=
  if x.rank = 0 then ⟨0, 0⟩
  else search x (leadingTen x.ratio.1 x.ratio.2 + 1) 19 0

/-! ### Text -/

/-- The digits of a natural number. -/
def digitsText (n : Nat) : List Char :=
  Nat.toDigits 10 n

/-- Digits with a point after the given number of them, zeros filled in, and at least one digit
on both sides. -/
def positional (digits : List Char) (point : Int) : List Char :=
  if point ≤ 0 then '0' :: '.' :: (List.replicate point.natAbs '0' ++ digits)
  else
    let whole := digits.take point.toNat
    let filled := whole ++ List.replicate (point.toNat - whole.length) '0'
    let decimals := digits.drop point.toNat
    filled ++ '.' :: (if decimals.isEmpty then ['0'] else decimals)

/-- Digits with a point after the first of several, and the exponent with its sign. -/
def scientific (digits : List Char) (point : Int) : List Char :=
  let mantissa :=
    match digits with
    | first :: second :: more => first :: '.' :: second :: more
    | short => short
  let power := point - 1
  mantissa ++ 'e' :: (if power < 0 then '-' else '+') :: digitsText power.natAbs

/-- The text of a number: the shortest digits, positional from `0.00001` up to below `10 ^ 16`
and for zero, scientific otherwise. -/
def text (x : Binary64) : List Char :=
  let decimal := x.shortest
  let digits := digitsText decimal.digits
  let point : Int := digits.length + decimal.exponent
  let magnitude :=
    if -4 ≤ point ∧ point ≤ 16 then positional digits point else scientific digits point
  if x.negative then '-' :: magnitude else magnitude

end RecordSearch.Binary64
