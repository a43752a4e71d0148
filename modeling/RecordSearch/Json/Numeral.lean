import RecordSearch.Json.Basic
/-!
# Written numbers

A number is written with a sign, digits, decimals and a power of ten. Without decimals and power
it is an integer as far as sixty-four bits reach; all other numbers, the negative zero among
them, are floats. Digits count while their number stays below `2 ^ 64`: further digits before the
point count as zeros, further ones behind it are dropped.
-/

namespace RecordSearch

/-- A number as it is written. -/
structure Numeral where
  /-- Is there a minus sign? -/
  negative : Bool
  /-- The digits before the point. -/
  whole : List Char
  /-- The digits behind the point, if there is one. -/
  decimals : Option (List Char)
  /-- The power of ten, if one is written. -/
  power : Option Int

namespace Numeral

/-- The first number that does not fit into sixty-four bits, `2 ^ 64`. -/
def wordLimit : Nat := 0x10000000000000000

/-- Take further digits while the number stays below `wordLimit`; also count the digits that are
left. -/
def absorb (sum : Nat) : List Char → Nat × Nat
  | [] => (sum, 0)
  | c :: rest =>
    let next := 10 * sum + (c.toNat - '0'.toNat)
    if next < wordLimit then absorb next rest else (sum, (c :: rest).length)

/-- The float that is written. -/
def float? (numeral : Numeral) : Option Binary64 :=
  let (front, zeros) := absorb 0 numeral.whole
  let decimals := numeral.decimals.getD []
  let (digits, dropped) := absorb front decimals
  let exponent := (zeros : Int) - (decimals.length - dropped : Nat) + numeral.power.getD 0
  Binary64.ofDecimal? numeral.negative digits exponent

/-- The number that is written, unless it is too large. -/
def number? (numeral : Numeral) : Option Number :=
  if numeral.decimals.isSome || numeral.power.isSome then numeral.float?.map .float
  else
    let (n, zeros) := absorb 0 numeral.whole
    if zeros ≠ 0 then numeral.float?.map .float
    else if !numeral.negative then some (.int n)
    else if n ≠ 0 ∧ 2 * n ≤ wordLimit then some (.int (-n))
    else numeral.float?.map .float

end Numeral

end RecordSearch
