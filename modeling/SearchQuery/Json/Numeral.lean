import SearchQuery.Json.Basic
import SearchQuery.Decimal.Shortest
import SearchQuery.Word

/-!
# Numerals

What the parts of a numeral stand for, and how a number is written. The float of a numeral is
not the nearest one: the digits that fit 64 bits are rounded once, and scaling by a power of ten
rounds again.
-/

namespace SearchQuery.Json

/-- The parts of a numeral. The fraction is empty if there is no point, the exponent `none` if
there is no mark. -/
structure Numeral where
  negative : Bool
  whole : List Char
  fraction : List Char
  exponent : Option (Bool × List Char)
  deriving Repr, Inhabited

namespace Numeral

/-- The number that a list of decimal digits denotes. -/
def natOf (digits : List Char) : Nat :=
  Nat.ofDigitChars 10 digits 0

/-- Appends digits to a significand as long as it fits 64 bits, and counts the ones left over. -/
def extend (significand : Nat) : List Char → Nat × Nat
  | [] => (significand, 0)
  | c :: cs =>
    let longer := Nat.ofDigitChars 10 [c] significand
    if longer < UInt64.size then extend longer cs else (significand, cs.length + 1)

/-- The float `x · 10 ^ e`, in steps that each round; `none` if it overflows. -/
def scale (x : Float) (e : Int) : Option Float :=
  if e.natAbs ≤ 308 then
    let power := Float.ofScientific 1 false e.natAbs
    if 0 ≤ e then
      let y := x * power
      if y.isInf then none else some y
    else some (x / power)
  else if x == 0 then some x
  else if 0 ≤ e then none
  else scale (x / Float.ofScientific 1 false 308) (e + 308)
termination_by e.natAbs
decreasing_by omega

/-- The exponent after the mark. -/
def power (n : Numeral) : Int :=
  match n.exponent with
  | none => 0
  | some (negative, digits) => if negative then -(natOf digits : Int) else natOf digits

/-- The numeral as a float: digits of the whole part that do not fit count as powers of ten, those
of the fraction are dropped. -/
def float? (n : Numeral) : Option Float :=
  let (whole, excess) := extend 0 n.whole
  let (significand, unread) := extend whole n.fraction
  let shift : Int := excess - (n.fraction.length - unread : Nat) + n.power
  (scale significand.toUInt64.toFloat shift).map fun x => if n.negative then -x else x

/-- The number of a numeral; `none` if it overflows a float. -/
def value? (n : Numeral) : Option Number :=
  let size : Int := natOf n.whole
  let whole := if n.negative then -size else size
  let exact := n.fraction.isEmpty && n.exponent.isNone && !(n.negative && whole = 0) &&
    ((signed? whole).isSome || (unsigned? whole).isSome)
  if exact then some (.integer whole) else n.float?.map .float

end Numeral

/-- An integer in decimal. -/
def intText : Int → List Char
  | .ofNat n => Nat.toDigits 10 n
  | .negSucc n => '-' :: Nat.toDigits 10 (n + 1)

/-- A number as it is written. -/
def Number.text : Number → List Char
  | .integer n => intText n
  | .float x => Decimal.floatText x

end SearchQuery.Json
