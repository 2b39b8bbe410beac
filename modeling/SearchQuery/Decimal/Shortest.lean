/-!
# Shortest decimals

Of all decimals that read back as a given float, the ones with the fewest digits, and of those
the nearest. A float is taken apart into the interval of reals that round to it, on which all
arithmetic is exact.
-/

namespace SearchQuery

/-- The number `digits · 10 ^ exponent`. -/
structure Decimal where
  digits : Nat
  exponent : Int
  deriving DecidableEq, Repr

namespace Decimal

/-- The reals that round to a positive float, in units of `2 ^ exponent`: from `low` to `high`
around `centre`, the ends themselves only if `closed`. -/
structure Interval where
  low : Nat
  centre : Nat
  high : Nat
  exponent : Int
  closed : Bool
  deriving DecidableEq, Repr

/-- The interval of the positive finite float with these 63 bits. A power of two has half the
room below it, and a significand that is even draws the ends to itself. -/
def Interval.ofBits (bits : Nat) : Interval :=
  let unit := Nat.pow 2 52
  let field := bits / unit
  let fraction := bits % unit
  let significand := if field = 0 then fraction else fraction + unit
  let below := if fraction = 0 ∧ 1 < field then 1 else 2
  { low := 4 * significand - below
    centre := 4 * significand
    high := 4 * significand + 2
    exponent := (max field 1 : Nat) - 1077
    closed := significand % 2 = 0 }

/-- The interval and the grid of multiples of `10 ^ k` over one denominator: its three points and
the width of the grid. -/
def Interval.onGrid (i : Interval) (k : Int) : Nat × Nat × Nat × Nat :=
  let points := Nat.pow 2 i.exponent.toNat * Nat.pow 10 (-k).toNat
  let grid := Nat.pow 2 (-i.exponent).toNat * Nat.pow 10 k.toNat
  (i.low * points, i.centre * points, i.high * points, grid)

/-- The nearest multiple of `10 ^ k` in the interval; between two equally near, the even one. -/
def Interval.nearest? (i : Interval) (k : Int) : Option Decimal :=
  let (low, centre, high, grid) := i.onGrid k
  let inside (d : Nat) : Bool :=
    0 < d && if i.closed then low ≤ d * grid && d * grid ≤ high
      else low < d * grid && d * grid < high
  let down := centre / grid
  let up := down + 1
  let upNearer : Bool :=
    let gap := 2 * (centre - down * grid)
    grid < gap || (grid = gap && down % 2 = 1)
  if inside down && (!inside up || !upNearer) then some ⟨down, k⟩
  else if inside up then some ⟨up, k⟩
  else none

/-- Powers of ten from above every finite float to below the finest one needed. -/
def grids : List Int :=
  (List.range 660).map fun (i : Nat) => 310 - (i : Int)

/-- The decimal of a positive finite float on the coarsest grid that has one. -/
def ofBits (bits : Nat) : Decimal :=
  (grids.findSome? (Interval.ofBits bits).nearest?).getD ⟨0, 0⟩

/-- The decimal's text: positional if the first digit stands between `10 ^ -5` and `10 ^ 15`, and
then always with a point; else scientific, the exponent unpadded and without a plus. -/
def text (d : Decimal) : List Char :=
  let digits := Nat.toDigits 10 d.digits
  let size : Int := digits.length
  -- digits before the point
  let point := size + d.exponent
  if 0 ≤ d.exponent ∧ point ≤ 16 then
    digits ++ List.replicate d.exponent.toNat '0' ++ ['.', '0']
  else if 0 < point ∧ point ≤ 16 then
    digits.take point.toNat ++ '.' :: digits.drop point.toNat
  else if -5 < point ∧ point ≤ 0 then
    '0' :: '.' :: List.replicate (-point).toNat '0' ++ digits
  else
    let e := point - 1
    let exponent := 'e' :: (if e < 0 then ['-'] else []) ++ Nat.toDigits 10 e.natAbs
    match digits with
    | first :: second :: more => first :: '.' :: second :: more ++ exponent
    | few => few ++ exponent

/-- The text of a finite float; zero is `0.0` and keeps its sign. -/
def floatText (x : Float) : List Char :=
  let bits := x.toBits.toNat
  let signBit := Nat.pow 2 63
  let sign := if signBit ≤ bits then ['-'] else []
  let magnitude := bits % signBit
  sign ++ if magnitude = 0 then ['0', '.', '0'] else (ofBits magnitude).text

end Decimal

end SearchQuery
