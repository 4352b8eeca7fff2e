import SearchSql.Number.Binary64

/-!
# The shortest decimal that reads back

A finite number is written with the fewest digits that identify it among all numbers
of its format. The reals that round to `m · 2 ^ q` form an interval, whose ends belong
to it when `m` is even. On the grid of decimals with a given number of digits, only
the two neighbours of the number itself need to be tried: the first grid with a
neighbour in the interval wins, and of two neighbours the nearer.

## Main definitions

* `Number.shortest` — digits and decimal exponent of the shortest decimal.
* `Number.Style` — where positional writing ends and how an exponent is written.
* `Number.write` — the text of a number in a style.
-/

namespace SearchSql.Number

/-- The interval of reals that round to a number, in quarters of the distance to the
next number: `4 · significand` with the two ends around it. -/
structure Neighbourhood where
  /-- The lower end. -/
  low : Nat
  /-- The number itself. -/
  centre : Nat
  /-- The upper end. -/
  high : Nat
  /-- Whether the ends round to the number too. -/
  closed : Bool

/-- The numbers below a power of two lie half as far apart as those above it. -/
def neighbourhood (m : Nat) (q : Int) : Neighbourhood where
  low := if m = Nat.pow 2 52 ∧ q ≠ -1074 then 4 * m - 1 else 4 * m - 2
  centre := 4 * m
  high := 4 * m + 2
  closed := m % 2 = 0

/-- The neighbour of `m · 2 ^ q` on the grid of multiples of `10 ^ k` that rounds to it,
as a multiple of `10 ^ k`; the nearer of two, and the even one of two as near. -/
def onGrid? (m : Nat) (q k : Int) : Option Nat :=
  let around := neighbourhood m q
  let unit := Nat.pow 2 (q - 2).toNat * Nat.pow 10 (-k).toNat
  let grid := Nat.pow 2 (2 - q).toNat * Nat.pow 10 k.toNat
  let below := around.centre * unit / grid
  let above := below + 1
  let belowHits := if around.closed then around.low * unit ≤ below * grid
    else around.low * unit < below * grid
  let aboveHits := if around.closed then above * grid ≤ around.high * unit
    else above * grid < around.high * unit
  let toBelow := around.centre * unit - below * grid
  let toAbove := above * grid - around.centre * unit
  if belowHits then
    if aboveHits ∧ (toAbove < toBelow ∨ toAbove = toBelow ∧ below % 2 = 1) then some above
    else some below
  else if aboveHits then some above
  else none

/-- The exponent of the leading decimal digit of `m · 2 ^ q`. The estimate from the
leading bit is at most one too small. -/
def leadingExponent (m : Nat) (q : Int) : Int :=
  let estimate := ((m.log2 : Int) + q) * 30103 / 100000
  let next := estimate + 1
  if Nat.pow 10 next.toNat * Nat.pow 2 (-q).toNat ≤
      m * Nat.pow 2 q.toNat * Nat.pow 10 (-next).toNat then next
  else estimate

/-- A decimal `0.digits · 10 ^ point`: its significant digits and the place of the point. -/
structure Decimal where
  /-- The digits, the first and the last of them not zero. -/
  digits : List Char
  /-- How many digits stand before the point. -/
  point : Int
  deriving DecidableEq, Repr

/-- The decimal `n · 10 ^ k` without the zeros at its end. -/
def Decimal.ofScaled (n : Nat) (k : Int) : Decimal :=
  let digits := (Nat.toDigits 10 n)
  ⟨(digits.reverse.dropWhile (· == '0')).reverse, digits.length + k⟩

/-- The shortest decimal that rounds to `m · 2 ^ q`. Seventeen digits always do. -/
def shortest (m : Nat) (q : Int) : Decimal :=
  let lead := leadingExponent m q
  let hit := (List.range 17).findSome? fun (n : Nat) =>
    (onGrid? m q (lead - n)).map fun p => Decimal.ofScaled p (lead - n)
  hit.getD ⟨[], 0⟩

/-- How numbers are written. -/
structure Style where
  /-- The least place of the point that is written out with zeros after the point. -/
  leastPoint : Int
  /-- The greatest place of the point that is written out. -/
  greatestPoint : Int
  /-- The least number of digits of an exponent. -/
  exponentWidth : Nat
  /-- The text of a value that is no number. -/
  nan : String
  /-- The text of the value beyond all numbers. -/
  infinity : String

/-- The text of an exponent, with its sign and at least the digits of the style. -/
def Style.exponent (style : Style) (e : Int) : String :=
  let digits := Nat.toDigits 10 e.natAbs
  (if e < 0 then "e-" else "e+") ++
    String.ofList (List.replicate (style.exponentWidth - digits.length) '0' ++ digits)

/-- The text of a decimal: positional with at least one digit on each side of the point,
or one digit before the point and an exponent. -/
def Style.decimal (style : Style) (d : Decimal) : String :=
  if style.leastPoint ≤ d.point ∧ d.point ≤ style.greatestPoint then
    let places := d.point.toNat
    if d.point ≤ 0 then
      "0." ++ String.ofList (List.replicate (-d.point).toNat '0' ++ d.digits)
    else if d.digits.length ≤ places then
      String.ofList (d.digits ++ List.replicate (places - d.digits.length) '0') ++ ".0"
    else String.ofList (d.digits.take places) ++ "." ++ String.ofList (d.digits.drop places)
  else
    let fraction := d.digits.drop 1
    String.ofList (d.digits.take 1) ++
      (if fraction.isEmpty then "" else "." ++ String.ofList fraction) ++
      style.exponent (d.point - 1)

/-- The text of a number in a style. -/
def write (style : Style) (x : Float) : String :=
  match decode x with
  | .nan => style.nan
  | .infinite negative => (if negative then "-" else "") ++ style.infinity
  | .finite negative m q =>
    (if negative then "-" else "") ++ (if m = 0 then "0.0" else style.decimal (shortest m q))

/-- Numbers are positional from `0.0001` up to sixteen digits before the point, and have
an exponent of two digits or more elsewhere. -/
def plain : Style := ⟨-3, 16, 2, "nan", "inf"⟩

end SearchSql.Number
