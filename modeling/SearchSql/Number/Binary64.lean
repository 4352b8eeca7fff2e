/-!
# Parts of a binary floating-point number

A finite `Float` is `± significand · 2 ^ exponent`. The parts are read from its bits,
so that everything said about its value is exact arithmetic on `Nat` and `Int`.

## Main definitions

* `Number.decode` — sign, significand and exponent, or the kind of non-finite value.
* `Number.truncate` — the integer part.
* `Number.exactInt?` — the integer a number is equal to.
* `Number.tooLarge` — the magnitude from which on integers are too large.
* `Number.ofInt?` — the nearest number to an integer, if there is one.
-/

namespace SearchSql.Number

/-- What the bits of a `Float` say. -/
inductive Decoded where
  /-- No number at all. -/
  | nan
  /-- Beyond all numbers, on either side. -/
  | infinite (negative : Bool)
  /-- The number `± significand · 2 ^ exponent`. -/
  | finite (negative : Bool) (significand : Nat) (exponent : Int)
  deriving DecidableEq, Repr

/-- Read the sign, the eleven exponent bits and the fifty-two fraction bits. A zero
exponent field marks the subnormal numbers, which have no implicit leading bit. -/
def decode (x : Float) : Decoded :=
  let bits := x.toBits.toNat
  let negative := decide (Nat.pow 2 63 ≤ bits)
  let field : Nat := bits / Nat.pow 2 52 % Nat.pow 2 11
  let fraction : Nat := bits % Nat.pow 2 52
  if field = 2047 then
    if fraction = 0 then .infinite negative else .nan
  else if field = 0 then .finite negative fraction (-1074)
  else .finite negative (fraction + Nat.pow 2 52) ((field : Int) - 1075)

/-- An integer with its sign. -/
def signed (negative : Bool) (n : Nat) : Int :=
  if negative then -(n : Int) else n

/-- The integer part of a finite number, toward zero. -/
def truncate (x : Float) : Option Int :=
  match decode x with
  | .finite negative m e =>
    some (signed negative
      (if 0 ≤ e then m * Nat.pow 2 e.toNat else m / Nat.pow 2 (-e).toNat))
  | _ => none

/-- The integer that a number equals, if it equals one. -/
def exactInt? (x : Float) : Option Int :=
  match decode x with
  | .finite negative m e =>
    if 0 ≤ e then some (signed negative (m * Nat.pow 2 e.toNat))
    else if m % Nat.pow 2 (-e).toNat = 0 then
      some (signed negative (m / Nat.pow 2 (-e).toNat))
    else none
  | _ => none

/-- The least magnitude that is beyond the largest number: it lies half-way between that number,
`2 ^ 1024 - 2 ^ 971`, and `2 ^ 1024`, and ties are rounded to even. -/
@[irreducible] def tooLarge : Nat := Nat.pow 2 1024 - Nat.pow 2 970

/-- The number nearest to an integer; integers that round beyond the largest finite
number have none. -/
def ofInt? (n : Int) : Option Float :=
  if tooLarge ≤ n.natAbs then none else some (Float.ofInt n)

end SearchSql.Number
