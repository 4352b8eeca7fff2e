import SearchSql.Number.Binary64
import SearchSql.Text.Blank
import SearchSql.Text.Digit

/-!
# Reading numerals

Integers and decimals as people type them: white space around them, a sign, digits of
any script, and single underscores between digits. Integers are limited to
`maxDigits` digits; decimals may have any number of them and an exponent.

## Main definitions

* `Numeral.integer?` — the integer that a text denotes.
* `Numeral.isWritable` — whether an integer has a numeral.
* `Numeral.decimal?` — the nearest binary number to the decimal that a text denotes.
-/

namespace SearchSql.Numeral

open Text

/-- The greatest number of digits of an integer numeral. -/
def maxDigits : Nat := 4300

/-- The characters of a numeral: without surrounding white space, and with digits 0 to 9
for the digits of every script. -/
def normalize (s : String) : List Char :=
  (trimChars isWhiteSpace s.toList).map fun c =>
    match digitValue? c with
    | some d => Char.ofNat (48 + d)
    | none => c

/-- The value of a row of digits. -/
def value (digits : List Char) : Nat :=
  digits.foldl (fun n c => 10 * n + (c.toNat - 48)) 0

/-- The digits of a row in which single underscores may stand between digits. -/
def digits? (cs : List Char) : Option (List Char) :=
  let groups := cs.splitOn '_'
  if groups.all fun group => !group.isEmpty && group.all isAsciiDigit then some groups.flatten
  else none

/-- Split off a sign; true stands for minus. -/
def sign : List Char → Bool × List Char
  | '-' :: rest => (true, rest)
  | '+' :: rest => (false, rest)
  | cs => (false, cs)

/-- The integer written by the characters of a normalized numeral. -/
def integerChars? (cs : List Char) : Option Int :=
  let (negative, rest) := sign cs
  match digits? rest with
  | some digits =>
    if digits.length ≤ maxDigits then some (Number.signed negative (value digits)) else none
  | none => none

/-- The integer that a text denotes. -/
def integer? (s : String) : Option Int := integerChars? (normalize s)

/-- Whether an integer has a numeral: its digits are not too many. -/
def isWritable (n : Int) : Bool := (Nat.toDigits 10 n.natAbs).length ≤ maxDigits

/-- A number with the sign given apart. -/
def withSign (negative : Bool) (x : Float) : Float := if negative then -x else x

/-- The binary number nearest to `n · 10 ^ e`. Magnitudes far outside the format are
settled by the place of the leading digit. -/
def nearest (n : Nat) (e : Int) : Float :=
  let lead := ((Nat.toDigits 10 n).length : Int) + e
  if n = 0 ∨ lead < -400 then 0.0
  else if 400 < lead then 1.0 / 0.0
  else Float.ofScientific n (decide (e < 0)) e.natAbs

/-- The digits before or after the point, of which there may be none. -/
def part? (cs : List Char) : Option (List Char) :=
  if cs.isEmpty then some [] else digits? cs

/-- The exponent after its mark: a sign and at least one digit. -/
def exponent? : List Char → Option Int
  | [] => some 0
  | _ :: rest =>
    let (negative, digits) := sign rest
    (digits? digits).map fun ds => Number.signed negative (value ds)

/-- The magnitude written by the characters of a decimal without its sign. -/
def magnitude? (cs : List Char) : Option Float := do
  let (mantissa, tail) := cs.span fun c => c != 'e' && c != 'E'
  let (whole, fraction) := mantissa.span (· != '.')
  let whole ← part? whole
  let fraction ← part? (fraction.drop 1)
  let e ← exponent? tail
  if whole.isEmpty && fraction.isEmpty then none
  else some (nearest (value (whole ++ fraction)) (e - fraction.length))

/-- The number written by the characters of a normalized numeral: a decimal, or one of
the words for infinity and for no number. -/
def decimalChars? (cs : List Char) : Option Float :=
  let (negative, rest) := sign cs
  let word := String.ofList (rest.map Char.toLower)
  if word = "inf" ∨ word = "infinity" then some (withSign negative (1.0 / 0.0))
  else if word = "nan" then some (0.0 / 0.0)
  else (magnitude? rest).map (withSign negative)

/-- The binary number nearest to the decimal that a text denotes. -/
def decimal? (s : String) : Option Float := decimalChars? (normalize s)

end SearchSql.Numeral
