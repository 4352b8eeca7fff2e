import SearchSql.Numeral.Basic

/-!
# Lenient numerals

Where a field of a model holds an integer, a text may denote it more freely than a
numeral does: white space, a plus sign, zeros in front with underscores among them, and
a fraction of zeros are passed over. What is left is an integer in plain form. Only the
digits 0 to 9 count.

## Main definitions

* `Numeral.plainInteger?` — the integer in plain form.
* `Numeral.lenient?` — the integer that a text denotes.
-/

namespace SearchSql.Numeral

open Text

/-- Drop the zeros, and the underscores among them, before the first digit that counts. A
zero stays when nothing but a fraction follows it. A minus sign may stand before the zeros
or after them. -/
def dropLeadingZeros : List Char → Option (List Char)
  | [] => none
  | '-' :: rest => (dropLeadingZeros rest).map ('-' :: ·)
  | '0' :: rest => go '0' rest
  | c :: rest => if isAsciiDigit c then some (c :: rest) else none
where
  /-- The rest of a numeral after the zero or underscore `last`. -/
  go (last : Char) : List Char → Option (List Char)
    | [] => some [last]
    | c :: rest =>
      if c = '0' ∨ c = '_' then go c rest
      else if isAsciiDigit c ∨ c = '-' then some (c :: rest)
      else if c = '.' then some (last :: c :: rest)
      else none

/-- Drop a fraction that has zeros, at least one, and nothing else. -/
def dropZeroFraction (cs : List Char) : List Char :=
  match cs.span (· != '.') with
  | (whole, _ :: '0' :: zeros) => if zeros.all (· == '0') then whole else cs
  | _ => cs

/-- The characters of a numeral without single underscores between them. -/
def dropUnderscores? (cs : List Char) : Option (List Char) :=
  let groups := cs.splitOn '_'
  if cs.contains '_' && groups.any List.isEmpty then none else some groups.flatten

/-- The number that a row of digits without a needless zero denotes. Like other integers it
has at most `maxDigits` digits. -/
def plainDigits? : List Char → Option Nat
  | [] => none
  | '0' :: rest => if rest.isEmpty then some 0 else none
  | digits =>
    if digits.length ≤ maxDigits && digits.all isAsciiDigit then some (value digits) else none

/-- The integer in plain form: a minus sign perhaps, and digits without a needless zero. -/
def plainInteger? : List Char → Option Int
  | '-' :: digits => (plainDigits? digits).map (Number.signed true)
  | digits => (plainDigits? digits).map (Number.signed false)

/-- The characters after a plus sign, which a minus sign may not follow. -/
def dropPlus? : List Char → Option (List Char)
  | '+' :: '-' :: _ => none
  | '+' :: rest => some rest
  | cs => some cs

/-- The integer that a lenient numeral denotes. -/
def lenient? (s : String) : Option Int := do
  let signed ← dropPlus? (trimChars isWhiteSpace s.toList)
  let counting ← dropLeadingZeros signed
  let digits ← dropUnderscores? (dropZeroFraction counting)
  plainInteger? digits

example : lenient? " +007 " = some 7 ∧ lenient? "-1_0.00" = some (-10) ∧
    lenient? "-0__12" = some (-12) ∧ lenient? "0-1" = some (-1) := by decide

example : lenient? "1__0" = none ∧ lenient? "-_1" = none ∧ lenient? "7." = none ∧
    lenient? "+-1" = none := by decide

end SearchSql.Numeral
