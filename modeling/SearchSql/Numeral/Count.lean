import SearchSql.Fault
import SearchSql.Numeral.Basic
import SearchSql.Value.Basic

/-!
# Row counts

A row count is an integer from zero on, or a text of the digits 0 to 9. Anything else
is no count and has no effect.

## Main definitions

* `Numeral.count?` — the count that a value is.
* `Numeral.write` — the text of a count.
-/

namespace SearchSql.Numeral

/-- The count that a value is. A text with more digits than an integer may have is at
fault. -/
def count? : Value → Checked (Option Nat)
  | .int n => .ok (if 0 ≤ n then some n.toNat else none)
  | .text s =>
    let cs := s.toList
    if cs.isEmpty || !cs.all Text.isAsciiDigit then .ok none
    else if cs.length ≤ maxDigits then .ok (some (value cs))
    else .error (.misuse .meaningless)
  | _ => .ok none

/-- The text of a count, which may not have too many digits. -/
def write (n : Nat) : Checked String :=
  if isWritable n then .ok (toString n) else .error (.misuse .meaningless)

theorem write_eq_ok_iff {n : Nat} {s : String} :
    write n = .ok s ↔ isWritable n = true ∧ toString n = s := by
  rw [write]
  split <;> simp_all

end SearchSql.Numeral
