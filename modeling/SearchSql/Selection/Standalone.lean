import SearchSql.Selection.Basic

/-!
# Conditions by themselves

A condition that belongs to no statement has no place for a selection in it.

## Main definitions

* `Condition.standalone` — a condition in which selections are faults.
-/

namespace SearchSql

mutual

/-- The condition in which every selection is a fault. -/
def Condition.standalone : Condition → Condition
  | .amongSelected _ _ _ => .malformed .noQueries
  | .connected connective operands => .connected connective (Condition.standaloneAll operands)
  | .negation operand => .negation operand.standalone
  | .record entries => .record (Condition.standaloneAll entries)
  | condition => condition

/-- The conditions of a list in which every selection is a fault. -/
def Condition.standaloneAll : List Condition → List Condition
  | [] => []
  | condition :: rest => condition.standalone :: Condition.standaloneAll rest

end

end SearchSql
