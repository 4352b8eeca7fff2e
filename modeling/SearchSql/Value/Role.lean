import SearchSql.Value.Basic

/-!
# Roles of values

What a value is where a statement takes one: nothing, a raw fragment, a query, several
values or one.

## Main definitions

* `Role`, `Value.role` — the role of a value.
-/

namespace SearchSql

/-- What a value is where a statement takes one. -/
inductive Role where
  /-- No value. -/
  | null
  /-- A fragment taken as it stands. -/
  | raw
  /-- A nested query. -/
  | query
  /-- Several values. -/
  | members
  /-- One value. -/
  | scalar
  deriving DecidableEq, Repr

/-- The role of a value. A mapping is one value. -/
def Value.role : Value → Role
  | .null => .null
  | .raw _ _ => .raw
  | .query _ => .query
  | .list _ | .tuple _ | .set _ => .members
  | _ => .scalar

/-- The values with members are those in the role of several. -/
theorem Value.role_eq_members_iff (v : Value) : v.role = .members ↔ v.members?.isSome := by
  cases v <;> simp [role, members?]

end SearchSql
