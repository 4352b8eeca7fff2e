import SearchSql.Escape.Replacement

/-!
# Patterns

A text is searched for by a pattern that may have anything around it. The characters
that mean something in a pattern are escaped first.

## Main definitions

* `Like.escapes` — the characters that are escaped in a pattern.
* `Like.pattern` — the pattern for a value.
-/

namespace SearchSql.Like

/-- The characters that mean something in a pattern. -/
def escapes : List (String × String) := [("%", "\\%"), ("_", "\\_"), ("\\", "\\\\")]

/-- Texts and their replacements as a value. -/
def tableValue (pairs : List (String × String)) : Value :=
  .map (pairs.map fun (key, value) => (.text key, .text value))

/-- The pattern for a value: its escaped text with anything around it, or the value itself
where nothing is to be escaped. -/
def pattern (v table : Value) : Checked Value := do
  if !table.truthy then return v
  let s ← v.shown
  match ← Replacement.ofValue table with
  | none => return v
  | some table => return .text ("%" ++ (← table.apply s) ++ "%")

end SearchSql.Like
