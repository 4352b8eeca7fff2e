/-!
# Full-text queries

The characters that mean something in a full-text query are escaped by a backslash, and
the control characters that end or cut a query are written by name.

## Main definitions

* `Match.escape` — a text as a full-text query for just that text.
-/

namespace SearchSql.Match

/-- The characters that a backslash before them takes literally. -/
def specials : List Char :=
  ['\\', '/', '"', '(', ')', '|', '-', '!', '@', '~', '&', '^', '$', '=', '>', '<']

/-- One character of a text in a full-text query. -/
def escapeChar (c : Char) : List Char :=
  if c ∈ specials then ['\\', c]
  else if c.toNat = 0 then ['\\', 'x', '0', '0']
  else if c = '\n' then ['\\', 'n']
  else if c = '\r' then ['\\', 'r']
  else if c.toNat = 0x1A then ['\\', 'x', '1', 'a']
  else [c]

/-- A text as a full-text query for just that text. -/
def escape (s : String) : String := String.ofList (s.toList.flatMap escapeChar)

@[simp] theorem toList_escape (s : String) : (escape s).toList = s.toList.flatMap escapeChar := by
  simp [escape]

/-- Escaping goes character by character. -/
theorem escape_append (s t : String) : escape (s ++ t) = escape s ++ escape t := by
  simp [escape]

end SearchSql.Match
