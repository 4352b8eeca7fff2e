import SearchSql.Fault
import SearchSql.Text.Printable
import SearchSql.Value.Display

/-!
# Dialects

Dialects differ in how the name of an index or a column is quoted. Expressions are not
quoted, a name with dots is quoted part by part, and the star and parts that have a
back-quote in them are left alone.

## Main definitions

* `Dialect` — a name and the quoting of one part.
* `Dialect.quote` — the quoting of a name.
* `Dialect.sphinx`, `Dialect.manticore` — the two dialects.
* `Registry` — dialects under the names by which they are asked for.
-/

namespace SearchSql

/-- A dialect of the query language. -/
structure Dialect where
  /-- The name of the dialect. -/
  name : String
  /-- How a name without dots is quoted. -/
  quotePart : List Char → List Char

namespace Dialect

/-- The back-quote. -/
def backQuote : Char := '\x60'

/-- Whether a character stands twice in a row somewhere. -/
def hasTwice (c : Char) : List Char → Bool
  | a :: b :: rest => (a == c && b == c) || hasTwice c (b :: rest)
  | _ => false

/-- Whether a name is an expression: a parenthesis, a double brace or a double bracket opens
in it. -/
def isExpression (cs : List Char) : Bool :=
  cs.contains '(' || hasTwice '{' cs || hasTwice '[' cs

/-- A part of a name, quoted unless it is the star or quoted already. -/
def quoteUnquoted (d : Dialect) (part : List Char) : List Char :=
  if part = ['*'] ∨ backQuote ∈ part then part else d.quotePart part

/-- The characters of a quoted name. -/
def quoteChars (d : Dialect) (cs : List Char) : List Char :=
  if isExpression cs then cs else ['.'].intercalate ((cs.splitOn '.').map d.quoteUnquoted)

/-- A quoted name. -/
def quote (d : Dialect) (name : String) : String := String.ofList (d.quoteChars name.toList)

@[simp] theorem toList_quote (d : Dialect) (name : String) :
    (d.quote name).toList = d.quoteChars name.toList := by
  simp [quote]

/-- An expression is not quoted. -/
theorem quoteChars_of_isExpression (d : Dialect) {cs : List Char} (h : isExpression cs = true) :
    d.quoteChars cs = cs := by
  simp [quoteChars, h]

@[simp] theorem quoteUnquoted_star (d : Dialect) : d.quoteUnquoted ['*'] = ['*'] := by
  simp [quoteUnquoted]

/-- The dialect in which names stand as they are. -/
def sphinx : Dialect := ⟨"sphinx", id⟩

/-- The dialect in which names stand between back-quotes. -/
def manticore : Dialect := ⟨"manticore", fun part => backQuote :: part ++ [backQuote]⟩

end Dialect

/-- Dialects under the names by which they are asked for. -/
structure Registry where
  /-- The names with their dialects. -/
  entries : List (String × Dialect)

namespace Registry

/-- The dialects that are always there. -/
def standard : Registry := ⟨[("sphinx", .sphinx), ("manticore", .manticore)]⟩

/-- Put a dialect under a name; it replaces the one that was there. -/
def register (registry : Registry) (name : String) (dialect : Dialect) : Registry :=
  ⟨(name, dialect) :: registry.entries.filter (·.1 != name)⟩

/-- The names of all dialects, in order. -/
def names (registry : Registry) : List String :=
  (registry.entries.map Prod.fst).mergeSort (fun s t => decide (s ≤ t))

/-- The dialect of a name. -/
def find (registry : Registry) (name : String) : Checked Dialect :=
  match registry.entries.lookup name with
  | some dialect => .ok dialect
  | none =>
    .error (.unknownDialect name (Value.literal (.list (registry.names.map .text))))

/-- A dialect is found under the name that it was put under last. -/
theorem find_register_self (registry : Registry) (name : String) (dialect : Dialect) :
    (registry.register name dialect).find name = .ok dialect := by
  simp [find, register]

end Registry

end SearchSql
