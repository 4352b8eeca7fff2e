import SearchSql.Connection.Basic
import SearchSql.Escape.Like
import SearchSql.Layout.Basic

/-!
# Predicates on columns

A predicate compares the quoted name of a column with operands. No operand is written as it is:
what is written for it is the name of the next parameter, the word for no value, or several names
in parentheses. So what is written for a predicate depends on the parameters before it, and more
parameters are there after it.

## Main definitions

* `Mark`, `Comparand` — what a column is compared with.
* `Predicate` — what is said about the column.
* `Predicate.write` — what is written for a predicate, and the parameters after it.
-/
namespace SearchSql

/-- What is written for several things one after the other, and the parameters after them. -/
def Params.writeEach {α : Type} (write : α → Params → String × Params) :
    List α → Params → List String × Params
  | [], p => ([], p)
  | first :: rest, p =>
    let (text, q) := write first p
    let (texts, last) := writeEach write rest q
    (text :: texts, last)

theorem Params.writeEach_map {α β : Type} (write : β → Params → String × Params) (f : α → β)
    (parts : List α) (p : Params) :
    writeEach write (parts.map f) p = writeEach (fun part => write (f part)) parts p := by
  induction parts generalizing p with
  | nil => rfl
  | cons part rest ih => simp only [List.map_cons, writeEach, ih]

/-! ## Operands -/

/-- What stands for a single value. -/
inductive Mark where
  /-- The name of a parameter that is bound to a value. -/
  | bound (v : Value)
  /-- A raw fragment. -/
  | raw (sql : String) (params : Mapping)

/-- What a column is compared with. -/
inductive Comparand where
  /-- No value. -/
  | missing
  /-- A single value. -/
  | single (mark : Mark)
  /-- The values of a list. -/
  | several (marks : List Mark)

namespace Mark

/-- A value as it is given. -/
def ofPlain : Value → Mark
  | .raw sql params => .raw sql params
  | v => .bound v

/-- A value of a column, coerced where it can be. -/
def ofValue (column : Option Column) : Value → Mark
  | .raw sql params => .raw sql params
  | v => .bound ((Column.coerce column v).toOption.getD v)

/-- A pattern, escaped where it can be. -/
def ofPattern (table : Value) : Value → Mark
  | .raw sql params => .raw sql params
  | v => .bound ((Like.pattern v table).toOption.getD v)

/-- What is written for a single value. -/
def write (stem : String) : Mark → Params → String × Params
  | .bound v, p => (p.nextName stem, p.bind stem v)
  | .raw sql params, p => (sql, p.merge params)

end Mark

namespace Comparand

/-- A value that is compared with a column: a list has several values, unless the column holds
JSON. -/
def ofValue (indexes : List Index) (column v : Value) : Comparand :=
  let found := column.text?.bind (Index.findColumn? indexes)
  let isJson := found.any fun declared => declared.type == .json
  match v with
  | .null => .missing
  | .list items | .tuple items | .set items =>
    if isJson then .single (.ofValue found v) else .several (items.map (Mark.ofValue found))
  | v => .single (.ofValue found v)

/-- The value on the right of an operator without a form of its own. -/
def ofCompared : Value → Comparand
  | .null => .missing
  | v => .single (.ofPlain v)

/-- What is written for an operand. -/
def write (stem : String) : Comparand → Params → String × Params
  | .missing, p => ("NULL", p)
  | .single mark, p => mark.write stem p
  | .several marks, p =>
    let (written, q) := Params.writeEach (Mark.write stem) marks p
    ("(" ++ ",".intercalate written ++ ")", q)

end Comparand

/-! ## Predicates -/

/-- A predicate on a column, which is given by its quoted name. -/
inductive Predicate where
  /-- A raw text. -/
  | verbatim (sql : String)
  /-- The column has no value. -/
  | isNull (column : String)
  /-- The column has a value. -/
  | equal (column : String) (operand : Comparand)
  /-- The column does not have a value. -/
  | unequal (column : String) (operand : Comparand)
  /-- The column has one of some values. -/
  | among (column : String) (operands : List Comparand)
  /-- The column has none of some values. -/
  | notAmong (column : String) (operands : List Comparand)
  /-- The column lies between two bounds. -/
  | between (column : String) (low high : Comparand)
  /-- The column lies outside of two bounds. -/
  | notBetween (column : String) (low high : Comparand)
  /-- The column matches a pattern. -/
  | like (column : String) (pattern : Mark)
  /-- The column does not match a pattern. -/
  | notLike (column : String) (pattern : Mark)
  /-- The column is compared by another operator. -/
  | compared (column operator : String) (operand : Comparand)

namespace Predicate

/-- Membership in some values; a single one is compared. -/
def ofMembers (negated : Bool) (column : String) : List Comparand → Predicate
  | [operand] => if negated then .unequal column operand else .equal column operand
  | operands => if negated then .notAmong column operands else .among column operands

/-- What is written for a predicate. -/
def write (stem : String) : Predicate → Params → String × Params
  | .verbatim sql, p => (sql, p)
  | .isNull column, p => (column ++ " IS NULL", p)
  | .equal column operand, p =>
    let (written, q) := operand.write stem p
    (column ++ "=" ++ written, q)
  | .unequal column operand, p =>
    let (written, q) := operand.write stem p
    (column ++ "<>" ++ written, q)
  | .among column operands, p =>
    let (written, q) := Params.writeEach (Comparand.write stem) operands p
    (column ++ " IN (" ++ ", ".intercalate written ++ ")", q)
  | .notAmong column operands, p =>
    let (written, q) := Params.writeEach (Comparand.write stem) operands p
    (column ++ " NOT IN (" ++ ", ".intercalate written ++ ")", q)
  | .between column low high, p =>
    let (lowest, q) := low.write stem p
    let (highest, last) := high.write stem q
    (column ++ " BETWEEN " ++ lowest ++ " AND " ++ highest, last)
  | .notBetween column low high, p =>
    let (lowest, q) := low.write stem p
    let (highest, last) := high.write stem q
    (column ++ " NOT BETWEEN " ++ lowest ++ " AND " ++ highest, last)
  | .like column pattern, p =>
    let (written, q) := pattern.write stem p
    (column ++ " LIKE " ++ written, q)
  | .notLike column pattern, p =>
    let (written, q) := pattern.write stem p
    (column ++ " NOT LIKE " ++ written, q)
  | .compared column operator operand, p =>
    let (written, q) := operand.write stem p
    (column ++ " " ++ operator ++ " " ++ written, q)

end Predicate

end SearchSql
