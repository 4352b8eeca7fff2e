import SearchSql.Text.Blank
import SearchSql.Text.Upper
import SearchSql.Value.Basic

/-!
# Operators of conditions

The keywords that have a form of their own. Any other keyword compares a column with
one value. Keywords are read without surrounding blanks and in any letter case.

## Main definitions

* `Operator`, `Operator.ofKeyword?` — the operators and their keywords.
* `Operator.Group` — what operators have in common.
* `Direction.ofValue` — the direction of an ordering.
-/

namespace SearchSql

/-- An operator with a form of its own. -/
inductive Operator where
  /-- All operands hold. -/
  | and
  /-- Some operand holds. -/
  | or
  /-- The operand does not hold. -/
  | not
  /-- The column lies between two bounds. -/
  | between
  /-- The column lies outside of two bounds. -/
  | notBetween
  /-- The column is one of some values. -/
  | among
  /-- The column is none of some values. -/
  | notAmong
  /-- The column matches all of some patterns. -/
  | like
  /-- The column matches none of some patterns. -/
  | notLike
  /-- The column matches one of some patterns. -/
  | orLike
  /-- The column fails to match one of some patterns. -/
  | orNotLike
  deriving DecidableEq, Repr

namespace Operator

/-- All operators. -/
def all : List Operator :=
  [.and, .or, .not, .between, .notBetween, .among, .notAmong, .like, .notLike, .orLike, .orNotLike]

/-- The keyword of an operator. -/
def keyword : Operator → String
  | .and => "AND"
  | .or => "OR"
  | .not => "NOT"
  | .between => "BETWEEN"
  | .notBetween => "NOT BETWEEN"
  | .among => "IN"
  | .notAmong => "NOT IN"
  | .like => "LIKE"
  | .notLike => "NOT LIKE"
  | .orLike => "OR LIKE"
  | .orNotLike => "OR NOT LIKE"

/-- The operator with a keyword. -/
def ofKeyword? (s : String) : Option Operator := all.find? (·.keyword == s)

/-- A token as a keyword. -/
def normalize (token : String) : String := Text.upper (Text.trim token)

/-- What operators have in common. -/
inductive Group where
  /-- They take any number of conditions. -/
  | logical
  /-- They take two bounds. -/
  | range
  /-- They take values or a query. -/
  | membership
  /-- They take patterns. -/
  | pattern
  /-- They take patterns, and hold of nothing when there are none. -/
  | positivePattern
  deriving DecidableEq, Repr

/-- Whether an operator belongs to a group. -/
def isIn : Operator → Group → Bool
  | .and, .logical | .or, .logical => true
  | .between, .range | .notBetween, .range => true
  | .among, .membership | .notAmong, .membership => true
  | .like, .pattern | .notLike, .pattern | .orLike, .pattern | .orNotLike, .pattern => true
  | .like, .positivePattern | .orLike, .positivePattern => true
  | _, _ => false

/-- Every operator is found by its keyword. -/
@[simp] theorem ofKeyword?_keyword (o : Operator) : ofKeyword? o.keyword = some o := by
  cases o <;> decide

theorem keyword_eq_of_ofKeyword? {s : String} {o : Operator} (h : ofKeyword? s = some o) :
    o.keyword = s := by
  simpa using List.find?_some h

end Operator

/-- The direction of an ordering. -/
inductive Direction where
  /-- From the least to the greatest. -/
  | ascending
  /-- From the greatest to the least. -/
  | descending
  deriving DecidableEq, Repr

/-- The word for a direction. -/
def Direction.word : Direction → String
  | .ascending => "ASC"
  | .descending => "DESC"

/-- The direction that a value asks for; anything but the word DESC asks for ascent. -/
def Direction.ofValue : Value → Direction
  | .text s => if Operator.normalize s = "DESC" then .descending else .ascending
  | _ => .ascending

end SearchSql
