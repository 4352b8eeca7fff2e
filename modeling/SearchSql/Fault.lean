/-!
# Faults

Everything that can be wrong with a request, by cause. Malformed conditions and
statements are reported with a message and the clause they stand in; values that do
not fit the model of a query, a schema or the settings are reported by their places;
values of a kind that an operation cannot work on are reported by the kind of misuse.

## Main definitions

* `Fault` — the causes.
* `Fault.message?`, `Fault.clause?` — how a fault of a request reads.
-/

namespace SearchSql

/-- How many operands an operator of conditions takes. -/
inductive Operands where
  /-- A single condition. -/
  | one
  /-- A column and what it is compared with. -/
  | two
  /-- A column and two bounds. -/
  | three
  deriving DecidableEq, Repr

/-- The number of operands in words. -/
def Operands.phrase : Operands → String
  | .one => "exactly one operand"
  | .two => "two operands"
  | .three => "three operands"

/-- How a value of the wrong kind fails an operation. -/
inductive Misuse where
  /-- The operation is not defined on values of the kind. -/
  | kind
  /-- The value is not a mapping. -/
  | notMapping
  /-- A mapping lacks a key. -/
  | missingKey
  /-- A sequence is too short. -/
  | missingItem
  /-- A text or a sequence has the right kind and no meaning. -/
  | meaningless
  /-- A number is out of range. -/
  | overflow
  deriving DecidableEq, Repr

/-- What is wrong with a request. -/
inductive Fault where
  /-- A condition in operator form starts with something other than a text. -/
  | operatorNotText (written : String)
  /-- An operator has the wrong number of operands. -/
  | operands (operator : String) (required : Operands)
  /-- A row compared with several columns is not a mapping. -/
  | rowNotMapping (operator kind : String)
  /-- A query is given where a column needs a value. -/
  | queryAsValue (column : String)
  /-- A row of a batch has more or fewer values than there are columns. -/
  | rowWidth (statement index : String) (values columns : Nat)
  /-- No dialect has the name. -/
  | unknownDialect (name registered : String)
  /-- The query language has no such clause. -/
  | unsupportedClause (clause : String)
  /-- A facet under a key is not a mapping. -/
  | facetNotMapping (facet kind : String)
  /-- The server has no such operation. -/
  | unsupportedMethod (method : String)
  /-- A condition stands alone and has a query in it. -/
  | noQueries
  /-- Values at these places do not fit the model that they are read as. -/
  | invalid (places : List String)
  /-- A value of the wrong kind. -/
  | misuse (how : Misuse)
  deriving DecidableEq, Repr

namespace Fault

/-- The message of a fault of a request. -/
def message? : Fault → Option String
  | .operatorNotText written => some s!"Condition operator must be a string, got {written}."
  | .operands operator required => some s!"Operator '{operator}' requires {required.phrase}."
  | .rowNotMapping operator kind =>
    some s!"Composite '{operator}' values must be mappings of column to value, got {kind}."
  | .queryAsValue column => some s!"A sub-query is not a valid value for column '{column}'."
  | .rowWidth _ index values columns =>
    some s!"Row has {values} values but {columns} columns were given for index '{index}'."
  | .unknownDialect name registered =>
    some s!"Unsupported dialect target: '{name}'. Registered targets: {registered}."
  | .unsupportedClause clause => some s!"Build of '{clause}' is not supported by SphinxQL."
  | .facetNotMapping facet kind =>
    some s!"Facet specification must be a mapping, '{kind}' given for facet '{facet}'."
  | .unsupportedMethod method => some s!"Method '{method}' is not supported by Sphinx."
  | .noQueries => some "No subquery build function configured."
  | .invalid _ => none
  | .misuse _ => none

/-- The clause that a fault of a request stands in. -/
def clause? : Fault → Option String
  | .operatorNotText _ => some "condition"
  | .operands _ _ => some "condition"
  | .rowNotMapping _ _ => some "condition"
  | .queryAsValue _ => some "value"
  | .rowWidth statement _ _ _ => some statement
  | .unsupportedClause clause => some clause
  | .facetNotMapping _ _ => some "FACET"
  | _ => none

end Fault

/-- The outcome of work that a fault ends. -/
abbrev Checked := Except Fault

/-- Work in two steps succeeds just when both steps do. -/
theorem Checked.bind_eq_ok_iff {α β : Type} {first : Checked α} {next : α → Checked β} {b : β} :
    first >>= next = .ok b ↔ ∃ a, first = .ok a ∧ next a = .ok b := by
  cases first <;> simp [Bind.bind, Except.bind]

end SearchSql
