import SearchSql.Proofs.Entities.Layout

/-!
# What is visited in a condition

A condition is gone through from left to right, and a query in it with all its clauses before
what follows it. At each place something can be wrong, and what is wrong there can be told from
the place alone: an operator without the operands it needs, a row that is not a mapping, a query
where a column needs a value, a joined index, a facet under a key that is not a mapping. What
stands below a malformed operator or a joined index is not visited any more.

## Main definitions

* `Visit` — a place at which something can be wrong.
* `Visit.flaw?` — what is wrong at a place.
* `Visit.bound` — the queries that are bound at a place, since nothing checks for them there.
* `Condition.visits`, `Query.visits` — the places in a condition and in a query, in order.
-/
namespace SearchSql

/-- The query that a value is. -/
def Value.query? : Value → Option Query
  | .query q => some q
  | _ => none

/-- A place that is visited. -/
inductive Visit where
  /-- A condition in operator form. -/
  | form (items : List Value)
  /-- A value of a column, which is looked for in the indexes of some names. -/
  | value (names : List String) (column v : Value)
  /-- A row of values of several columns. -/
  | row (operator : Operator) (v : Value)
  /-- The value on the right of an operator without a form of its own. -/
  | operand (v : Value)
  /-- A pattern, and the table by which it is escaped if one is given. -/
  | pattern (escape : Option Value) (v : Value)
  /-- A value of an option that is not made of others. -/
  | option (v : Value)
  /-- A query. -/
  | query (q : Query)
  /-- An entry among the facets of a query. -/
  | facet (entry : Entry)

namespace Operator

/-- Whether an operator has the operands it needs, of which some may be missing. -/
def accepts (operator : Operator) (operands : List Value) : Bool :=
  match operator with
  | .and | .or => true
  | .not => operands.length == 1
  | .between | .notBetween => operands.length == 3 && operands.all (!·.isNull)
  | _ => 2 ≤ operands.length && (operands.take 2).all (!·.isNull)

/-- The operands that an operator needs. -/
def required : Operator → Operands
  | .not => .one
  | .between | .notBetween => .three
  | _ => .two

end Operator

/-- What is wrong with a condition in operator form, its operands apart. A token that cannot be
written is not told of. -/
def Condition.formFlaw? : List Value → Option Fault
  | [] => none
  | .text token :: operands =>
    match Operator.ofKeyword? (Operator.normalize token) with
    | some operator =>
      if operator.accepts operands then none
      else some (.operands operator.keyword operator.required)
    | none =>
      if operands.length = 2 then none else some (.operands (Operator.normalize token) .two)
  | token :: _ => if token.hasLiteral then some (.operatorNotText token.literal) else none

/-- Whether a column keeps a query that is one of its values: an unknown column, or one of
numbers. -/
def Column.keepsQueries : Option Column → Bool
  | none => true
  | some column => column.type.holds = .integer ∨ column.type.holds = .number

namespace Visit

/-- What is wrong at a place, and can be told. -/
def flaw? : Visit → Option Fault
  | .form items => Condition.formFlaw? items
  | .value _ column (.query _) =>
    if column.isWritable then some (.queryAsValue column.display) else none
  | .row operator v =>
    if v.mapping?.isSome then none else some (.rowNotMapping operator.keyword v.kind)
  | .query q => if q.joins.isEmpty then none else some (.unsupportedClause "JOIN")
  | .facet (some key, v) =>
    if v.mapping?.isSome then none else some (.facetNotMapping key v.kind)
  | _ => none

variable (c : Connection)

/-- The queries that are bound at a place: an operand, a pattern that is not escaped, an option,
and the members of a value of a column that keeps them. -/
def bound : Visit → List Query
  | .value names column v =>
    if Column.keepsQueries (Layout.columnOf (c.known names) column) then
      (v.members?.getD []).filterMap Value.query?
    else []
  | .operand v | .option v => v.query?.toList
  | .pattern escape v =>
    if (escape.getD (Like.tableValue c.settings.likeEscape)).truthy then [] else v.query?.toList
  | _ => []

end Visit

/-! ## The places in order -/

mutual

/-- The places in the value of an option. -/
def Value.optionVisits : Value → List Visit
  | .map pairs => Value.optionPairVisits pairs
  | .list items | .tuple items => Value.optionItemVisits items
  | v => [.option v]

/-- The places in a list of options. -/
def Value.optionItemVisits : List Value → List Visit
  | [] => []
  | v :: rest => Value.optionVisits v ++ Value.optionItemVisits rest

/-- The places in a mapping of options. -/
def Value.optionPairVisits : List (Value × Value) → List Visit
  | [] => []
  | (_, v) :: rest => Value.optionVisits v ++ Value.optionPairVisits rest

end

namespace Condition

/-- A value of a column that could be read. -/
def cellVisits (names : List String) (column : Value) (cell : Checked Value) : List Visit :=
  cell.toOption.toList.map (.value names column)

/-- The values of a row under several columns. -/
def rowVisits (names : List String) (columns : List Value) : Value → List Visit
  | .map row => columns.flatMap fun column => cellVisits names column (Mapping.cell column row)
  | _ => []

/-- The values that columns are compared with: one by one, or row by row. -/
def memberVisits (names : List String) (operator : Operator) (column : Value)
    (values : List Value) : List Visit :=
  match column.columns with
  | [single] => values.flatMap fun v => cellVisits names single (Value.cell single v)
  | columns => values.flatMap fun v => .row operator v :: rowVisits names columns v

/-- The bounds that a column is compared with. -/
def boundVisits (names : List String) : List Value → List Visit
  | [column, low, high] => [.value names column low, .value names column high]
  | _ => []

/-- The patterns that a column is matched with. -/
def patternVisits : List Value → List Visit
  | _ :: values :: rest =>
    (values.members?.getD [values]).map (.pattern (rest.head?.filter (!·.isNull)))
  | _ => []

/-- The value on the right of an operator without a form of its own. -/
def operandVisits : List Value → List Visit
  | [_, operand] => [.operand operand]
  | _ => []

end Condition

mutual

/-- The places in a condition, whose columns are looked for in the indexes of some names. -/
def Condition.visits (names : List String) : Value → List Visit
  | .map entries => Condition.entryVisits names entries
  | .list items => Condition.formVisits names items
  | .tuple items => Condition.formVisits names items
  | _ => []

/-- The places in a mapping of columns to values. -/
def Condition.entryVisits (names : List String) : List (Value × Value) → List Visit
  | [] => []
  | (key, v) :: rest =>
    Condition.columnVisits names (.text key.display) v ++ Condition.entryVisits names rest

/-- The places in what a column of a mapping is compared with. -/
def Condition.columnVisits (names : List String) (column : Value) : Value → List Visit
  | .null => []
  | .query q => Query.visits q
  | .list items | .tuple items | .set items => Condition.memberVisits names .among column items
  | v => [.value names column v]

/-- The places in a condition in operator form. -/
def Condition.formVisits (names : List String) : List Value → List Visit
  | [] => []
  | .text token :: operands =>
    .form (.text token :: operands) ::
      if (Condition.formFlaw? (.text token :: operands)).isSome then []
      else match Operator.ofKeyword? (Operator.normalize token) with
        | none => Condition.operandVisits operands
        | some .and | some .or | some .not => Condition.allVisits names operands
        | some .between | some .notBetween => Condition.boundVisits names operands
        | some .among => Condition.membershipVisits names .among operands
        | some .notAmong => Condition.membershipVisits names .notAmong operands
        | some .like | some .notLike | some .orLike | some .orNotLike =>
          Condition.patternVisits operands
  | token :: operands => [.form (token :: operands)]

/-- The places in several conditions. -/
def Condition.allVisits (names : List String) : List Value → List Visit
  | [] => []
  | v :: rest => Condition.visits names v ++ Condition.allVisits names rest

/-- The places in what columns are compared with. Without columns nothing is compared. -/
def Condition.membershipVisits (names : List String) (operator : Operator) :
    List Value → List Visit
  | column :: .query q :: _ => if column.isEmptyList then [] else Query.visits q
  | column :: v :: _ =>
    if column.isEmptyList then []
    else Condition.memberVisits names operator column (v.members?.getD [v])
  | _ => []

/-- The places in a source. -/
def Source.visits : Value → List Visit
  | .query q => Query.visits q
  | _ => []

/-- The places in a list of sources. -/
def Source.itemVisits : List Value → List Visit
  | [] => []
  | v :: rest => Source.visits v ++ Source.itemVisits rest

/-- The places in a mapping of sources. -/
def Source.pairVisits : List (Value × Value) → List Visit
  | [] => []
  | (_, v) :: rest => Source.visits v ++ Source.pairVisits rest

/-- The places in the sources of a query. -/
def Source.allVisits : Entries Value → List Visit
  | .positional items => Source.itemVisits items
  | .keyed pairs => Source.pairVisits pairs

/-- A query and the places in its clauses. -/
def Query.visits : Query → List Visit
  | q@{ source, joins, condition, having, options, facets, .. } =>
    let names := (source.toEntries.filterMap Entry.index?).map Prod.fst
    .query q ::
      if joins.isEmpty then
        Source.allVisits source ++ Condition.visits names condition ++
          Condition.visits names having ++ options.flatMap (fun (_, v) => v.optionVisits) ++
          facets.toEntries.map .facet
      else []

end

/-- A query is visited before its clauses, and those only if nothing is joined. -/
theorem Query.visits_eq (q : Query) : q.visits = .query q ::
    if q.joins.isEmpty then
      Source.allVisits q.source ++ Condition.visits q.indexNames q.condition ++
        Condition.visits q.indexNames q.having ++
        q.options.flatMap (fun (_, v) => v.optionVisits) ++ q.facets.toEntries.map .facet
    else [] := by
  cases q
  rw [visits]
  rfl

end SearchSql
