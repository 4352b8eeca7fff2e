import SearchSql.Selection.Entry
import SearchSql.Value.Key

/-!
# Reading selections and conditions

A query becomes a selection clause by clause. A condition is given as a mapping of
columns to values, which all hold together, or in operator form, as a list that starts
with a keyword; anything else is a condition in the query language.

## Main definitions

* `Condition.showing` — a condition for which a value is written out first.
* `Condition.ofValue` — the condition that a value describes.
* `Selection.ofQuery` — the selection that a query describes.
-/

namespace SearchSql

/-- Whether a value is missing. -/
def Value.isNull : Value → Bool
  | .null => true
  | _ => false

/-- Whether a value is a list, a tuple or a set without members. -/
def Value.isEmptyList (v : Value) : Bool :=
  match v.members? with
  | some items => items.isEmpty
  | none => false

/-- The columns that a value names: several in a list or a tuple, else one. -/
def Value.columns : Value → List Value
  | .list items | .tuple items => items
  | v => [v]

/-- The value of a row under a column; a missing one counts as no value. -/
def Mapping.cell (column : Value) (row : Mapping) : Checked Value :=
  if column.isKey then .ok ((row.get? column).getD .null) else .error (.misuse .kind)

/-- What is compared with a single column: the value, or the value of a row under the
column. -/
def Value.cell (column : Value) : Value → Checked Value
  | .map row => Mapping.cell column row
  | v => .ok v

namespace Condition

/-- The condition that an operator with the wrong operands is. -/
def wrongOperands (keyword : String) (required : Operands) : Condition :=
  .malformed (.operands keyword required)

/-- The values of a row under several columns. -/
def rowOf (keyword : String) (columns : List Value) : Value → List (Checked Value)
  | .map row => columns.map fun column => Mapping.cell column row
  | v => [.error (.rowNotMapping keyword v.kind)]

/-- A condition for which a value is written out first. -/
def showing (v : Value) (condition : Condition) : Condition :=
  if v.isWritable then condition else .record [.malformed (.misuse .meaningless), condition]

@[simp] theorem showing_text (s : String) (condition : Condition) :
    showing (.text s) condition = condition := rfl

theorem showing_eq_or (v : Value) (condition : Condition) :
    showing v condition = condition ∨
      showing v condition = .record [.malformed (.misuse .meaningless), condition] := by
  rw [showing]
  split
  · exact .inl rfl
  · exact .inr rfl

/-- Membership of columns in a list of values. -/
def amongValues (negated : Bool) (column : Value) (values : List Value) : Condition :=
  match column.columns with
  | [single] => .among negated single (values.map (Value.cell single))
  | columns =>
    let operator := if negated then Operator.notAmong else Operator.among
    .amongRows negated columns (values.map (rowOf operator.keyword columns))

/-- Membership in nothing. -/
def amongNothing (negated : Bool) : Condition := if negated then .always else .never

/-- The fault of a membership without columns or values. -/
def wrongMembership (negated : Bool) : Condition :=
  wrongOperands (if negated then Operator.notAmong else Operator.among).keyword .two

/-- A column between bounds. -/
def ofBounds (negated : Bool) (operands : List Value) : Condition :=
  match operands with
  | [column, low, high] =>
    if column.isNull || low.isNull || high.isNull then wrong else .between negated column low high
  | _ => wrong
where
  /-- The fault of other operands. -/
  wrong : Condition :=
    wrongOperands (if negated then Operator.notBetween else Operator.between).keyword .three

/-- A column that matches patterns. -/
def ofPatterns (operator : Operator) (negated any : Bool) (operands : List Value) : Condition :=
  match operands with
  | column :: values :: rest =>
    if column.isNull || values.isNull then wrongOperands operator.keyword .two
    else
      let escape := match rest with
        | [] => none
        | .null :: _ => none
        | given :: _ => some given
      match values.members? with
      | some [] => if negated then .always else .never
      | some patterns => .like negated any column escape patterns
      | none => .like negated any column escape [values]
  | _ => wrongOperands operator.keyword .two

/-- A column that is compared with a value. -/
def ofComparison (keyword : String) (operands : List Value) : Condition :=
  match operands with
  | [column, operand] => .compared keyword column operand
  | _ => wrongOperands keyword .two

end Condition

mutual

/-- The condition that a value describes. -/
def Condition.ofValue : Value → Condition
  | .null => .omitted
  | .text s => if s.isEmpty then .omitted else .verbatim s
  | .map [] => .omitted
  | .map entries => .record (Condition.ofEntries entries)
  | .list items => Condition.ofForm items
  | .tuple items => Condition.ofForm items
  | v => Condition.showing v (.verbatim v.display)

/-- The conditions on the columns of a mapping. -/
def Condition.ofEntries : List (Value × Value) → List Condition
  | [] => []
  | (key, v) :: rest =>
    Condition.showing key (Condition.ofEntry (.text key.display) v) :: Condition.ofEntries rest

/-- The condition that a column has a value, or one of several. -/
def Condition.ofEntry (column : Value) : Value → Condition
  | .null => .isNull column
  | .query q => .amongSelected false [column] (Selection.ofQuery q)
  | .list [] | .tuple [] | .set [] => .never
  | .list items | .tuple items | .set items => Condition.amongValues false column items
  | v => .equals column v

/-- The condition in operator form that a list holds. -/
def Condition.ofForm : List Value → Condition
  | [] => .omitted
  | .text token :: operands =>
    let keyword := Operator.normalize token
    match Operator.ofKeyword? keyword with
    | none => Condition.ofComparison keyword operands
    | some .and => .connected .and (Condition.ofOperands operands)
    | some .or => .connected .or (Condition.ofOperands operands)
    | some .not => Condition.ofDenied operands
    | some .between => Condition.ofBounds false operands
    | some .notBetween => Condition.ofBounds true operands
    | some .among => Condition.ofMembership false operands
    | some .notAmong => Condition.ofMembership true operands
    | some .like => Condition.ofPatterns .like false false operands
    | some .notLike => Condition.ofPatterns .notLike true false operands
    | some .orLike => Condition.ofPatterns .orLike false true operands
    | some .orNotLike => Condition.ofPatterns .orNotLike true true operands
  | token :: _ =>
    .malformed (if token.hasLiteral then .operatorNotText token.literal else .misuse .meaningless)

/-- The conditions that the values of a list describe. -/
def Condition.ofOperands : List Value → List Condition
  | [] => []
  | v :: rest => Condition.ofValue v :: Condition.ofOperands rest

/-- The denial of a single condition. -/
def Condition.ofDenied : List Value → Condition
  | [operand] => .negation (Condition.ofValue operand)
  | _ => Condition.wrongOperands Operator.not.keyword .one

/-- Membership of columns in values or in a selection. -/
def Condition.ofMembership (negated : Bool) : List Value → Condition
  | column :: values :: _ =>
    if column.isNull then Condition.wrongMembership negated
    else Condition.ofMembers negated column values
  | _ => Condition.wrongMembership negated

/-- Membership of columns in what a value holds. -/
def Condition.ofMembers (negated : Bool) (column : Value) : Value → Condition
  | .null => Condition.wrongMembership negated
  | .query q =>
    if column.isEmptyList then Condition.amongNothing negated
    else .amongSelected negated column.columns (Selection.ofQuery q)
  | v =>
    if v.isEmptyList || column.isEmptyList then Condition.amongNothing negated
    else Condition.amongValues negated column (v.members?.getD [v])

/-- The source at a position, under a label perhaps. -/
def Source.ofEntry (position : Nat) (key : Option String) : Value → Source
  | .query q =>
    .selection (Selection.ofQuery q) ((key.bind nonempty?).getD s!"_sub{position}")
  | .raw sql params => .raw sql params (key.bind nonempty?)
  | .text s => Source.ofText key s
  | v => Source.ofDisplay key v

/-- The sources in a list, from a position on. -/
def Source.ofItems (position : Nat) : List Value → List Source
  | [] => []
  | v :: rest => Source.ofEntry position none v :: Source.ofItems (position + 1) rest

/-- The sources in a mapping, from a position on. -/
def Source.ofPairs (position : Nat) : List (Value × Value) → List Source
  | [] => []
  | (key, v) :: rest => Source.ofEntry position key.text? v :: Source.ofPairs (position + 1) rest

/-- The sources of a query. -/
def Source.listOf : Entries Value → List Source
  | .positional items => Source.ofItems 0 items
  | .keyed pairs => Source.ofPairs 0 pairs

/-- The selection that a query describes. -/
def Selection.ofQuery : Clauses Value → Selection
  | { select, distinct, modifier, source, joins, fulltext, condition, groupBy, within, having,
      orderBy, limit, offset, options, facets, params, .. } => {
    params := Value.ofNamed params
    isJoined := !joins.isEmpty
    distinct := distinct
    modifier := modifier
    fields := select.toEntries.map Field.ofEntry
    sources := Source.listOf source
    fulltext := fulltext
    condition := Condition.ofValue condition
    groupBy := match groupBy with
      | .columns [] => none
      | .columns items => some (items.map ListedColumn.ofValue)
      | .text s => if s.isEmpty then none else some (ListedColumn.ofText s)
    within := within.map fun (name, v) => OrderTerm.ofPair name v
    having := Condition.ofValue having
    order := orderBy.map fun (name, v) => OrderTerm.ofPair name v
    limit := Value.ofCount limit
    offset := Value.ofCount offset
    options := options
    facets := facets.toEntries.map Facet.ofEntry }

end

end SearchSql
