import SearchSql.Proofs.Formula.Predicate
import SearchSql.Proofs.Grammar.Rules
import SearchSql.Selection.OfQuery

/-!
# What a condition says

A condition of a request says something about rows: the entries of a mapping all hold, AND, OR
and NOT combine conditions, several patterns all match or one of them does, and nothing is one
of no values. Everything else is a predicate, of which only the text is known: the name of its
column, the operator and the operands in their order. A condition that says nothing takes no part
in what it is combined to.

## Main definitions

* `Formula`, `Formula.ofValue` — what the condition that a value describes says.
* `Formula.valueAt` — whether it holds when the predicates are assumed to hold or not.
* `Value.isPlainCondition` — conditions whose names, operators and raw texts are plain.
-/
namespace SearchSql

/-- What a condition says. -/
inductive Formula where
  /-- Nothing. -/
  | absent
  /-- Something that does not hold. -/
  | never
  /-- A predicate. -/
  | atom (predicate : Predicate)
  /-- What a connective combines. -/
  | connected (connective : Connective) (operands : List Formula)
  /-- The contrary of something. -/
  | negation (operand : Formula)

namespace Formula

/-! ## Whether a formula holds -/

section

variable (assumed : List Char → Bool) (stem : String)

mutual

/-- Whether a formula holds, unless it says nothing, and the parameters after it. A predicate is
known by its text, in which the parameters are numbered. -/
def valueAt : Formula → Params → Option Bool × Params
  | .absent, p => (none, p)
  | .never, p => (some false, p)
  | .atom predicate, p =>
    let (text, q) := predicate.write stem p
    (some (Grammar.holds assumed (Text.trimChars Text.isBlank text.toList)), q)
  | .connected connective operands, p =>
    let (values, q) := valuesAt operands p
    (if values.isEmpty then none else some (connective.value values), q)
  | .negation operand, p =>
    let (value, q) := valueAt operand p
    (value.map (!·), q)

/-- Whether the formulas of a list hold, those that say nothing left out, and the parameters
after them. -/
def valuesAt : List Formula → Params → List Bool × Params
  | [], p => ([], p)
  | f :: rest, p =>
    let (value, q) := valueAt f p
    let (values, last) := valuesAt rest q
    (value.toList ++ values, last)

end

end

/-! ## What a value says -/

/-- A raw text. -/
def ofText (s : String) : Formula := if s.isEmpty then .absent else .atom (.verbatim s)

/-- What is said of no values. -/
def ofNothing (negated : Bool) : Formula := if negated then .absent else .never

variable (c : Connection) (indexes : List Index)

/-- A column is one of some values, or none of them. -/
def ofMembers (negated : Bool) (column : Value) (values : List Value) : Formula :=
  .atom <| .ofMembers negated (c.quoteValue column) (values.map (Comparand.ofValue indexes column))

/-- What an entry of a mapping says: the column has the value, or one of several. -/
def ofEntry (column v : Value) : Formula :=
  if v.isEmptyList then .never
  else match v with
    | .null => .atom (.isNull (c.quoteValue column))
    | v => ofMembers c indexes false column (v.members?.getD [v])

/-- Membership in some values. Rows, with which several columns are compared, are no values. -/
def ofMembership (negated : Bool) : List Value → Formula
  | column :: values :: _ =>
    if values.isEmptyList || column.isEmptyList then ofNothing negated
    else match column.columns with
      | [single] => ofMembers c indexes negated single (values.members?.getD [values])
      | _ => .absent
  | _ => .absent

/-- A column between two bounds, or outside of them. -/
def ofBounds (negated : Bool) : List Value → Formula
  | [column, low, high] =>
    let name := c.quoteValue column
    let lowest := Comparand.ofValue indexes column low
    let highest := Comparand.ofValue indexes column high
    .atom (if negated then .notBetween name lowest highest else .between name lowest highest)
  | _ => .absent

/-- Patterns, each of which is a predicate of its own. The table that is given behind them says
what is escaped. -/
def ofPatterns (negated any : Bool) : List Value → Formula
  | column :: values :: rest =>
    let given := rest.head?.filter fun table => !table.isNull
    let table := given.getD (Like.tableValue c.settings.likeEscape)
    match values.members?.getD [values] with
    | [] => ofNothing negated
    | patterns =>
      .connected (if any then .or else .and) <| patterns.map fun v =>
        let pattern := Mark.ofPattern table v
        .atom (if negated then .notLike (c.quoteValue column) pattern
          else .like (c.quoteValue column) pattern)
  | _ => .absent

/-- A column that is compared with one value. -/
def ofComparison (operator : String) : List Value → Formula
  | [column, operand] => .atom (.compared (c.quoteValue column) operator (.ofCompared operand))
  | _ => .absent

mutual

/-- What the condition that a value describes says. -/
def ofValue : Value → Formula
  | .null => .absent
  | .map entries => .connected .and (ofEntries entries)
  | .list items => ofForm items
  | .tuple items => ofForm items
  | v => ofText v.display

/-- What the entries of a mapping say. -/
def ofEntries : List (Value × Value) → List Formula
  | [] => []
  | (key, v) :: rest => ofEntry c indexes (.text key.display) v :: ofEntries rest

/-- What a condition in operator form says. -/
def ofForm : List Value → Formula
  | .text token :: operands =>
    match Operator.ofKeyword? (Operator.normalize token) with
    | some .and => .connected .and (ofOperands operands)
    | some .or => .connected .or (ofOperands operands)
    | some .not => ofDenied operands
    | some .among => ofMembership c indexes false operands
    | some .notAmong => ofMembership c indexes true operands
    | some .like => ofPatterns c false false operands
    | some .notLike => ofPatterns c true false operands
    | some .orLike => ofPatterns c false true operands
    | some .orNotLike => ofPatterns c true true operands
    | some .between => ofBounds c indexes false operands
    | some .notBetween => ofBounds c indexes true operands
    | none => ofComparison c (Operator.normalize token) operands
  | _ => .absent

/-- What the conditions of a list say. -/
def ofOperands : List Value → List Formula
  | [] => []
  | v :: rest => ofValue v :: ofOperands rest

/-- What the denial of a single condition says. -/
def ofDenied : List Value → Formula
  | [operand] => .negation (ofValue operand)
  | _ => .absent

end

end Formula

/-! ## Plain conditions -/

namespace Value

mutual

/-- Whether a value is a scalar, no value, or a list of such values. -/
def isData : Value → Bool
  | .null | .bool _ | .int _ | .float _ | .text _ | .bytes _ | .buffer _ => true
  | .list items => areData items
  | .tuple items => areData items
  | .set items => areData items
  | _ => false

/-- Whether all values of a list are scalars, no values, or lists of such values. -/
def areData : List Value → Bool
  | [] => true
  | v :: rest => isData v && areData rest

end

/-- Whether the text of a value is plain. -/
def isPlainName (v : Value) : Bool := Grammar.isPlain v.display.toList

/-- Whether the entries of a mapping compare columns with plain names to data. -/
def arePlainEntries (entries : List (Value × Value)) : Bool :=
  entries.all fun (key, v) => key.isPlainName && v.isData

/-- Whether columns with plain names are compared to data. -/
def arePlainOperands (operator : Option Operator) : List Value → Bool
  | column :: values :: rest =>
    match operator with
    | some .among | some .notAmong => column.columns.all isPlainName && values.isData
    | some .like | some .notLike | some .orLike | some .orNotLike =>
      column.isPlainName && values.isData
    | _ => column.isPlainName && areData (values :: rest)
  | _ => true

mutual

/-- Whether the names, the operators and the raw texts of a condition are plain. A raw text may
also be empty. -/
def isPlainCondition : Value → Bool
  | .null => true
  | .map entries => arePlainEntries entries
  | .list items => isPlainForm items
  | .tuple items => isPlainForm items
  | v => v.display.isEmpty || v.isPlainName

/-- Whether the names, the operators and the raw texts of a condition in operator form are plain. -/
def isPlainForm : List Value → Bool
  | .text token :: operands =>
    match Operator.ofKeyword? (Operator.normalize token) with
    | some .and => arePlainConditions operands
    | some .or => arePlainConditions operands
    | some .not => arePlainConditions operands
    | some operator => arePlainOperands (some operator) operands
    | none => Grammar.isInert token.toList && arePlainOperands none operands
  | _ => true

/-- Whether the names, the operators and the raw texts of some conditions are plain. -/
def arePlainConditions : List Value → Bool
  | [] => true
  | v :: rest => isPlainCondition v && arePlainConditions rest

end

end Value

end SearchSql
