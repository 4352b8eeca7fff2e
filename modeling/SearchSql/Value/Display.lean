import SearchSql.Fault
import SearchSql.Number.Shortest
import SearchSql.Numeral.Basic
import SearchSql.Text.Literal
import SearchSql.Value.Basic

/-!
# The text of a value

Where a text is wanted and something else is given, the value is written out. Texts
and raw fragments stand for themselves; inside collections, and in messages, a text is
quoted. A query is written with all its clauses, whether they are given or not.

## Main definitions

* `Value.literal` — the text of a value in which texts are quoted.
* `Value.display` — the text of a value.
* `Value.isWritable` — whether a value can be written out at all.
* `Value.shown` — the text of a value that can be written out.

## Main statements

* `Value.literal_query`, `Value.display_query` — a query shows its clauses behind their
  keywords, in the order of a statement.
* `Value.hasLiteral_query` — it can be written if they can.
-/

namespace SearchSql.Value

/-- The parts of a collection, separated by commas, between brackets. -/
def bracketed (opening : String) (parts : List String) (closing : String) : String :=
  opening ++ ", ".intercalate parts ++ closing

/-- The parts of a sequence of fixed length; a comma follows a single one. -/
def parenthesized : List String → String
  | [part] => "(" ++ part ++ ",)"
  | parts => bracketed "(" parts ")"

/-- The parts of a set; braces without parts are not a set. -/
def braced : List String → String
  | [] => "set()"
  | parts => bracketed "\x7b" parts "\x7d"

/-- A raw fragment with its parameters. -/
def fragmentLiteral (sql : String) (params : List String) : String :=
  "Expression(expression=" ++ Text.literal sql ++ ", params=" ++
    bracketed "\x7b" params "\x7d" ++ ")"

/-- A clause of a query behind its keyword. -/
def clauseLiteral (keyword written : String) : String := keyword ++ "=" ++ written

/-- A truth value written out. -/
def flagLiteral (b : Bool) : String := if b then "True" else "False"

/-- A word that may be missing written out. -/
def wordLiteral : Option String → String
  | none => "None"
  | some s => Text.literal s

/-- A row count written out. -/
def countLiteral : Option Count → String
  | none => "None"
  | some (.number n) => toString n
  | some (.text s) => Text.literal s

mutual

/-- A value written out, with texts in quotes. -/
def literal : Value → String
  | .null => "None"
  | .bool b => flagLiteral b
  | .int n => toString n
  | .float x => Number.write Number.plain x
  | .text s => Text.literal s
  | .bytes octets => Text.octetLiteral octets
  | .buffer octets => Text.bufferLiteral octets
  | .list items => bracketed "[" (literals items) "]"
  | .tuple items => parenthesized (literals items)
  | .set items => braced (literals items)
  | .map entries => bracketed "\x7b" (pairLiterals entries) "\x7d"
  | .raw sql params => fragmentLiteral sql (pairLiterals params)
  | .query q => bracketed "Query(" (clauseLiterals q) ")"

/-- The values of a list written out. -/
def literals : List Value → List String
  | [] => []
  | item :: rest => literal item :: literals rest

/-- The pairs of a mapping written out. -/
def pairLiterals : List (Value × Value) → List String
  | [] => []
  | (key, value) :: rest => (literal key ++ ": " ++ literal value) :: pairLiterals rest

/-- The pairs of a mapping with texts as its keys written out. -/
def namedLiterals : List (String × Value) → List String
  | [] => []
  | (name, value) :: rest => (Text.literal name ++ ": " ++ literal value) :: namedLiterals rest

/-- A collection written out. -/
def entriesLiteral : Entries Value → String
  | .positional items => bracketed "[" (literals items) "]"
  | .keyed items => bracketed "\x7b" (pairLiterals items) "\x7d"

/-- What a query is grouped by written out. -/
def groupingLiteral : Grouping Value → String
  | .columns items => bracketed "[" (literals items) "]"
  | .text s => Text.literal s

/-- The clauses of a query written out, each behind its keyword. -/
def clauseLiterals : Clauses Value → List String
  | { select, distinct, modifier, source, joins, fulltext, condition, groupBy, within, having,
      orderBy, limit, offset, options, facets, showMeta, params } => [
    clauseLiteral "SELECT" (entriesLiteral select),
    clauseLiteral "DISTINCT" (flagLiteral distinct),
    clauseLiteral "SELECT_OPTION" (wordLiteral modifier),
    clauseLiteral "FROM" (entriesLiteral source),
    clauseLiteral "JOIN" (bracketed "[" (literals joins) "]"),
    clauseLiteral "MATCH" (literal fulltext),
    clauseLiteral "WHERE" (literal condition),
    clauseLiteral "GROUP_BY" (groupingLiteral groupBy),
    clauseLiteral "WITHIN" (bracketed "\x7b" (namedLiterals within) "\x7d"),
    clauseLiteral "HAVING" (literal having),
    clauseLiteral "ORDER_BY" (bracketed "\x7b" (namedLiterals orderBy) "\x7d"),
    clauseLiteral "LIMIT" (countLiteral limit),
    clauseLiteral "OFFSET" (countLiteral offset),
    clauseLiteral "OPTION" (bracketed "\x7b" (namedLiterals options) "\x7d"),
    clauseLiteral "FACET" (entriesLiteral facets),
    clauseLiteral "SHOW_META" (literal showMeta),
    clauseLiteral "PARAMS" (bracketed "\x7b" (namedLiterals params) "\x7d")]

end

/-- Whether the literal of a row count can be written. -/
def countHasLiteral : Option Count → Bool
  | some (.number n) => Numeral.isWritable n
  | _ => true

mutual

/-- Whether the literal of a value can be written: every integer in it has a numeral. -/
def hasLiteral : Value → Bool
  | .int n => Numeral.isWritable n
  | .list items | .tuple items | .set items => haveLiterals items
  | .map entries => pairsHaveLiterals entries
  | .raw _ params => pairsHaveLiterals params
  | .query q => clausesHaveLiterals q
  | _ => true

/-- Whether the literals of the values of a list can be written. -/
def haveLiterals : List Value → Bool
  | [] => true
  | item :: rest => hasLiteral item && haveLiterals rest

/-- Whether the literals of the pairs of a mapping can be written. -/
def pairsHaveLiterals : List (Value × Value) → Bool
  | [] => true
  | (key, value) :: rest => hasLiteral key && hasLiteral value && pairsHaveLiterals rest

/-- Whether the literals of the values under some names can be written. -/
def namedHaveLiterals : List (String × Value) → Bool
  | [] => true
  | (_, value) :: rest => hasLiteral value && namedHaveLiterals rest

/-- Whether the literal of a collection can be written. -/
def entriesHaveLiterals : Entries Value → Bool
  | .positional items => haveLiterals items
  | .keyed items => pairsHaveLiterals items

/-- Whether the literals of the columns that a query is grouped by can be written. -/
def groupingHasLiteral : Grouping Value → Bool
  | .columns items => haveLiterals items
  | .text _ => true

/-- Whether the literals of the clauses of a query can be written. -/
def clausesHaveLiterals : Clauses Value → Bool
  | { select, source, joins, fulltext, condition, groupBy, within, having, orderBy, limit, offset,
      options, facets, showMeta, params, .. } =>
    entriesHaveLiterals select && entriesHaveLiterals source && haveLiterals joins &&
      hasLiteral fulltext && hasLiteral condition && groupingHasLiteral groupBy &&
      namedHaveLiterals within && hasLiteral having && namedHaveLiterals orderBy &&
      countHasLiteral limit && countHasLiteral offset && namedHaveLiterals options &&
      entriesHaveLiterals facets && hasLiteral showMeta && namedHaveLiterals params

end

/-- Whether a value can be written out. A raw fragment stands for itself. -/
def isWritable : Value → Bool
  | .raw _ _ => true
  | v => v.hasLiteral

/-- The text of a value. A query shows its clauses without brackets around them. -/
def display : Value → String
  | .text s => s
  | .raw sql _ => sql
  | .query q => " ".intercalate (clauseLiterals q)
  | v => v.literal

/-- The text of a value, which has none if an integer in it has too many digits. -/
def shown (v : Value) : Checked String :=
  if v.isWritable then .ok v.display else .error (.misuse .meaningless)

@[simp] theorem isWritable_text (s : String) : isWritable (.text s) = true := rfl

@[simp] theorem shown_text (s : String) : shown (.text s) = .ok s := rfl

theorem shown_eq_or (v : Value) :
    shown v = .ok (display v) ∨ shown v = .error (.misuse .meaningless) := by
  rw [shown]
  split
  · exact .inl rfl
  · exact .inr rfl

@[simp] theorem display_text (s : String) : display (.text s) = s := rfl

@[simp] theorem display_raw (sql : String) (params : Mapping) :
    display (.raw sql params) = sql := rfl

/-- A fault whose message shows a value, unless the value cannot be written out. -/
def faultShowing (v : Value) (f : Fault) : Fault :=
  if v.isWritable then f else .misuse .meaningless

/-! ## Queries -/

theorem pairLiterals_ofNamed (pairs : List (String × Value)) :
    pairLiterals (ofNamed pairs) = namedLiterals pairs := by
  induction pairs with
  | nil => rfl
  | cons pair rest ih =>
    obtain ⟨name, value⟩ := pair
    rw [namedLiterals, ← ih]
    rfl

theorem pairsHaveLiterals_ofNamed (pairs : List (String × Value)) :
    pairsHaveLiterals (ofNamed pairs) = namedHaveLiterals pairs := by
  induction pairs with
  | nil => rfl
  | cons pair rest ih =>
    obtain ⟨name, value⟩ := pair
    rw [namedHaveLiterals, ← ih]
    rfl

theorem literal_ofEntries (entries : Entries Value) :
    (ofEntries entries).literal = entriesLiteral entries := by
  cases entries <;> rfl

theorem hasLiteral_ofEntries (entries : Entries Value) :
    (ofEntries entries).hasLiteral = entriesHaveLiterals entries := by
  cases entries <;> rfl

theorem literal_ofCount (count : Option Count) : (ofCount count).literal = countLiteral count := by
  obtain _ | _ | _ := count <;> rfl

theorem hasLiteral_ofCount (count : Option Count) :
    (ofCount count).hasLiteral = countHasLiteral count := by
  obtain _ | _ | _ := count <;> rfl

/-- The clauses of a query are written behind their keywords, in the order of a statement. -/
theorem clauseLiterals_eq (q : Query) :
    clauseLiterals q = q.toPairs.map fun (keyword, v) => clauseLiteral keyword v.literal := by
  obtain ⟨_, _, modifier, _, _, _, _, groupBy, _, _, _, _, _, _, _, _, _⟩ := q
  cases modifier <;> cases groupBy <;>
    simp [clauseLiterals, Clauses.toPairs, literal, literal_ofEntries, literal_ofCount,
      pairLiterals_ofNamed, wordLiteral, groupingLiteral]

theorem clausesHaveLiterals_eq (q : Query) :
    clausesHaveLiterals q = q.toPairs.all fun (_, v) => v.hasLiteral := by
  obtain ⟨_, _, modifier, _, _, _, _, groupBy, _, _, _, _, _, _, _, _, _⟩ := q
  cases modifier <;> cases groupBy <;>
    simp [clausesHaveLiterals, Clauses.toPairs, hasLiteral, hasLiteral_ofEntries,
      hasLiteral_ofCount, pairsHaveLiterals_ofNamed, groupingHasLiteral, Bool.and_assoc]

/-- Among other values a query is written with brackets around its clauses. -/
theorem literal_query (q : Query) :
    literal (.query q) = bracketed "Query("
      (q.toPairs.map fun (keyword, v) => clauseLiteral keyword v.literal) ")" := by
  rw [literal, clauseLiterals_eq]

/-- By itself a query is written as its clauses with blanks between them. -/
theorem display_query (q : Query) :
    display (.query q) =
      " ".intercalate (q.toPairs.map fun (keyword, v) => clauseLiteral keyword v.literal) := by
  rw [display, clauseLiterals_eq]

example :
    display (.query { Clauses.empty with
      source := .positional [.text "rt"], limit := some (.number 5) }) =
      "SELECT=[] DISTINCT=False SELECT_OPTION=None FROM=['rt'] JOIN=[] MATCH=None WHERE=None " ++
      "GROUP_BY=[] WITHIN=\x7b\x7d HAVING=None ORDER_BY=\x7b\x7d LIMIT=5 OFFSET=None " ++
      "OPTION=\x7b\x7d FACET=[] SHOW_META=None PARAMS=\x7b\x7d" := by decide +kernel

/-- A query can be written if the values of its clauses can. -/
theorem hasLiteral_query (q : Query) :
    hasLiteral (.query q) = q.toPairs.all fun (_, v) => v.hasLiteral := by
  rw [hasLiteral, clausesHaveLiterals_eq]

end SearchSql.Value
