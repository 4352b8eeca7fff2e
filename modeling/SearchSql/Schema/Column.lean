import SearchSql.Fault
import SearchSql.Numeral.Basic
import SearchSql.Text.Upper
import SearchSql.Value.Display
import SearchSql.Value.Json

/-!
# Columns and coercion

A column declares a type, and a value compared with the column or stored in it is
coerced to the kind of value that the type holds. Coercion is lenient: a value that
has no counterpart is left as it is. Only numbers out of range, and integers that are too
long to be written, are a fault.

## Main definitions

* `ColumnType` — the declared types, and `ColumnType.holds` the kinds of their values.
* `ColumnType.coerce` — the value that stands for another in a column of the type.
-/

namespace SearchSql

/-- The declared type of a column. -/
inductive ColumnType where
  /-- Full-text content. -/
  | field
  /-- A text attribute. -/
  | string
  /-- A document attribute. -/
  | json
  /-- An integer attribute. -/
  | integer
  /-- An unsigned integer attribute. -/
  | uint
  /-- A wide integer attribute. -/
  | bigint
  /-- A point in time. -/
  | timestamp
  /-- A truth value. -/
  | bool
  /-- A floating-point attribute. -/
  | float
  /-- A set of integers. -/
  | mva
  /-- A set of wide integers. -/
  | mva64
  /-- A set of unsigned integers. -/
  | uintSet
  /-- A set of wide integers, by its other name. -/
  | bigintSet
  deriving DecidableEq, Repr

/-- The kinds of values that columns hold. -/
inductive Held where
  /-- Integers. -/
  | integer
  /-- Floating-point numbers. -/
  | number
  /-- Truth values. -/
  | flag
  /-- Texts. -/
  | text
  deriving DecidableEq, Repr

namespace ColumnType

/-- All types, in the order of their declaration. -/
def all : List ColumnType :=
  [.field, .string, .json, .integer, .uint, .bigint, .timestamp, .bool, .float, .mva, .mva64,
    .uintSet, .bigintSet]

/-- The word for a type. -/
def word : ColumnType → String
  | .field => "field"
  | .string => "string"
  | .json => "json"
  | .integer => "integer"
  | .uint => "uint"
  | .bigint => "bigint"
  | .timestamp => "timestamp"
  | .bool => "bool"
  | .float => "float"
  | .mva => "mva"
  | .mva64 => "mva64"
  | .uintSet => "uint_set"
  | .bigintSet => "bigint_set"

/-- The type that a word stands for. -/
def ofWord? (s : String) : Option ColumnType := all.find? (·.word == s)

/-- The kind of values that a column of the type holds. -/
def holds : ColumnType → Held
  | .field | .string | .json => .text
  | .bool => .flag
  | .float => .number
  | _ => .integer

/-- Whether a column of the type holds any number of values at once. -/
def isMultiValued : ColumnType → Bool
  | .mva | .mva64 | .uintSet | .bigintSet => true
  | _ => false

/-- Every type is found by its word. -/
@[simp] theorem ofWord?_word (t : ColumnType) : ofWord? t.word = some t := by
  cases t <;> decide

theorem word_eq_of_ofWord? {s : String} {t : ColumnType} (h : ofWord? s = some t) :
    t.word = s := by
  simpa using List.find?_some h

end ColumnType

namespace Held

/-- Whether a value is of a kind already. -/
def isMet : Held → Value → Bool
  | .integer, .int _ => true
  | .number, .float _ => true
  | .flag, .bool _ => true
  | .text, .text _ => true
  | _, _ => false

/-- The ASCII text that a string of octets is. -/
def ascii? (octets : List UInt8) : Option String :=
  if octets.all (· < 0x80) then some (String.ofList (octets.map fun b => Char.ofNat b.toNat))
  else none

/-- The truth value that stands for a value. Texts are false when they say so. -/
def toFlag : Value → Bool
  | .text s => Text.lowerAscii (Text.trim s) ∉ ["", "0", "false"]
  | v => v.truthy

/-- The text that stands for a value. Octets are not turned into text. There is none for a value
that cannot be written out. -/
def toText : Value → Checked Value
  | .bytes octets => .ok (.bytes octets)
  | .buffer octets => .ok (.buffer octets)
  | v => if v.isWritable then .ok (.text v.display) else .error (.misuse .meaningless)

/-- The integer that stands for a value: a number without its fraction, or what a numeral
denotes. There is none for infinity. -/
def toInteger : Value → Checked Value
  | .bool b => .ok (.int (if b then 1 else 0))
  | .float x =>
    match Number.truncate x with
    | some n => .ok (.int n)
    | none => if x.isNaN then .ok (.float x) else .error (.misuse .overflow)
  | .text s => .ok ((Numeral.integer? s).elim (.text s) .int)
  | .bytes octets => .ok (((ascii? octets).bind Numeral.integer?).elim (.bytes octets) .int)
  | .buffer octets => .ok (((ascii? octets).bind Numeral.integer?).elim (.buffer octets) .int)
  | v => .ok v

/-- The floating-point number that stands for a value: the nearest one to an integer, or
to what a numeral denotes. There is none for an integer beyond the largest. -/
def toNumber : Value → Checked Value
  | .bool b => .ok (.float (if b then 1 else 0))
  | .int n =>
    match Number.ofInt? n with
    | some x => .ok (.float x)
    | none => .error (.misuse .overflow)
  | .text s => .ok ((Numeral.decimal? s).elim (.text s) .float)
  | .bytes octets => .ok (((ascii? octets).bind Numeral.decimal?).elim (.bytes octets) .float)
  | .buffer octets => .ok (((ascii? octets).bind Numeral.decimal?).elim (.buffer octets) .float)
  | v => .ok v

/-- The value of a kind that stands for a value. -/
def convert : Held → Value → Checked Value
  | .integer, v => toInteger v
  | .number, v => toNumber v
  | .flag, v => .ok (.bool (toFlag v))
  | .text, v => toText v

end Held

/-- Whether a value is a string of octets. -/
def Value.isOctets : Value → Bool
  | .bytes _ | .buffer _ => true
  | _ => false

/-- Whether a value is the empty text. -/
def Value.isEmptyText : Value → Bool
  | .text s => s.isEmpty
  | _ => false

/-- The value that stands for a value in a column of a type. The empty text stands for no
value where texts are not held, and a JSON column takes the serialized value. -/
def ColumnType.coerce (type : ColumnType) (v : Value) : Checked Value :=
  if v.isEmptyText ∧ type.holds ≠ .text then .ok .null
  else match v with
    | .null => .ok .null
    | v =>
      if type.holds.isMet v then .ok v
      else if type = .json ∧ ¬ v.isOctets then .ok (v.json?.elim v .text)
      else type.holds.convert v

@[simp] theorem ColumnType.coerce_null (t : ColumnType) : t.coerce .null = .ok .null := by
  simp [coerce, Value.isEmptyText]

/-- A column of an index. -/
structure Column where
  /-- The name of the column. -/
  name : String
  /-- The declared type. -/
  type : ColumnType
  deriving DecidableEq, Repr

/-- The value that stands for a value where a column may be known. -/
def Column.coerce (column : Option Column) (v : Value) : Checked Value :=
  match column with
  | some column => column.type.coerce v
  | none => .ok v

end SearchSql
