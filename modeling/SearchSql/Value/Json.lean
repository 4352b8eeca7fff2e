import SearchSql.Number.Shortest
import SearchSql.Numeral.Basic
import SearchSql.Text.Literal
import SearchSql.Value.Basic

/-!
# Values as JSON

A value stored in a JSON column is serialized whole: blanks after commas and colons,
all characters outside ASCII escaped, and the three names `NaN`, `Infinity` and
`-Infinity` for the values that are no numbers. Keys that are scalars are turned into
texts.

## Main definitions

* `Value.json?` — the JSON text of a value, if it has one.
-/

namespace SearchSql.Value

/-- A UTF-16 unit as an escape. -/
def jsonUnit (n : Nat) : List Char := '\\' :: 'u' :: Text.hex 4 n

/-- One character of a JSON string. -/
def jsonChar (c : Char) : List Char :=
  if c = '"' ∨ c = '\\' then ['\\', c]
  else if c = '\n' then ['\\', 'n']
  else if c = '\r' then ['\\', 'r']
  else if c = '\t' then ['\\', 't']
  else if c.toNat = 8 then ['\\', 'b']
  else if c.toNat = 12 then ['\\', 'f']
  else if 0x20 ≤ c.toNat ∧ c.toNat < 0x7F then [c]
  else if c.toNat < 0x10000 then jsonUnit c.toNat
  else
    let above := c.toNat - 0x10000
    jsonUnit (0xD800 + above / 0x400) ++ jsonUnit (0xDC00 + above % 0x400)

/-- A text as a JSON string. -/
def jsonString (s : String) : String :=
  "\"" ++ String.ofList (s.toList.flatMap jsonChar) ++ "\""

/-- Numbers in JSON, with the names of the values that are none. -/
def jsonStyle : Number.Style := ⟨-3, 16, 2, "NaN", "Infinity"⟩

/-- An integer in JSON, if it has a numeral. -/
def jsonInteger? (n : Int) : Option String :=
  if Numeral.isWritable n then some (toString n) else none

/-- The text of a scalar key. -/
def jsonKey? : Value → Option String
  | .null => some "null"
  | .bool b => some (if b then "true" else "false")
  | .int n => jsonInteger? n
  | .float x => some (Number.write jsonStyle x)
  | .text s => some s
  | _ => none

mutual

/-- The JSON text of a value, unless it holds something that JSON cannot express. -/
def json? : Value → Option String
  | .null => some "null"
  | .bool b => some (if b then "true" else "false")
  | .int n => jsonInteger? n
  | .float x => some (Number.write jsonStyle x)
  | .text s => some (jsonString s)
  | .list items | .tuple items =>
    (jsonItems? items).map fun parts => "[" ++ ", ".intercalate parts ++ "]"
  | .map entries =>
    (jsonPairs? entries).map fun parts => "\x7b" ++ ", ".intercalate parts ++ "\x7d"
  | _ => none

/-- The JSON texts of the values of a list. -/
def jsonItems? : List Value → Option (List String)
  | [] => some []
  | item :: rest => do
    let first ← json? item
    let others ← jsonItems? rest
    return first :: others

/-- The JSON texts of the pairs of a mapping. -/
def jsonPairs? : List (Value × Value) → Option (List String)
  | [] => some []
  | (key, value) :: rest => do
    let name ← jsonKey? key
    let first ← json? value
    let others ← jsonPairs? rest
    return (jsonString name ++ ": " ++ first) :: others

end

end SearchSql.Value
