import SearchSql.Fault
import SearchSql.Numeral.Lenient
import SearchSql.Value.Display
import SearchSql.Value.Key

/-!
# Reading values as fields of a model

Queries, schemas and settings are given as mappings and read field by field. A
reading gathers the places of all values that do not fit, so that they are reported
together. Scalars are read leniently: a text may be given as octets in UTF-8, a truth
value as a word or as 0 or 1, an integer as a numeral or as a whole number of another
kind.

## Main definitions

* `Reading` — a value, or the places at which there is none.
* `Reading.text`, `Reading.flag`, `Reading.integer` — scalars.
* `Reading.items`, `Reading.named` — lists and mappings under texts.
* `Reading.required`, `Reading.defaulting`, `Reading.noOthers` — fields of a mapping.
-/

namespace SearchSql

/-- The steps from a model to a value in it. -/
abbrev Place := List String

/-- The outcome of reading: a value, or the places of those that do not fit. -/
inductive Reading (α : Type) where
  /-- Everything fits. -/
  | fits (value : α)
  /-- Some values do not fit. -/
  | fails (places : List Place)

namespace Reading

variable {α β : Type}

/-- Change what has been read. -/
def map (f : α → β) : Reading α → Reading β
  | .fits a => .fits (f a)
  | .fails places => .fails places

/-- Combine two readings; the places of both are kept. -/
def ap : Reading (α → β) → Reading α → Reading β
  | .fits f, .fits a => .fits (f a)
  | .fits _, .fails places => .fails places
  | .fails places, .fits _ => .fails places
  | .fails places, .fails others => .fails (places ++ others)

instance : Functor Reading := ⟨map, fun a r => map (fun _ => a) r⟩
instance : Seq Reading := ⟨fun f a => ap f (a ())⟩

@[simp] theorem map_fits (f : α → β) (a : α) : f <$> fits a = fits (f a) := rfl

/-- A combination fits just when both of its parts do. -/
theorem seq_eq_fits_iff {f : Reading (α → β)} {r : Reading α} {b : β} :
    f <*> r = fits b ↔ ∃ g a, f = fits g ∧ r = fits a ∧ g a = b := by
  cases f <;> cases r <;> simp [Seq.seq, ap]

/-- A value that does not fit. -/
def failure : Reading α := .fails [[]]

/-- A value that may not fit. -/
def ofOption : Option α → Reading α
  | some a => .fits a
  | none => failure

/-- Report places from one step further out. -/
def within (step : String) : Reading α → Reading α
  | .fits a => .fits a
  | .fails places => .fails (places.map (step :: ·))

/-- The places as dotted paths, each once and in order. -/
def toChecked : Reading α → Checked α
  | .fits a => .ok a
  | .fails places =>
    let paths := (places.map (".".intercalate ·)).mergeSort (fun s t => decide (s ≤ t))
    .error (.invalid paths.eraseDups)

/-! ## Scalars -/

/-- The text that a string of octets encodes. -/
def utf8? (octets : List UInt8) : Option String :=
  String.fromUTF8? (ByteArray.mk octets.toArray)

/-- The text that a text or a string of octets is. -/
def textOf? : Value → Option String
  | .text s => some s
  | .bytes octets | .buffer octets => utf8? octets
  | _ => none

/-- The text in which a number or a truth value may be written: a text, or a string of
octets that does not change. -/
def wordOf? : Value → Option String
  | .text s => some s
  | .bytes octets => utf8? octets
  | _ => none

/-- A text. -/
def text (v : Value) : Reading String := ofOption (textOf? v)

/-- The words for truth values, in any letter case. -/
def flagWord? (s : String) : Option Bool :=
  let word := String.ofList (s.toList.map Char.toLower)
  if word ∈ ["1", "on", "t", "true", "y", "yes"] then some true
  else if word ∈ ["0", "off", "f", "false", "n", "no"] then some false
  else none

/-- The truth value that an integer is. -/
def flagInt? (n : Int) : Option Bool :=
  if n = 0 then some false else if n = 1 then some true else none

/-- A truth value. -/
def flag : Value → Reading Bool
  | .bool b => .fits b
  | .int n => ofOption (flagInt? n)
  | .float x => ofOption ((Number.exactInt? x).bind flagInt?)
  | v => ofOption ((wordOf? v).bind flagWord?)

/-- The integer that a floating-point number is, within the range of 64 bits. -/
def integerFloat? (x : Float) : Option Int :=
  (Number.exactInt? x).filter fun n => n.natAbs < Nat.pow 2 63

/-- The integer that a value is or denotes. -/
def integerOf? : Value → Option Int
  | .bool b => some (if b then 1 else 0)
  | .int n => some n
  | .float x => integerFloat? x
  | v => (wordOf? v).bind Numeral.lenient?

/-- An integer. -/
def integer (v : Value) : Reading Int := ofOption (integerOf? v)

/-- A value taken as it is. -/
def anything (v : Value) : Reading Value := .fits v

/-- A value that may be missing. -/
def optional (read : Value → Reading α) : Value → Reading (Option α)
  | .null => .fits none
  | v => (read v).map some

/-! ## Collections -/

/-- The items of a list from a position on. -/
def itemsFrom (read : Value → Reading α) (position : Nat) : List Value → Reading (List α)
  | [] => .fits []
  | v :: rest =>
    List.cons <$> (read v).within (toString position) <*> itemsFrom read (position + 1) rest

/-- A list, a tuple or a set, read item by item. A query counts as the list of its
clauses. -/
def items (read : Value → Reading α) : Value → Reading (List α)
  | .list vs | .tuple vs | .set vs => itemsFrom read 0 vs
  | .query q => itemsFrom read 0 q.toTuples
  | _ => failure

/-- A step to a key: numbers and texts as they are, other keys written out. -/
def keyStep : Value → String
  | .text s => s
  | .bool b => if b then "1" else "0"
  | key => key.literal

/-- Put a value under a name: in the place of the name if it is there. -/
def putNamed (name : String) (value : α) : List (String × α) → List (String × α)
  | [] => [(name, value)]
  | (n, v) :: rest => if n = name then (n, value) :: rest else (n, v) :: putNamed name value rest

/-- The pairs of a mapping whose keys are texts. -/
def pairs (read : Value → Reading α) : Mapping → Reading (List (String × α))
  | [] => .fits []
  | (key, v) :: rest =>
    let name := ((text key).within "[key]").within (keyStep key)
    let value := (read v).within (keyStep key)
    (fun name value others => (name, value) :: others) <$> name <*> value <*> pairs read rest

/-- A mapping whose keys are texts. -/
def named (read : Value → Reading α) : Value → Reading (List (String × α))
  | .map entries =>
    (pairs read entries).map fun found => found.foldl (fun m (n, v) => putNamed n v m) []
  | _ => failure

/-- A list, or a mapping under any keys. -/
def entries : Value → Reading (Entries Value)
  | .map pairs => .fits (.keyed pairs)
  | v => (items anything v).map .positional

/-! ## Fields -/

/-- A field that must be given. -/
def required (name : String) (read : Value → Reading α) (data : Mapping) : Reading α :=
  match data.named? name with
  | some v => (read v).within name
  | none => .fails [[name]]

/-- A field that has a value when it is not given. -/
def defaulting (name : String) (read : Value → Reading α) (value : α) (data : Mapping) :
    Reading α :=
  match data.named? name with
  | some v => (read v).within name
  | none => .fits value

/-- The keys of a mapping that are no fields. -/
def noOthers (names : List String) (data : Mapping) : Reading Unit :=
  let others := data.filter fun (key, _) => match key with
    | .text s => !names.contains s
    | _ => true
  if others.isEmpty then .fits () else .fails (others.map fun (key, _) => [keyStep key])

end Reading

end SearchSql
