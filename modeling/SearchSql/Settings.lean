import SearchSql.Escape.Like
import SearchSql.Reading

/-!
# Settings

What callers may change about the writing of statements.

## Main definitions

* `Settings` — the settings, with their defaults.
* `Settings.ofValue` — the settings that a value describes.
-/

namespace SearchSql

/-- How statements are written. -/
structure Settings where
  /-- What stands between the clauses of a statement. -/
  separator : String := " "
  /-- What stands between a statement and the statement that shows its statistics. -/
  querySeparator : String := "; "
  /-- How the names of generated parameters begin. -/
  paramStem : String := ":qp"
  /-- How many rows are returned when only an offset is given. -/
  defaultLimit : Nat := 1000
  /-- The characters that are escaped in patterns. -/
  likeEscape : List (String × String) := Like.escapes
  deriving DecidableEq, Repr

namespace Settings

open Reading

/-- A number of rows. -/
def rows (v : Value) : Reading Nat :=
  ofOption ((integerOf? v).bind fun n => if 0 ≤ n then some n.toNat else none)

/-- The settings that a value describes. -/
def read : Value → Reading Settings
  | .map data =>
    let defaults : Settings := {}
    let settings := Settings.mk
      <$> defaulting "separator" text defaults.separator data
      <*> defaulting "query_separator" text defaults.querySeparator data
      <*> defaulting "param_prefix" text defaults.paramStem data
      <*> defaulting "default_limit" rows defaults.defaultLimit data
      <*> defaulting "like_escape" (named text) defaults.likeEscape data
    (fun settings _ => settings) <$> settings
      <*> noOthers ["separator", "query_separator", "param_prefix", "default_limit", "like_escape"]
        data
  | _ => failure

/-- The settings that a value describes, or the places that do not fit. -/
def ofValue (v : Value) : Checked Settings := (read v).toChecked

/-- The settings under their names. -/
def toPairs (settings : Settings) : List (String × Value) := [
  ("separator", .text settings.separator),
  ("query_separator", .text settings.querySeparator),
  ("param_prefix", .text settings.paramStem),
  ("default_limit", .int settings.defaultLimit),
  ("like_escape", Like.tableValue settings.likeEscape)]

end Settings

end SearchSql
