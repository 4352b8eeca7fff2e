import SearchSql.Text.Blank
import SearchSql.Text.Word

/-!
# Names with labels

In a list of fields or indexes a name may be followed by a label under which it is
referred to, after blanks or after the word AS in any letter case. The name is as short
as it can be; it does not run past the end of a line.

## Main definitions

* `Label.ofSource?` — name and label of an index.
* `Label.ofField?` — name and label of a field.
-/

namespace SearchSql.Label

open Text

/-- Pass over blanks, at least one and as many as the rest allows. -/
def afterBlanks {α : Type} (next : List Char → Option α) : List Char → Option α
  | [] => none
  | c :: rest => if isBlank c then (afterBlanks next rest).or (next rest) else none

/-- Pass over the word AS and the blanks after it. -/
def afterAs {α : Type} (next : List Char → Option α) : List Char → Option α
  | a :: s :: rest =>
    if (a = 'a' ∨ a = 'A') ∧ (s = 's' ∨ s = 'S') then afterBlanks next rest else none
  | _ => none

/-- Blanks, the word AS perhaps, and a label. -/
def tail? (label? : List Char → Option (List Char)) (cs : List Char) : Option (List Char) :=
  (afterBlanks (afterAs label?) cs).or (afterBlanks label? cs)

/-- Split off the shortest name on the first line that a tail follows. -/
def split? (tail : List Char → Option (List Char)) : List Char → Option (List Char × List Char)
  | [] => (tail []).map ([], ·)
  | c :: rest =>
    match tail (c :: rest) with
    | some found => some ([], found)
    | none =>
      if c = '\n' then none else (split? tail rest).map fun (name, found) => (c :: name, found)

/-- The label of an index: anything without a space. -/
def sourceLabel? (cs : List Char) : Option (List Char) :=
  if cs.isEmpty || cs.contains ' ' then none else some cs

/-- Whether a character may stand in the label of a field. -/
def isLabelChar (c : Char) : Bool := isWord c || c == '-' || c == '.'

/-- The label of a field: a word, which a line end may follow. -/
def fieldLabel? (cs : List Char) : Option (List Char) :=
  let (word, rest) := cs.span isLabelChar
  if !word.isEmpty && (rest.isEmpty || rest == ['\n']) then some word else none

/-- Name and label as texts. -/
def toTexts : List Char × List Char → String × String
  | (name, found) => (String.ofList name, String.ofList found)

/-- Name and label of an index, if there is a label. -/
def ofSource? (s : String) : Option (String × String) :=
  (split? (tail? sourceLabel?) s.toList).map toTexts

/-- Name and label of a field, if there is a label. -/
def ofField? (s : String) : Option (String × String) :=
  (split? (tail? fieldLabel?) s.toList).map toTexts

end SearchSql.Label
