import SearchSql.Fault
import SearchSql.Value.Display
import SearchSql.Value.Key

/-!
# Simultaneous replacement

A table of texts and their replacements is applied to a text in one pass from the
left: at each position the keys are tried, longer ones first, the first one that starts
there is replaced, and what has been replaced is not looked at again. An empty key stands
between characters that no other key covers, and at the end.

## Main definitions

* `Replacement.tried` — the keys in the order in which they are tried.
* `Replacement.stretches` — a text cut into keys and characters that are left alone.
* `Replacement.apply` — the text after replacement.
* `Replacement.ofValue` — the table that a value describes.

## Main statements

* `Replacement.flatMap_text_stretches` — cutting a text into stretches loses nothing.
-/

namespace SearchSql

/-- A stretch of a text. -/
inductive Stretch where
  /-- An occurrence of a key. -/
  | hit (key : List Char)
  /-- A character at which no key starts. -/
  | kept (c : Char)
  deriving DecidableEq, Repr

/-- The text of a stretch. -/
def Stretch.text : Stretch → List Char
  | .hit key => key
  | .kept c => [c]

/-- Keys and what replaces them. Using a replacement may be a fault. -/
structure Replacement where
  /-- The keys with their replacements. -/
  pairs : List (List Char × Checked (List Char))

namespace Replacement

/-- Put a key in front of the keys that are not longer. -/
def insertKey (key : List Char) : List (List Char) → List (List Char)
  | [] => [key]
  | other :: rest =>
    if other.length ≤ key.length then key :: other :: rest else other :: insertKey key rest

/-- The keys in the order in which they are tried: longer ones before shorter ones, and those of
one length in the order of the table. -/
def tried (keys : List (List Char)) : List (List Char) := keys.foldr insertKey []

/-- A text cut into keys and characters, after the first `covered` characters, which a
key covers. Of the keys that start at a position the first one counts. -/
def stretches (keys : List (List Char)) : (covered : Nat) → List Char → List Stretch
  | _, [] => if [] ∈ keys then [.hit []] else []
  | covered + 1, _ :: cs => stretches keys covered cs
  | 0, c :: cs =>
    match keys.find? (·.isPrefixOf (c :: cs)) with
    | some [] => .hit [] :: .kept c :: stretches keys 0 cs
    | some (d :: key) => .hit (d :: key) :: stretches keys key.length cs
    | none => .kept c :: stretches keys 0 cs

theorem isPrefix_of_find? {cs key : List Char} {keys : List (List Char)}
    (h : keys.find? (·.isPrefixOf cs) = some key) : key <+: cs := by
  simpa using List.find?_some h

/-- Cutting a text loses nothing of it. -/
theorem flatMap_text_stretches (keys : List (List Char)) (covered : Nat) (cs : List Char) :
    (stretches keys covered cs).flatMap Stretch.text = cs.drop covered := by
  fun_induction stretches keys covered cs with
  | case1 covered h => simp [Stretch.text]
  | case2 covered h => simp
  | case3 covered c cs ih => simpa using ih
  | case4 c cs h ih => simpa [Stretch.text] using ih
  | case5 c cs d key h ih =>
    obtain ⟨back, hback⟩ := isPrefix_of_find? h
    simp only [List.cons_append, List.cons.injEq] at hback
    obtain ⟨rfl, rfl⟩ := hback
    simpa [Stretch.text] using ih
  | case6 c cs h ih => simpa [Stretch.text] using ih

/-- What replaces a key. -/
def find (table : Replacement) (key : List Char) : Checked (List Char) :=
  (table.pairs.lookup key).getD (.error (.misuse .missingKey))

/-- What a stretch becomes. -/
def replace (table : Replacement) : Stretch → Checked (List Char)
  | .hit key => table.find key
  | .kept c => .ok [c]

/-- A text after replacement. -/
def apply (table : Replacement) (s : String) : Checked String := do
  let parts ← (stretches (tried (table.pairs.map Prod.fst)) 0 s.toList).mapM table.replace
  return String.ofList parts.flatten

/-- The table with texts for all replacements. -/
def ofNamed (pairs : List (String × String)) : Replacement :=
  ⟨pairs.map fun (key, value) => (key.toList, .ok value.toList)⟩

/-- What a value puts in the place of a key: a text, or nothing. -/
def content : Value → Checked (List Char)
  | .text s => .ok s.toList
  | .null => .ok []
  | _ => .error (.misuse .kind)

/-- The texts among which keys are looked for. -/
def keysOf? (elements : List Value) : Option (List (List Char)) :=
  elements.mapM fun key => key.text?.map String.toList

/-- The table that a value describes; there is none for a value that counts as not given.
Keys without replacements are a fault only where they occur. -/
def ofValue (v : Value) : Checked (Option Replacement) :=
  if !v.truthy then .ok none
  else match v.elements?.bind keysOf? with
    | none => .error (.misuse .kind)
    | some keys =>
      let contents := match v with
        | .map entries => entries.map fun (_, value) => content value
        | _ => keys.map fun _ => .error (.misuse .kind)
      .ok (some ⟨keys.zip contents⟩)

/-- A value after the replacements that another value describes. -/
def translate (v table : Value) : Checked Value := do
  match ← ofValue table with
  | none => return v
  | some table =>
    match v with
    | .text s => return .text (← table.apply s)
    | _ => throw (.misuse .kind)

end Replacement

end SearchSql
