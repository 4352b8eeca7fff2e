import SearchSql.Value.Display
import SearchSql.Value.Key

/-!
# Layouts

A statement is first laid out as a list of pieces and then written. The pieces say
what the text holds and what happens to the parameters on the way; no piece depends on
the parameters bound before it, so a part of a statement is laid out in the same way
wherever it stands. Writing goes through the pieces from left to right and ends at the
first fault.

## Main definitions

* `Piece`, `Layout` — the pieces of a statement.
* `Layout.join`, `Layout.connect` — layouts side by side.
* `Layout.naming` — the check that names can be written.
* `Params.bind` — the next generated parameter.
* `Layout.render` — the text of a layout and the parameters after it.
* `Layout.indexes` — the names of indexes met before the first fault.

## Main statements

* `Layout.render_append` — layouts side by side are written one after the other.
-/

namespace SearchSql

/-- A piece of a statement. -/
inductive Piece where
  /-- Text as it stands. -/
  | text (s : String)
  /-- A value, for which the name of a new parameter is written. -/
  | bind (v : Value)
  /-- Parameters that are bound under their own names; nothing is written. -/
  | merge (params : Mapping)
  /-- The names of indexes that are searched; nothing is written. -/
  | indexes (names : List String)
  /-- Something is wrong here. -/
  | fault (f : Fault)

/-- The pieces of a statement from left to right. The empty layout is a clause that is
left out. -/
abbrev Layout := List Piece

namespace Layout

/-- A text, which is left out when it is empty. -/
def ofText (s : String) : Layout := if s.isEmpty then [] else [.text s]

/-- The check that values can be written out as names; nothing is written for it. -/
def naming (names : List Value) : Layout :=
  if names.all Value.isWritable then [] else [.fault (.misuse .meaningless)]

theorem naming_eq_nil_or (names : List Value) :
    naming names = [] ∨ naming names = [.fault (.misuse .meaningless)] := by
  rw [naming]
  split
  · exact .inl rfl
  · exact .inr rfl

@[simp] theorem naming_nil : naming [] = [] := rfl

/-- A text is a name as it stands. -/
@[simp] theorem naming_text (s : String) : naming [.text s] = [] := rfl

/-- Layouts with a text between them. -/
def join (separator : String) : List Layout → Layout
  | [] => []
  | [l] => l
  | l :: rest => l ++ .text separator :: join separator rest

/-- The layouts that are not left out, with a text between them. -/
def joinPresent (separator : String) (layouts : List Layout) : Layout :=
  join separator (layouts.filter (!·.isEmpty))

/-- A layout between two texts. -/
def enclose (opening : String) (l : Layout) (closing : String) : Layout :=
  .text opening :: l ++ [.text closing]

/-- A layout after a text, both left out together. -/
def after (opening : String) (l : Layout) : Layout :=
  if l.isEmpty then [] else .text opening :: l

/-- Layouts in parentheses with a word between them; those that are left out take no
part. -/
def connect (word : String) (layouts : List Layout) : Layout :=
  match layouts.filter (!·.isEmpty) with
  | [] => []
  | parts => enclose "(" (join (") " ++ word ++ " (") parts) ")"

@[simp] theorem join_nil (separator : String) : join separator [] = [] := rfl

@[simp] theorem join_singleton (separator : String) (l : Layout) : join separator [l] = l := rfl

@[simp] theorem join_cons_cons (separator : String) (l r : Layout) (rest : List Layout) :
    join separator (l :: r :: rest) = l ++ .text separator :: join separator (r :: rest) := rfl

@[simp] theorem after_nil (opening : String) : after opening [] = [] := rfl

/-- The names of the indexes met before the first fault, in order. -/
def indexes : Layout → List String
  | [] => []
  | .indexes names :: rest => names ++ indexes rest
  | .fault _ :: _ => []
  | _ :: rest => indexes rest

end Layout

/-- The parameters that are bound, under their names in the order of binding. -/
structure Params where
  /-- The names with their values. -/
  entries : Mapping

namespace Params

/-- No parameters. -/
def empty : Params := ⟨[]⟩

/-- How many parameters are bound. -/
def size (p : Params) : Nat := p.entries.length

/-- The name of the next generated parameter: the number of those that are bound. -/
def nextName (stem : String) (p : Params) : String := stem ++ toString p.size

/-- Bind a value under the next name. -/
def bind (stem : String) (p : Params) (v : Value) : Params :=
  ⟨Mapping.insert (.text (p.nextName stem)) v p.entries⟩

/-- Bind parameters under their own names. -/
def merge (p : Params) (params : Mapping) : Params := ⟨Mapping.merge p.entries params⟩

end Params

namespace Layout

/-- The text of a layout, in parts, and the parameters after it. -/
def renderParts (stem : String) : Layout → Params → Checked (List String × Params)
  | [], p => .ok ([], p)
  | .text s :: rest, p => do
    let (parts, q) ← renderParts stem rest p
    return (s :: parts, q)
  | .bind v :: rest, p => do
    let (parts, q) ← renderParts stem rest (p.bind stem v)
    return (p.nextName stem :: parts, q)
  | .merge params :: rest, p => renderParts stem rest (p.merge params)
  | .indexes _ :: rest, p => renderParts stem rest p
  | .fault f :: _, _ => .error f

/-- The text of a layout and the parameters after it. -/
def render (stem : String) (l : Layout) (p : Params) : Checked (String × Params) := do
  let (parts, q) ← renderParts stem l p
  return (String.join parts, q)

/-- The texts of several layouts, written one after the other. -/
def renderEach (stem : String) : List Layout → Params → Checked (List String × Params)
  | [], p => .ok ([], p)
  | l :: rest, p => do
    let (first, q) ← l.render stem p
    let (others, last) ← renderEach stem rest q
    return (first :: others, last)

@[simp] theorem renderParts_nil (stem : String) (p : Params) :
    renderParts stem [] p = .ok ([], p) := rfl

/-- A layout is written piece by piece: what comes later starts from the parameters that are
bound so far. -/
theorem renderParts_append (stem : String) (l r : Layout) (p : Params) :
    renderParts stem (l ++ r) p = (do
      let (parts, q) ← renderParts stem l p
      let (others, last) ← renderParts stem r q
      return (parts ++ others, last)) := by
  induction l generalizing p with
  | nil =>
    cases h : renderParts stem r p <;> simp [h, bind, Except.bind, pure, Except.pure]
  | cons piece rest ih =>
    cases piece with
    | text s =>
      simp only [List.cons_append, renderParts, ih]
      cases renderParts stem rest p with
      | error f => rfl
      | ok found =>
        cases h : renderParts stem r found.2 <;> simp [h, bind, Except.bind, pure, Except.pure]
    | bind v =>
      simp only [List.cons_append, renderParts, ih]
      cases renderParts stem rest (p.bind stem v) with
      | error f => rfl
      | ok found =>
        cases h : renderParts stem r found.2 <;> simp [h, bind, Except.bind, pure, Except.pure]
    | merge params => simp only [List.cons_append, renderParts, ih]
    | indexes names => simp only [List.cons_append, renderParts, ih]
    | fault f => rfl

/-- Two layouts one after the other are written one after the other. -/
theorem render_append (stem : String) (l r : Layout) (p : Params) :
    (l ++ r).render stem p = (do
      let (first, q) ← l.render stem p
      let (second, last) ← r.render stem q
      return (first ++ second, last)) := by
  simp only [render, renderParts_append]
  cases renderParts stem l p with
  | error f => rfl
  | ok found =>
    cases h : renderParts stem r found.2 <;>
      simp [h, bind, Except.bind, pure, Except.pure]

end Layout

end SearchSql
