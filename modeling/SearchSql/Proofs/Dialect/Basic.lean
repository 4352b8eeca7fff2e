import SearchSql.Proofs.Layout.Writing
import SearchSql.Proofs.Placeholder.Clause

/-!
# Texts without back-quotes

Dialects differ in nothing but back-quotes when quoting adds nothing else to a part of a
name. A layout is compared with another piece by piece: the texts in it lose their
back-quotes, and everything else stays.

## Main definitions

* `unquote`, `Bare` — a text without its back-quotes, and a text that has none.
* `Dialect.OnlyQuotes` — quoting adds nothing but back-quotes.
* `Layout.unquoted` — a layout without the back-quotes in it.

## Main statements

* `Dialect.OnlyQuotes.unquote_quote` — a quoted name without back-quotes.
* `Layout.render_unquoted` — what is written without back-quotes.
-/
namespace SearchSql

/-- A text without its back-quotes. -/
def unquote (s : String) : String := String.ofList (s.toList.filter (· != Dialect.backQuote))

/-- No back-quote stands in a text. -/
def Bare (s : String) : Prop := Dialect.backQuote ∉ s.toList

instance (s : String) : Decidable (Bare s) := inferInstanceAs (Decidable (_ ∉ _))

@[simp] theorem toList_unquote (s : String) :
    (unquote s).toList = s.toList.filter (· != Dialect.backQuote) := by
  simp [unquote]

@[simp] theorem unquote_append (s t : String) : unquote (s ++ t) = unquote s ++ unquote t := by
  simp [← String.toList_inj]

theorem unquote_of_bare {s : String} (h : Bare s) : unquote s = s := by
  rw [← String.toList_inj, toList_unquote, List.filter_eq_self]
  intro c hc
  simpa using ne_of_mem_of_not_mem hc h

@[simp] theorem bare_append {s t : String} : Bare (s ++ t) ↔ Bare s ∧ Bare t := by
  simp [Bare]

@[simp] theorem unquote_join (parts : List String) :
    unquote (String.join parts) = String.join (parts.map unquote) := by
  simp [← String.toList_inj, List.filter_flatMap, List.flatMap_map]

theorem unquote_intercalate (separator : String) (parts : List String) :
    unquote (separator.intercalate parts) =
      (unquote separator).intercalate (parts.map unquote) := by
  match parts with
  | [] => simp [← String.toList_inj]
  | [s] => simp
  | s :: t :: rest =>
    have ih := unquote_intercalate separator (t :: rest)
    simp only [List.map_cons] at ih
    simp [String.intercalate_cons_cons, ih]

/-- A numeral has no back-quote. -/
theorem bare_toString (n : Nat) : Bare (toString n) := by
  simpa [Bare, toString] using Layout.notMem_toDigits (by decide) n

namespace Dialect

/-- Quoting adds nothing but back-quotes to a part of a name. -/
def OnlyQuotes (d : Dialect) : Prop :=
  ∀ part, (d.quotePart part).filter (· != backQuote) = part.filter (· != backQuote)

theorem onlyQuotes_manticore : manticore.OnlyQuotes := fun part => by
  simp [manticore]

theorem filter_intercalate {α : Type} (keep : α → Bool) (between : List α)
    (parts : List (List α)) :
    (between.intercalate parts).filter keep =
      (between.filter keep).intercalate (parts.map (List.filter keep)) := by
  induction parts with
  | nil => rfl
  | cons first rest ih =>
    cases rest with
    | nil => simp [List.intercalate]
    | cons next others =>
      rw [List.map_cons] at ih
      simp only [List.map_cons, List.intercalate_cons_cons, List.filter_append, ih]

/-- **A quoted name differs from the name in back-quotes only.** -/
theorem OnlyQuotes.unquote_quote {d : Dialect} (hd : d.OnlyQuotes) (name : String) :
    unquote (d.quote name) = unquote name := by
  rw [← String.toList_inj, toList_unquote, toList_unquote, toList_quote, quoteChars]
  split
  · rfl
  · have hpart (part : List Char) : (d.quoteUnquoted part).filter (· != backQuote) =
        part.filter (· != backQuote) := by
      rw [quoteUnquoted]
      split
      · rfl
      · exact hd part
    have hparts : ((name.toList.splitOn '.').map d.quoteUnquoted).map
        (List.filter (· != backQuote)) =
          (name.toList.splitOn '.').map (List.filter (· != backQuote)) := by
      rw [List.map_map]
      exact List.map_congr_left fun part _ => hpart part
    rw [filter_intercalate, hparts, ← filter_intercalate, List.intercalate_splitOn]

/-- Names stand as they are in the dialect without quotes. -/
@[simp] theorem quote_sphinx (name : String) : sphinx.quote name = name := by
  have hpart : sphinx.quoteUnquoted = id := by
    funext part
    rw [quoteUnquoted]
    split <;> rfl
  rw [← String.toList_inj, toList_quote, quoteChars, hpart, List.map_id, List.intercalate_splitOn,
    ite_self]

end Dialect

/-- The settings put no back-quotes into a statement. -/
structure Settings.Bare (settings : Settings) : Prop where
  separator : SearchSql.Bare settings.separator
  querySeparator : SearchSql.Bare settings.querySeparator
  paramStem : SearchSql.Bare settings.paramStem

/-- The same connection with the dialect in which names stand as they are. -/
def Connection.unquoted (c : Connection) : Connection := { c with dialect := .sphinx }

/-- No back-quote stands in a text that is supplied. -/
def Leaf.Bare : Leaf → Prop
  | .quoted s | .verbatim s => SearchSql.Bare s
  | .given _ | .bound _ => True

/-- A piece without the back-quotes in its text. -/
def Piece.unquoted : Piece → Piece
  | .text s => .text (unquote s)
  | piece => piece

namespace Connection

variable {c : Connection}

@[simp] theorem settings_unquoted : c.unquoted.settings = c.settings := rfl

@[simp] theorem known_unquoted (names : List String) : c.unquoted.known names = c.known names := rfl

@[simp] theorem knownIndex_unquoted (v : Value) : c.unquoted.knownIndex v = c.knownIndex v := rfl

@[simp] theorem quote_unquoted (name : String) : c.unquoted.quote name = name :=
  Dialect.quote_sphinx name

@[simp] theorem quoteValue_unquoted (v : Value) : c.unquoted.quoteValue v = v.display :=
  Dialect.quote_sphinx v.display

theorem unquote_quote (hd : c.dialect.OnlyQuotes) {name : String} (h : Bare name) :
    unquote (c.quote name) = name :=
  (hd.unquote_quote name).trans (unquote_of_bare h)

end Connection

namespace Layout

/-- A layout without the back-quotes in its texts. -/
def unquoted (l : Layout) : Layout := l.map Piece.unquoted

@[simp] theorem unquoted_nil : unquoted [] = [] := rfl

@[simp] theorem unquoted_cons (piece : Piece) (l : Layout) :
    unquoted (piece :: l) = piece.unquoted :: unquoted l := rfl

@[simp] theorem unquoted_naming (names : List Value) : (naming names).unquoted = naming names := by
  rcases naming_eq_nil_or names with h | h <;> rw [h] <;> rfl

@[simp] theorem unquoted_append (l r : Layout) : (l ++ r).unquoted = l.unquoted ++ r.unquoted :=
  List.map_append

@[simp] theorem isEmpty_unquoted (l : Layout) : l.unquoted.isEmpty = l.isEmpty := by
  cases l <;> rfl

@[simp] theorem unquoted_enclose (opening : String) (l : Layout) (closing : String) :
    (enclose opening l closing).unquoted =
      enclose (unquote opening) l.unquoted (unquote closing) := by
  simp [enclose, Piece.unquoted]

@[simp] theorem unquoted_after (opening : String) (l : Layout) :
    (after opening l).unquoted = after (unquote opening) l.unquoted := by
  cases l <;> simp [after, Piece.unquoted]

@[simp] theorem unquoted_join (separator : String) (ls : List Layout) :
    (join separator ls).unquoted = join (unquote separator) (ls.map unquoted) := by
  induction ls with
  | nil => rfl
  | cons l rest ih =>
    cases rest with
    | nil => rfl
    | cons next others => simpa [Piece.unquoted] using ih

@[simp] theorem filter_map_unquoted (ls : List Layout) :
    (ls.map unquoted).filter (!·.isEmpty) = (ls.filter (!·.isEmpty)).map unquoted := by
  simp [List.filter_map, Function.comp_def]

@[simp] theorem unquoted_joinPresent (separator : String) (ls : List Layout) :
    (joinPresent separator ls).unquoted = joinPresent (unquote separator) (ls.map unquoted) := by
  simp [joinPresent]

@[simp] theorem unquoted_connect (word : String) (ls : List Layout) :
    (connect word ls).unquoted = connect (unquote word) (ls.map unquoted) := by
  have hopen : unquote "(" = "(" := unquote_of_bare (by decide)
  have hclose : unquote ")" = ")" := unquote_of_bare (by decide)
  have hbefore : unquote ") " = ") " := unquote_of_bare (by decide)
  have hbehind : unquote " (" = " (" := unquote_of_bare (by decide)
  unfold connect
  rw [filter_map_unquoted]
  cases ls.filter (!·.isEmpty) <;> simp [hopen, hclose, hbefore, hbehind]

/-- **What is written without back-quotes.** The names of parameters have none. -/
theorem render_unquoted {stem : String} (hstem : Bare stem) (l : Layout) (p : Params) :
    l.unquoted.render stem p = (l.render stem p).map (Prod.map unquote id) := by
  have hname (p : Params) : unquote (p.nextName stem) = p.nextName stem :=
    unquote_of_bare (bare_append.2 ⟨hstem, bare_toString _⟩)
  have hparts : renderParts stem l.unquoted p =
      (renderParts stem l p).map (Prod.map (List.map unquote) id) := by
    induction l generalizing p with
    | nil => rfl
    | cons piece l ih =>
      cases piece with
      | text s =>
        simp only [unquoted_cons, Piece.unquoted, renderParts, ih p]
        cases renderParts stem l p <;> rfl
      | bind v =>
        simp only [unquoted_cons, Piece.unquoted, renderParts, ih (p.bind stem v)]
        cases renderParts stem l (p.bind stem v) with
        | error f => rfl
        | ok found =>
          simp [bind, Except.bind, pure, Except.pure, Except.map, hname]
      | merge params => exact ih (p.merge params)
      | indexes names => exact ih p
      | fault f => rfl
  simp only [render, hparts]
  cases renderParts stem l p <;> simp [bind, Except.bind, pure, Except.pure, Except.map]

end Layout

end SearchSql
