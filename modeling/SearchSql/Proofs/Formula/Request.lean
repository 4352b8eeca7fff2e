import SearchSql.Proofs.Connection.Statement
import SearchSql.Proofs.Formula.Condition

/-!
# What requests for conditions are answered with

Wherever a condition stands in a statement, and when it is asked for by itself, its text is
read as what the condition says.

## Main definitions

* `Formula.IsSaidBy` — a text says what a formula says.

## Main statements

* `Connection.condition_keeps_meaning` — the text of a condition says what the condition says.
-/
namespace SearchSql

open Grammar Layout

/-- A text that is written after some parameters says what a formula says: there is no text if
that is nothing, and else the text is read as a condition that holds just when the formula
does. -/
def Formula.IsSaidBy (f : Formula) (assumed : List Char → Bool) (stem : String) (p : Params)
    (text : String) : Prop :=
  match (f.valueAt assumed stem p).1 with
  | none => text = ""
  | some value => (parse text.toList).map (Expr.eval assumed) = some value

/-- The characters of a layout that says what a formula says. -/
theorem Formula.Describes.isSaidBy {f : Formula} {l : Layout} {assumed : List Char → Bool}
    {stem : String} (h : f.Describes assumed stem l) {p : Params} {text : String}
    (htext : text.toList = l.charsAt stem p) : f.IsSaidBy assumed stem p text := by
  rw [IsSaidBy]
  split
  · rename_i hnone
    rw [h.absent p hnone] at htext
    exact String.toList_eq_nil_iff.1 htext
  · rename_i value hvalue
    rw [htext]
    exact (h.present p value hvalue).2.eval_parse

namespace Connection

variable (c : Connection)

/-- **Conditions keep their meaning.** A condition of which the names, the operators and the raw
texts are plain is written as a text that says the same, in a statement after any parameters and
by itself, whatever predicates are assumed to hold. -/
theorem condition_keeps_meaning (hd : c.dialect.KeepsPlain)
    (hstem : isInert c.settings.paramStem.toList) {tree : Value}
    (hplain : tree.isPlainCondition) (assumed : List Char → Bool) :
    (∀ indexes p text q,
        ((Condition.ofValue tree).layout c indexes).render c.settings.paramStem p = .ok (text, q) →
          (Formula.ofValue c indexes tree).IsSaidBy assumed c.settings.paramStem p text) ∧
      ∀ names params k, c.compiled? (.condition tree names params) = some k →
        (Formula.ofValue c (c.known ((names.elements?.getD []).filterMap Value.text?)) tree).IsSaidBy
          assumed c.settings.paramStem
          ((ofCaller params).paramsAfter c.settings.paramStem .empty) k.sql := by
  have hdescribes (indexes : List Index)
      (hsound : ((Condition.ofValue tree).layout c indexes).Sound) :
      (Formula.ofValue c indexes tree).Describes assumed c.settings.paramStem
        ((Condition.ofValue tree).layout c indexes) :=
    Formula.describes_condition hd (Params.isInert_numbered hstem) indexes tree hplain hsound
  constructor
  · intro indexes p text q hrender
    obtain ⟨hsound, htext, -⟩ := (render_eq_ok_iff c.settings.paramStem).1 hrender
    exact (hdescribes indexes hsound).isSaidBy htext
  · intro names params k hk
    obtain ⟨hsound, hsql, -, -⟩ := (c.compiled?_eq_some_iff rfl).1 hk
    rw [charsAt_append, charsAt_ofCaller, List.nil_append] at hsql
    rw [sound_append] at hsound
    rw [conditionLayout] at hsound hsql
    cases hnames : names.elements? with
    | none =>
      rw [hnames] at hsound
      simp [Piece.isFault] at hsound
    | some found =>
      rw [hnames] at hsound hsql
      exact (hdescribes _ hsound.2).isSaidBy hsql

/-- Books of a year, on a shelf or with one of two words in the title, of which none is lent. Other
books are left out by their size, their language or a word in the title, or since there are not
enough of them. -/
def shelved (first second : String) : Value :=
  .list [.text "and",
    .list [.text "OR",
      .map [(.text "shelf", .int 7), (.text "room", .null)],
      .list [.text "or like", .text "title", .list [.text first, .text second]]],
    .list [.text "BETWEEN", .text "year", .int 1990, .int 1999],
    .list [.text "NOT BETWEEN", .text "pages", .int 1, .int 50],
    .list [.text "not in", .text "language", .list [.text "la", .null]],
    .list [.text "NOT LIKE", .text "title", .text first],
    .list [.text ">=", .text "copies", .int 2],
    .list [.text "not", .list [.text "IN", .text "lent", .list []]],
    .list [.text "AND", .text ""]]

theorem condition_keeps_meaning_shelved :
    ∃ k, standard.compiled? (.condition (shelved "sea" "sky") (.list []) .null) = some k ∧
      k.sql = "(((shelf=:qp0) AND (room IS NULL)) OR (title LIKE :qp1 OR title LIKE :qp2)) AND " ++
        "(year BETWEEN :qp3 AND :qp4) AND (pages NOT BETWEEN :qp5 AND :qp6) AND " ++
        "(language NOT IN (:qp7, NULL)) AND (title NOT LIKE :qp8) AND (copies >= :qp9) AND " ++
        "(NOT (0=1))" ∧
      ∀ assumed, (Formula.ofValue standard [] (shelved "sea" "sky")).IsSaidBy assumed ":qp" .empty
        k.sql := by
  have hsql : (standard.compiled? (.condition (shelved "sea" "sky") (.list []) .null)).map
      (·.sql) = some (
        "(((shelf=:qp0) AND (room IS NULL)) OR (title LIKE :qp1 OR title LIKE :qp2)) AND " ++
        "(year BETWEEN :qp3 AND :qp4) AND (pages NOT BETWEEN :qp5 AND :qp6) AND " ++
        "(language NOT IN (:qp7, NULL)) AND (title NOT LIKE :qp8) AND (copies >= :qp9) AND " ++
        "(NOT (0=1))") := by
    decide +kernel
  obtain ⟨k, hk, htext⟩ := Option.map_eq_some_iff.1 hsql
  have hplain : (shelved "sea" "sky").isPlainCondition := by decide +kernel
  refine ⟨k, hk, htext, fun assumed => ?_⟩
  exact (standard.condition_keeps_meaning Dialect.keepsPlain_sphinx (by decide) hplain
    assumed).2 (.list []) .null k hk

end Connection

end SearchSql
