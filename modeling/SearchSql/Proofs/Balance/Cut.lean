import SearchSql.Proofs.Balance.Basic
import SearchSql.Proofs.Grammar.Capitals
import SearchSql.Selection.OfQuery

/-!
# Balanced texts that are cut

A name and its label are cut apart, a list of columns is cut at its commas, and an operator is
written in capitals without the blanks around it. Only texts in which no parenthesis opens are
cut; in a balanced one of these none is closed either, so the parts have no parentheses.
Capitals and blanks make no difference to parentheses.

## Main statements

* `Parens.balanced_splitLabel` — a name and its label.
* `Parens.balanced_ofText` — the columns of a list.
* `Parens.balanced_normalize` — an operator.
-/
namespace SearchSql

namespace Label

/-- What is found has only characters of the text. -/
def Finds (find : List Char → Option (List Char)) : Prop :=
  ∀ cs found, find cs = some found → found ⊆ cs

theorem finds_afterBlanks {next : List Char → Option (List Char)} (h : Finds next) :
    Finds (afterBlanks next) := by
  intro cs
  induction cs with
  | nil => simp [afterBlanks]
  | cons c rest ih =>
    intro found hfound
    rw [afterBlanks] at hfound
    split at hfound
    · rcases Option.or_eq_some_iff.1 hfound with hlater | ⟨-, hnow⟩
      · exact List.subset_cons_of_subset c (ih found hlater)
      · exact List.subset_cons_of_subset c (h rest found hnow)
    · simp at hfound

theorem finds_afterAs {next : List Char → Option (List Char)} (h : Finds next) :
    Finds (afterAs next) := by
  intro cs found hfound
  unfold afterAs at hfound
  split at hfound
  · split at hfound
    · exact List.subset_cons_of_subset _
        (List.subset_cons_of_subset _ (finds_afterBlanks h _ found hfound))
    · simp at hfound
  · simp at hfound

theorem finds_tail? {label? : List Char → Option (List Char)} (h : Finds label?) :
    Finds (tail? label?) := by
  intro cs found hfound
  rcases Option.or_eq_some_iff.1 hfound with hnamed | ⟨-, hbare⟩
  · exact finds_afterBlanks (finds_afterAs h) cs found hnamed
  · exact finds_afterBlanks h cs found hbare

/-- A name and its label have only characters of the text. -/
theorem subset_of_split? {tail : List Char → Option (List Char)} (h : Finds tail)
    {cs name label : List Char} (hsplit : split? tail cs = some (name, label)) :
    name ⊆ cs ∧ label ⊆ cs := by
  induction cs generalizing name label with
  | nil =>
    obtain ⟨found, hfound, heq⟩ := Option.map_eq_some_iff.1 hsplit
    cases heq
    exact ⟨List.Subset.refl _, h [] _ hfound⟩
  | cons c rest ih =>
    rw [split?] at hsplit
    split at hsplit
    · rename_i found hfound
      cases hsplit
      exact ⟨List.nil_subset _, h _ _ hfound⟩
    · split at hsplit
      · simp at hsplit
      · obtain ⟨⟨front, found⟩, hrest, heq⟩ := Option.map_eq_some_iff.1 hsplit
        cases heq
        obtain ⟨hfront, hfound⟩ := ih hrest
        exact ⟨List.cons_subset_cons c hfront, List.subset_cons_of_subset c hfound⟩

/-- A text that is cut apart has the characters of its two parts. -/
def Cuts (label? : String → Option (String × String)) : Prop :=
  ∀ s name label, label? s = some (name, label) →
    name.toList ⊆ s.toList ∧ label.toList ⊆ s.toList

theorem cuts_of_finds {label? : List Char → Option (List Char)} (h : Finds label?) :
    Cuts fun s => (split? (tail? label?) s.toList).map toTexts := by
  intro s name label hsome
  obtain ⟨⟨front, found⟩, hsplit, heq⟩ := Option.map_eq_some_iff.1 hsome
  cases heq
  simpa [toTexts] using subset_of_split? (finds_tail? h) hsplit

theorem cuts_ofSource? : Cuts ofSource? := by
  refine cuts_of_finds fun cs found hfound => ?_
  rw [sourceLabel?] at hfound
  split at hfound
  · simp at hfound
  · obtain rfl := Option.some.inj hfound
    exact List.Subset.refl _

theorem cuts_ofField? : Cuts ofField? := by
  refine cuts_of_finds fun cs found hfound => ?_
  simp only [fieldLabel?, List.span_eq_takeWhile_dropWhile] at hfound
  split at hfound
  · obtain rfl := Option.some.inj hfound
    exact (List.takeWhile_prefix _).subset
  · simp at hfound

end Label

namespace Parens

theorem not_mem_of_hasParenthesis {s : String} (h : ¬ hasParenthesis s = true) :
    '(' ∉ s.toList := by
  simpa [hasParenthesis] using h

/-- A part of a balanced text in which no parenthesis opens. -/
theorem Balanced.of_subset {cs ds : List Char} (h : Balanced ds) (hopen : '(' ∉ ds)
    (hsub : cs ⊆ ds) : Balanced cs := by
  have hclose := (balanced_iff_leads.1 h).notMem_close hopen
  exact balanced_iff_leads.2
    (leads_of_notMem (fun hmem => hopen (hsub hmem)) fun hmem => hclose (hsub hmem))

/-- **A name and its label are balanced** if the text is that they are cut from. -/
theorem balanced_splitLabel {label? : String → Option (String × String)}
    (hcuts : Label.Cuts label?) {s : String} (h : Balanced s.toList) :
    Balanced (splitLabel label? s).1.toList ∧
      ∀ label, (splitLabel label? s).2 = some label → Balanced label.toList := by
  rw [splitLabel]
  split
  · exact ⟨h, by simp⟩
  · rename_i hnone
    have hopen := not_mem_of_hasParenthesis hnone
    split
    · rename_i name label hsome
      obtain ⟨hname, hlabel⟩ := hcuts s name label hsome
      refine ⟨h.of_subset hopen hname, fun other hother => ?_⟩
      obtain rfl := Option.some.inj hother
      exact h.of_subset hopen hlabel
    · exact ⟨h, by simp⟩

theorem subset_of_trimChars (drops : Char → Bool) (cs : List Char) :
    Text.trimChars drops cs ⊆ cs := by
  intro c hc
  have hback := (List.dropWhile_suffix drops).subset (List.mem_reverse.1 hc)
  exact (List.dropWhile_suffix drops).subset (List.mem_reverse.1 hback)

/-- **The columns of a list are balanced** if the text of the list is. -/
theorem balanced_ofText {s : String} (h : Balanced s.toList) :
    Leaf.AllBalanced ((ListedColumn.ofText s).flatMap Leaf.ofColumn) := by
  rw [ListedColumn.ofText]
  split
  · exact Leaf.allBalanced_cons.2 ⟨h, Leaf.allBalanced_nil⟩
  · rename_i hnone
    refine Leaf.allBalanced_flatMap.2 fun column hcolumn => ?_
    obtain ⟨name, hname, rfl⟩ := List.mem_map.1 hcolumn
    obtain ⟨part, hpart, rfl⟩ := List.mem_map.1 (List.mem_of_mem_filter hname)
    refine Leaf.allBalanced_cons.2 ⟨?_, Leaf.allBalanced_nil⟩
    have hsub : Text.trimChars Text.isBlank part ⊆ s.toList :=
      List.Subset.trans (subset_of_trimChars _ part) (Dialect.infix_of_mem_splitOn hpart).subset
    simpa [Leaf.Balanced] using h.of_subset (not_mem_of_hasParenthesis hnone) hsub

/-! ## Operators -/

/-- Whether a character is a parenthesis. -/
def isParen (c : Char) : Bool := c == '(' || c == ')'

/-- Only parentheses count. -/
theorem climb_filter (m : Nat) (cs : List Char) : climb m (cs.filter isParen) = climb m cs := by
  induction cs generalizing m with
  | nil => rfl
  | cons c cs ih =>
    rw [List.filter_cons]
    split
    · simp only [climb, ih]
    · rename_i hc
      simp only [isParen, Bool.or_eq_true, beq_iff_eq, not_or] at hc
      simp [climb, step, hc, ih]

theorem balanced_congr {cs ds : List Char} (h : cs.filter isParen = ds.filter isParen) :
    Balanced cs ↔ Balanced ds := by
  rw [balanced_iff_leads, balanced_iff_leads, Leads, Leads, ← climb_filter 0 cs, h, climb_filter]

theorem filter_dropWhile {drops : Char → Bool} (h : ∀ c, drops c = true → isParen c = false)
    (cs : List Char) : (cs.dropWhile drops).filter isParen = cs.filter isParen := by
  induction cs with
  | nil => rfl
  | cons c cs ih =>
    rw [List.dropWhile_cons]
    split
    · rename_i hc
      rw [ih, List.filter_cons, h c hc]
      simp
    · rfl

theorem filter_trimChars (cs : List Char) :
    (Text.trimChars Text.isBlank cs).filter isParen = cs.filter isParen := by
  have hblank (c : Char) (hc : Text.isBlank c = true) : isParen c = false := by
    by_contra hparen
    simp only [isParen, Bool.or_eq_true, beq_iff_eq, Bool.not_eq_false] at hparen
    rcases hparen with rfl | rfl <;> exact absurd hc (by decide)
  rw [Text.trimChars, List.filter_reverse, filter_dropWhile hblank, List.filter_reverse,
    List.reverse_reverse, filter_dropWhile hblank]

/-- The capital form of a character has the same parentheses. -/
theorem filter_upperChar (c : Char) : (Text.upperChar c).filter isParen = [c].filter isParen := by
  have hword (d : Char) (hd : Grammar.isWordPart d = true) : isParen d = false := by
    by_contra hparen
    simp only [isParen, Bool.or_eq_true, beq_iff_eq, Bool.not_eq_false] at hparen
    rcases hparen with rfl | rfl <;> exact absurd hd (by decide)
  cases hc : Grammar.isWordPart c with
  | false => rw [Grammar.upperChar_of_not_isWordPart hc]
  | true =>
    have hall : (Text.upperChar c).filter isParen = [] :=
      List.filter_eq_nil_iff.2 fun d hd => by
        simp [hword d ((Grammar.isWordPart_upperChar hc).2 d hd)]
    rw [hall]
    simp [hword c hc]

theorem filter_flatMap_upperChar (cs : List Char) :
    (cs.flatMap Text.upperChar).filter isParen = cs.filter isParen := by
  induction cs with
  | nil => rfl
  | cons c cs ih =>
    rw [List.flatMap_cons, List.filter_append, filter_upperChar, ih, ← List.filter_append]
    rfl

/-- **An operator is balanced** just when the text is that asks for it. -/
theorem balanced_normalize {token : String} :
    Balanced (Operator.normalize token).toList ↔ Balanced token.toList := by
  rw [Operator.normalize, Text.toList_upper, Text.toList_trim]
  exact balanced_congr ((filter_flatMap_upperChar _).trans (filter_trimChars _))

end Parens

end SearchSql
