import SearchSql.Proofs.Placeholder.Leaf
import SearchSql.Proofs.Placeholder.Quoting

/-!
# Balanced parentheses

A text is balanced when no prefix of it closes more parentheses than it opens, and as many are
closed as opened in the end. Reading it from left to right, the number of open parentheses
never falls below zero and returns to it. What stands inside of open parentheses does not
see them, so texts that lead from one number to another may be put together at any depth.

## Main definitions

* `Parens.Balanced` — as many parentheses are closed as opened, and none before it is opened.
* `Parens.Leads` — how many parentheses are open before and after a text.

## Main statements

* `Parens.balanced_iff_leads` — a balanced text leads from zero to zero.
* `Parens.Leads.append`, `Parens.Leads.raise` — texts that are put together.
-/
namespace SearchSql

namespace Parens

/-- No prefix closes more parentheses than it opens, and as many are closed as opened. -/
def Balanced (cs : List Char) : Prop :=
  (∀ front, front <+: cs → front.count ')' ≤ front.count '(') ∧ cs.count ')' = cs.count '('

/-- How many parentheses are open after a character; none may be closed that is not open. -/
def step (depth : Nat) (c : Char) : Option Nat :=
  if c = '(' then some (depth + 1)
  else if c = ')' then (if depth = 0 then none else some (depth - 1))
  else some depth

/-- How many parentheses are open after a text. -/
def climb : Nat → List Char → Option Nat
  | depth, [] => some depth
  | depth, c :: cs => (step depth c).bind fun next => climb next cs

/-- A text that leads from one number of open parentheses to another. -/
def Leads (m n : Nat) (cs : List Char) : Prop := climb m cs = some n

instance (m n : Nat) (cs : List Char) : Decidable (Leads m n cs) :=
  inferInstanceAs (Decidable (_ = _))

theorem climb_append (m : Nat) (cs ds : List Char) :
    climb m (cs ++ ds) = (climb m cs).bind fun n => climb n ds := by
  induction cs generalizing m with
  | nil => rfl
  | cons c cs ih =>
    simp only [List.cons_append, climb, ih]
    cases step m c <;> rfl

/-- The prefixes of a text that is not empty. -/
theorem forall_prefix_cons {P : List Char → Prop} {c : Char} {cs : List Char} :
    (∀ front, front <+: c :: cs → P front) ↔
      P [] ∧ ∀ front, front <+: cs → P (c :: front) := by
  simp only [List.prefix_cons_iff, or_imp, forall_and, forall_eq]
  refine and_congr_right fun _ => ⟨fun h front hin => h _ ⟨front, rfl, hin⟩, ?_⟩
  rintro h _ ⟨front, rfl, hin⟩
  exact h front hin

/-- What reading from left to right finds out. -/
theorem climb_eq_some_iff {m n : Nat} {cs : List Char} :
    climb m cs = some n ↔ (∀ front, front <+: cs → front.count ')' ≤ m + front.count '(') ∧
      m + cs.count '(' = n + cs.count ')' := by
  induction cs generalizing m with
  | nil => simp [climb, List.prefix_nil]
  | cons c cs ih =>
    rw [forall_prefix_cons]
    by_cases hopen : c = '('
    · subst hopen
      simp only [climb, step, if_true, Option.bind_some, ih, List.count_cons, List.count_nil]
      refine and_congr ⟨fun h => ⟨by simp, fun front hin => ?_⟩, fun h front hin => ?_⟩ ?_
      · have hle := h front hin
        simp
        omega
      · have hle := h.2 front hin
        simp at hle
        omega
      · simp
        omega
    by_cases hclose : c = ')'
    · subst hclose
      cases m with
      | zero =>
        -- reading fails at once, and the text of this one character closes too much
        simp only [climb, step]
        refine ⟨fun h => by simp at h, fun h => ?_⟩
        have hle := h.1.2 [] List.nil_prefix
        simp at hle
      | succ m =>
        simp only [climb, step, List.count_cons]
        refine Iff.trans ih (and_congr ⟨fun h => ⟨by simp, fun front hin => ?_⟩,
          fun h front hin => ?_⟩ ?_)
        · have hle := h front hin
          simp
          omega
        · have hle := h.2 front hin
          simp at hle
          omega
        · simp
          omega
    · simp [climb, step, hopen, hclose, ih]

theorem balanced_iff_leads {cs : List Char} : Balanced cs ↔ Leads 0 0 cs := by
  rw [Leads, climb_eq_some_iff, Balanced]
  simp only [Nat.zero_add]
  exact and_congr_right fun _ => eq_comm

instance (cs : List Char) : Decidable (Balanced cs) :=
  decidable_of_iff _ balanced_iff_leads.symm

theorem leads_nil (m : Nat) : Leads m m [] := rfl

/-- Texts one after the other. -/
theorem Leads.append {l m n : Nat} {cs ds : List Char} (hcs : Leads l m cs)
    (hds : Leads m n ds) : Leads l n (cs ++ ds) := by
  rw [Leads, climb_append, hcs]
  exact hds

theorem Leads.concat {l m n : Nat} {s t : String} (hs : Leads l m s.toList)
    (ht : Leads m n t.toList) : Leads l n (s ++ t).toList := by
  rw [String.toList_append]
  exact hs.append ht

/-- Inside of parentheses that are open already. -/
theorem Leads.raise {m n : Nat} {cs : List Char} (h : Leads m n cs) (d : Nat) :
    Leads (m + d) (n + d) cs := by
  rw [Leads, climb_eq_some_iff] at h ⊢
  refine ⟨fun front hin => ?_, ?_⟩
  · have hle := h.1 front hin
    omega
  · omega

/-- A balanced text at any depth. -/
theorem Leads.level {cs : List Char} (h : Leads 0 0 cs) (m : Nat) : Leads m m cs := by
  simpa using h.raise m

/-- A text without parentheses. -/
theorem leads_of_notMem {cs : List Char} (hopen : '(' ∉ cs) (hclose : ')' ∉ cs) :
    Leads 0 0 cs := by
  refine climb_eq_some_iff.2 ⟨fun front hin => ?_, ?_⟩
  · rw [List.count_eq_zero_of_not_mem fun hmem => hclose (hin.subset hmem)]
    omega
  · rw [List.count_eq_zero_of_not_mem hopen, List.count_eq_zero_of_not_mem hclose]

/-- Nothing is closed where nothing is opened. -/
theorem Leads.notMem_close {cs : List Char} (h : Leads 0 0 cs) (hopen : '(' ∉ cs) :
    ')' ∉ cs := by
  have hcount := (balanced_iff_leads.2 h).2
  rw [List.count_eq_zero_of_not_mem hopen] at hcount
  exact List.count_eq_zero.1 hcount

end Parens

/-! ## Names -/

namespace Dialect

open Parens

/-- Names without parentheses are quoted in balanced ones. -/
def KeepsBalance (d : Dialect) : Prop :=
  ∀ part, '(' ∉ part → ')' ∉ part → Balanced (d.quotePart part)

theorem keepsBalance_sphinx : sphinx.KeepsBalance :=
  fun _ hopen hclose => balanced_iff_leads.2 (leads_of_notMem hopen hclose)

theorem keepsBalance_manticore : manticore.KeepsBalance := by
  intro part hopen hclose
  have hquote : Leads 0 0 [backQuote] := by decide
  exact balanced_iff_leads.2 (hquote.append ((leads_of_notMem hopen hclose).append hquote))

theorem leads_intercalate {separator : List Char} (hs : Leads 0 0 separator)
    {parts : List (List Char)} (h : ∀ part ∈ parts, Leads 0 0 part) :
    Leads 0 0 (separator.intercalate parts) := by
  induction parts with
  | nil => exact leads_nil 0
  | cons part rest ih =>
    have hrest := ih fun other hother => h other (List.mem_cons_of_mem _ hother)
    have hpart := h part (List.mem_cons_self ..)
    cases rest with
    | nil => simpa [List.intercalate] using hpart
    | cons next others =>
      rw [List.intercalate_cons_cons]
      exact (hpart.append hs).append hrest

/-- A balanced name is balanced when it is quoted: either a parenthesis opens in it, and it is an
expression, or there are none in it. -/
theorem KeepsBalance.leads_quoteChars {d : Dialect} (hd : d.KeepsBalance) {cs : List Char}
    (h : Leads 0 0 cs) : Leads 0 0 (d.quoteChars cs) := by
  rw [quoteChars]
  split
  · exact h
  · rename_i hexpression
    have hopen : '(' ∉ cs := by
      intro hmem
      exact hexpression (by simp [isExpression, hmem])
    have hclose := h.notMem_close hopen
    refine leads_intercalate (by decide) fun quoted hquoted => ?_
    obtain ⟨part, hpart, rfl⟩ := List.mem_map.1 hquoted
    have hsub : part ⊆ cs := (infix_of_mem_splitOn hpart).subset
    rw [quoteUnquoted]
    split
    · exact leads_of_notMem (fun hmem => hopen (hsub hmem)) fun hmem => hclose (hsub hmem)
    · exact balanced_iff_leads.1
        (hd part (fun hmem => hopen (hsub hmem)) fun hmem => hclose (hsub hmem))

end Dialect

theorem Connection.leads_quote {c : Connection} (hd : c.dialect.KeepsBalance) {name : String}
    (h : Parens.Balanced name.toList) : Parens.Leads 0 0 (c.quote name).toList := by
  rw [quote, Dialect.toList_quote]
  exact hd.leads_quoteChars (Parens.balanced_iff_leads.1 h)

/-! ## What is supplied -/

namespace Leaf

/-- The text that is supplied is balanced. -/
def Balanced : Leaf → Prop
  | .quoted s | .verbatim s => Parens.Balanced s.toList
  | .given _ | .bound _ => True

instance : DecidablePred Balanced
  | .quoted s | .verbatim s => inferInstanceAs (Decidable (Parens.Balanced s.toList))
  | .given _ | .bound _ => .isTrue trivial

/-- All texts that are supplied are balanced. -/
def AllBalanced (leaves : List Leaf) : Prop := ∀ leaf ∈ leaves, leaf.Balanced

instance : DecidablePred AllBalanced :=
  fun leaves => inferInstanceAs (Decidable (∀ leaf ∈ leaves, leaf.Balanced))

@[simp] theorem allBalanced_nil : AllBalanced [] := by simp [AllBalanced]

@[simp] theorem allBalanced_cons {leaf : Leaf} {rest : List Leaf} :
    AllBalanced (leaf :: rest) ↔ leaf.Balanced ∧ AllBalanced rest :=
  List.forall_mem_cons

@[simp] theorem allBalanced_append {front back : List Leaf} :
    AllBalanced (front ++ back) ↔ AllBalanced front ∧ AllBalanced back :=
  List.forall_mem_append

theorem allBalanced_flatMap {α : Type} {f : α → List Leaf} {items : List α} :
    AllBalanced (items.flatMap f) ↔ ∀ item ∈ items, AllBalanced (f item) := by
  simp only [AllBalanced, List.mem_flatMap]
  exact ⟨fun h item hitem leaf hleaf => h leaf ⟨item, hitem, hleaf⟩,
    fun h leaf ⟨item, hitem, hleaf⟩ => h item hitem leaf hleaf⟩

theorem allBalanced_map {α : Type} {f : α → Leaf} {items : List α} :
    AllBalanced (items.map f) ↔ ∀ item ∈ items, (f item).Balanced :=
  List.forall_mem_map

end Leaf

end SearchSql
