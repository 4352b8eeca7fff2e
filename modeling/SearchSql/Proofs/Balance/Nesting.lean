import SearchSql.Proofs.Balance.Uncut
import SearchSql.Proofs.Subquery.Nesting

/-!
# What a nested query supplies

A query that stands in another one, or in a condition, is given nothing that is not also given
to what stands around it. So its texts have balanced parentheses if those of the request have,
however deep it is nested.

## Main statements

* `Condition.Context.allBalanced_of_fill` — the place in a condition that has been filled.
* `Query.Within.allBalanced_uncut` — a query that is nested in another one.
-/
namespace SearchSql

open Leaf (AllBalanced)

variable {c : Connection} {q outer : Query}

namespace Condition

variable {indexes : List Index}

theorem uncutOperands_eq_flatMap (operands : List Value) :
    uncutOperands c indexes operands = operands.flatMap (uncut c indexes) := by
  induction operands with
  | nil => rw [uncutOperands, List.flatMap_nil]
  | cons v rest ih => rw [uncutOperands, ih, List.flatMap_cons]

theorem uncutEntries_eq_flatMap (entries : List (Value × Value)) :
    uncutEntries c indexes entries = entries.flatMap fun (key, v) =>
      uncutEntry c indexes (.text key.display) v := by
  induction entries with
  | nil => rw [uncutEntries, List.flatMap_nil]
  | cons entry rest ih => rw [uncutEntries, ih, List.flatMap_cons]

/-- A list and a tuple in operator form are given the same. -/
theorem uncut_form (isTuple : Bool) (token : String) (operands : List Value) :
    uncut c indexes (.form isTuple token operands) =
      uncutForm c indexes (.text token :: operands) := by
  cases isTuple
  · rw [Value.form, if_neg Bool.false_ne_true, uncut]
  · rw [Value.form, if_pos rfl, uncut]

/-- What is in the place is given no more than the level around it. -/
theorem Frame.allBalanced_of_fill (frame : Frame) {v : Value}
    (h : AllBalanced (uncut c indexes (frame.fill v))) : AllBalanced (uncut c indexes v) := by
  cases frame with
  | connected connective spelling isTuple before behind =>
    have hoperands : AllBalanced (uncutOperands c indexes (before ++ v :: behind)) := by
      rw [fill, uncut_form, uncutForm, ofForm_spelling] at h
      cases connective <;> exact h
    rw [uncutOperands_eq_flatMap, Leaf.allBalanced_flatMap] at hoperands
    exact hoperands v (List.mem_append_right _ (List.mem_cons_self ..))
  | denied spelling isTuple =>
    rw [fill, uncut_form, uncutForm, ofForm_spelling] at h
    rw [uncutOperands_eq_flatMap, Leaf.allBalanced_flatMap] at h
    exact h v (List.mem_singleton_self v)

/-- What is in the place is given no more than the condition. -/
theorem Context.allBalanced_of_fill (context : Context) {v : Value}
    (h : AllBalanced (uncut c indexes (context.fill v))) : AllBalanced (uncut c indexes v) := by
  induction context generalizing v with
  | nil => exact h
  | cons frame outer ih => exact frame.allBalanced_of_fill (ih h)

/-- A query whose result is compared with. -/
theorem SelectsFrom.allBalanced_uncut {leaf : Value} (hq : SelectsFrom q leaf)
    (h : AllBalanced (uncut c indexes leaf)) : AllBalanced (Selection.uncut c q) := by
  cases hq with
  | @entry entries column hmem =>
    rw [uncut, uncutEntries_eq_flatMap, Leaf.allBalanced_flatMap] at h
    have hentry : AllBalanced (uncutEntry c indexes (.text column.display) (.query q)) :=
      h _ hmem
    rw [uncutEntry] at hentry
    exact (Leaf.allBalanced_cons.1 hentry).2
  | @member negated spelling isTuple column _ hempty =>
    have hmembers : AllBalanced (uncutMembers c indexes negated column (.query q)) := by
      rw [uncut_form, uncutForm, ofForm_spelling] at h
      cases negated with
      | true =>
        simp only [if_true, uncutMembership] at h
        exact h
      | false =>
        simp only [Bool.false_eq_true, if_false, uncutMembership] at h
        exact h
    rw [uncutMembers, hempty, if_neg Bool.false_ne_true] at hmembers
    exact (Leaf.allBalanced_append.1 hmembers).2

theorem Holds.allBalanced_uncut {tree : Value} (hq : Holds q tree)
    (h : AllBalanced (uncut c indexes tree)) : AllBalanced (Selection.uncut c q) := by
  obtain ⟨context, leaf, hleaf, rfl⟩ := hq
  exact hleaf.allBalanced_uncut (context.allBalanced_of_fill h)

end Condition

theorem Source.uncutAll_eq_flatMap (entries : Entries Value) :
    uncutAll c entries = entries.toEntries.flatMap fun (key, v) => uncut c key v := by
  cases entries with
  | positional items =>
    rw [uncutAll, Entries.toEntries, List.flatMap_map]
    induction items with
    | nil => rw [uncutItems, List.flatMap_nil]
    | cons v rest ih => rw [uncutItems, ih, List.flatMap_cons]
  | keyed pairs =>
    rw [uncutAll, Entries.toEntries, List.flatMap_map]
    induction pairs with
    | nil => rw [uncutPairs, List.flatMap_nil]
    | cons pair rest ih => rw [uncutPairs, ih, List.flatMap_cons]

namespace Query

/-- A query that stands in a clause of another one. -/
theorem Child.allBalanced_uncut (hq : q.Child outer)
    (h : AllBalanced (Selection.uncut c outer)) : AllBalanced (Selection.uncut c q) := by
  cases outer
  simp only [Selection.uncut, Leaf.allBalanced_append] at h
  obtain ⟨⟨⟨⟨⟨⟨⟨⟨⟨-, hsource⟩, -⟩, hcondition⟩, -⟩, -⟩, hhaving⟩, -⟩, -⟩, -⟩ := h
  cases hq with
  | @source key hmem =>
    rw [Source.uncutAll_eq_flatMap, Leaf.allBalanced_flatMap] at hsource
    have hentry : AllBalanced (Source.uncut c key (.query q)) := hsource _ hmem
    rw [Source.uncut] at hentry
    exact (Leaf.allBalanced_append.1 hentry).1
  | condition hholds => exact hholds.allBalanced_uncut hcondition
  | having hholds => exact hholds.allBalanced_uncut hhaving

/-- A query that is nested in another one, at any depth. -/
theorem Within.allBalanced_uncut (hq : q.Within outer)
    (h : AllBalanced (Selection.uncut c outer)) : AllBalanced (Selection.uncut c q) := by
  induction hq with
  | refl => exact h
  | tail _ hchild ih => exact ih (hchild.allBalanced_uncut h)

end Query

end SearchSql
