import SearchSql.Proofs.Placeholder.Clause

/-!
# Conditions and selections around what is supplied

The induction is on the condition or the selection, one case for each form; sub-queries
stand where they are written, and so do their leaves.

## Main statements

* `Layout.FramedBy.condition`, `Layout.FramedBy.selection` — framed around their leaves.
-/
namespace SearchSql.Layout.FramedBy

open Placeholder

variable {c : Connection}

/-- Cells under columns, side by side. -/
theorem inOrder_zipWith (indexes : List Index) (columns : List Value)
    (row : List (Checked Value)) :
    InOrder (columns.zipWith (Leaf.ofCell indexes) row).flatten
      (columns.zipWith (ofChecked indexes) row) := by
  induction columns generalizing row with
  | nil => exact .nil
  | cons column columns ih =>
    cases row with
    | nil => exact .nil
    | cons v row => exact .cons (cell indexes column v) (ih row)

theorem negation {a : List Leaf} {l : Layout} (h : FramedBy a l) :
    FramedBy a (if l.isEmpty then [] else Layout.enclose "NOT (" l ")") := by
  split
  · rename_i hempty
    obtain rfl := List.isEmpty_iff.1 hempty
    exact h
  · exact enclose (by decide) h (by decide)

theorem record {a : List Leaf} {ls : List Layout} (h : InOrder a ls) :
    FramedBy a (ofRecord ls) := by
  cases h with
  | nil => exact nil
  | cons ha hrest =>
    cases hrest with
    | nil =>
      rw [List.append_nil]
      exact ha
    | cons hb hothers => exact InOrder.connect _ (by decide) (.cons ha (.cons hb hothers))

/-- The full-text query stands in front of the condition. -/
theorem filter {a : List Leaf} (indexes : List Index) (v : Value) {condition : Condition}
    (h : FramedBy a (condition.layout c indexes)) :
    FramedBy ((if v.isNull then [] else Leaf.ofFulltext v) ++ a)
      (ofFilter v condition.isOmitted (condition.layout c indexes)) := by
  have hboth := InOrder.connect "AND" (by decide) (.cons (fulltext v) (.singleton h))
  have hwhere : FramedBy (Leaf.ofFulltext v ++ a)
      (if condition.isOmitted then Layout.after "WHERE " (ofFulltext v)
        else Layout.after "WHERE "
          (Layout.connect "AND" [ofFulltext v, condition.layout c indexes])) := by
    split
    · rename_i homitted
      cases condition with
      | omitted =>
        have hcovers := (Leaf.Covers.refl (Leaf.ofFulltext v)).append h.covers_nil
        rw [List.append_nil] at hcovers
        exact ((fulltext v).mono hcovers).after (by decide)
      | _ => simp [Condition.isOmitted] at homitted
    · exact hboth.after (by decide)
  cases v with
  | null => exact h.after (by decide)
  | _ => exact hwhere

section

variable (hd : c.dialect.KeepsFree)
include hd

theorem groups (groupBy : Option (List ListedColumn)) :
    FramedBy ((groupBy.getD []).flatMap Leaf.ofColumn)
      (groupBy.elim [] fun names => .text "GROUP BY " :: ofColumns c names) := by
  cases groupBy with
  | none => exact nil
  | some names => exact opened (by decide) (columns hd names)

/-- The fields behind the words of the statement. -/
theorem head (distinct : Bool) (modifier : Option String) (given : List Field) :
    FramedBy (modifier.toList.map .verbatim ++ given.flatMap Leaf.ofField)
      (.text ((if distinct then "SELECT DISTINCT " else "SELECT ") ++ modifier.elim "" (· ++ " ")) ::
        ofFields c given) := by
  have hword : insulates (if distinct then "SELECT DISTINCT " else "SELECT ").toList = true := by
    cases distinct <;> decide
  cases modifier with
  | none =>
    rw [Option.elim_none, String.append_empty]
    exact (fields hd given).opened hword
  | some word =>
    exact fuse (opened hword (behindText word (by decide) (fields hd given)))

/-- Names with commas between them. -/
theorem quotedColumns (columns : List Value) :
    FramedBy (columns.map fun column => .quoted column.display)
      [.text (quotedColumns c columns)] := by
  induction columns with
  | nil => exact fixed free_nil
  | cons column rest ih =>
    have hcolumn := quoted hd column.display
    rw [Layout.quotedColumns] at ih ⊢
    cases rest with
    | nil =>
      simp only [List.map_cons, List.map_nil, String.intercalate_singleton]
      exact hcolumn
    | cons next others =>
      simp only [List.map_cons, String.intercalate_cons_cons] at ih ⊢
      exact fuse (fuse (hcolumn.seam (by decide) ih))

/-- A layout behind names in parentheses. -/
theorem behindColumns {a : List Leaf} {l : Layout} {s : String} (columns : List Value)
    (hs : insulates s.toList) (h : FramedBy a l) :
    FramedBy ((columns.map fun column => .quoted column.display) ++ a)
      (.text ("(" ++ (Layout.quotedColumns c columns ++ s)) :: l) :=
  fuse (opened (by decide) (fuse ((quotedColumns hd columns).seam hs h)))

omit hd in
theorem insulates_amongColumns (negated : Bool) :
    insulates (") " ++ (deny negated "IN" ++ " (")).toList := by
  cases negated <;> decide

theorem membership (indexes : List Index) (negated : Bool) (column : Value)
    (operands : List (Checked Value)) :
    FramedBy (.quoted column.display :: operands.flatMap (Leaf.ofCell indexes column))
      (ofMembership c negated column (operands.map (ofChecked indexes column))) := by
  have hword : insulates (" " ++ (deny negated "IN" ++ " (")).toList = true := by
    cases negated <;> decide
  have hsign : insulates (if negated then "<>" else "=").toList = true := by
    cases negated <;> decide
  have hall : FramedBy (operands.flatMap (Leaf.ofCell indexes column))
      (Layout.join ", " (operands.map (ofChecked indexes column))) :=
    InOrder.join (by decide) (.map _ fun v _ => cell indexes column v)
  match operands with
  | [] => exact nil.mono ((Leaf.Covers.refl []).cons rfl rfl)
  | [v] => exact behindName hd column.display hsign hall
  | v :: w :: rest =>
    have hin := behindName hd column.display hword (hall.closed (s := ")") (by decide))
    rw [← String.append_assoc, ← String.append_assoc] at hin
    exact hin

theorem patterns (negated any : Bool) (column : Value) (escape : Option Value)
    (patterns : List Value) :
    FramedBy (patterns.flatMap fun v => .quoted column.display ::
        Leaf.ofPattern (escape.getD (Like.tableValue c.settings.likeEscape)) v)
      (ofPatterns c negated any column escape patterns) := by
  have hword : insulates (" " ++ (deny negated "LIKE" ++ " ")).toList = true := by
    cases negated <;> decide
  have hseparator : insulates (if any then " OR " else " AND ").toList = true := by
    cases any <;> decide
  refine InOrder.join hseparator (.map _ fun v _ => ?_)
  rw [String.append_assoc, String.append_assoc]
  exact behindName hd column.display hword (pattern _ v)

end

mutual

/-- **A condition is framed around its leaves.** -/
theorem condition (hd : c.dialect.KeepsFree) (hs : insulates c.settings.separator.toList)
    (indexes : List Index) (t : Condition) :
    FramedBy (t.leaves c indexes) (t.layout c indexes) := by
  match t with
  | .omitted | .always => exact nil
  | .never => exact fixed (free_of_notMem (by decide))
  | .malformed f => exact fault f
  | .verbatim sql =>
    simp only [Condition.layout, Condition.leaves, Layout.ofText]
    split
    · exact nil.mono ((Leaf.Covers.refl []).cons rfl rfl)
    · exact verbatim sql
  | .connected connective operands =>
    exact InOrder.connect _ (by cases connective <;> decide) (conditions hd hs indexes operands)
  | .negation operand => exact negation (condition hd hs indexes operand)
  | .record entries => exact record (conditions hd hs indexes entries)
  | .isNull column => exact behindName hd column.display (by decide) nil
  | .equals column operand =>
    exact behindName hd column.display (by decide) (value indexes column operand)
  | .between negated column low high =>
    have hword : insulates (" " ++ (deny negated "BETWEEN" ++ " ")).toList = true := by
      cases negated <;> decide
    simp only [Condition.layout, Condition.leaves, Connection.quoteValue, String.append_assoc]
    exact named (behindName hd column.display hword
      ((value indexes column low).seam (by decide) (value indexes column high))) [column]
  | .among negated column operands =>
    exact named (membership hd indexes negated column operands) [column]
  | .amongRows negated columns rows =>
    have hrows := InOrder.map rows fun row _ =>
      enclose (s := "(") (t := ")") (by decide)
        ((inOrder_zipWith indexes columns row).join (s := ", ") (by decide)) (by decide)
    have hin := (behindColumns hd columns (insulates_amongColumns negated)
      ((hrows.join (s := ", ") (by decide)).closed (s := ")") (by decide))).named columns
    simpa only [Condition.layout, Condition.leaves, ofRows, Layout.enclose, String.append_assoc,
      List.cons_append] using hin
  | .amongSelected negated columns selected =>
    have hin := (behindColumns hd columns (insulates_amongColumns negated)
      ((selection hd hs selected).closed (s := ")") (by decide))).named columns
    simpa only [Condition.layout, Condition.leaves, ofSelected, Layout.enclose,
      String.append_assoc, List.cons_append] using hin
  | .like negated any column escape values =>
    exact (patterns hd negated any column escape values).behindNaming [column]
  | .compared operator column operand =>
    have hright := behindText operator (s := " ") (by decide) (compared operand)
    have hin := fuse (fuse ((quoted hd column.display).seam (s := " ") (by decide) hright))
    rw [← String.append_assoc] at hin
    exact hin.behindNaming [column]

theorem conditions (hd : c.dialect.KeepsFree) (hs : insulates c.settings.separator.toList)
    (indexes : List Index) (ts : List Condition) :
    InOrder (Condition.leavesAll c indexes ts) (Condition.layouts c indexes ts) := by
  match ts with
  | [] => exact .nil
  | t :: rest => exact .cons (condition hd hs indexes t) (conditions hd hs indexes rest)

theorem source (hd : c.dialect.KeepsFree) (hs : insulates c.settings.separator.toList)
    (t : Source) : FramedBy (t.leaves c) (t.layout c) := by
  match t with
  | .index name label => exact labeled hd (by decide) name label
  | .named name label => exact labeled hd (by decide) name label
  | .raw sql params label => exact rawLabeled hd (by decide) sql params label
  | .selection selected label =>
    exact opened (by decide)
      (fuseBehind ((selection hd hs selected).seam (by decide) (quoted hd label)))
  | .unwritable => exact fault _

theorem sources (hd : c.dialect.KeepsFree) (hs : insulates c.settings.separator.toList)
    (ts : List Source) :
    InOrder (Source.leavesAll c ts) (Source.layouts c ts) := by
  match ts with
  | [] => exact .nil
  | t :: rest => exact .cons (source hd hs t) (sources hd hs rest)

/-- **A selection is framed around its leaves.** -/
theorem selection (hd : c.dialect.KeepsFree) (hs : insulates c.settings.separator.toList)
    (t : Selection) : FramedBy (t.leaves c) (t.layout c) := by
  match t with
  | { params, isJoined, distinct, modifier, fields := given, sources := searched,
      fulltext := words, condition := rows, groupBy, within, having := groups', order, limit,
      offset, options := named, facets := counted } =>
    let indexes := c.known (searched.filterMap Source.indexName?)
    have hsources : FramedBy (Source.leavesAll c searched)
        (if searched.isEmpty then []
          else .indexes (searched.filterMap Source.indexName?) :: .text "FROM " ::
            Layout.join ", " (Source.layouts c searched)) := by
      split
      · rename_i hempty
        obtain rfl := List.isEmpty_iff.1 hempty
        exact nil
      · exact FramedBy.indexes _ (opened (by decide) ((sources hd hs searched).join (by decide)))
    have hclauses := InOrder.cons (head hd distinct modifier given)
      (.cons hsources
      (.cons (filter indexes words (condition hd hs indexes rows))
      (.cons (groups hd groupBy)
      (.cons (ordering hd "WITHIN GROUP ORDER BY" (by decide) false within)
      (.cons ((condition hd hs indexes groups').after (s := "HAVING ") (by decide))
      (.cons (ordering hd "ORDER BY" (by decide) true order)
      (.cons (window c limit offset)
      (.cons (options named)
      (.singleton (facets hd hs counted))))))))))
    have hjoined := hclauses.joinPresent hs
    simp only [List.append_assoc, List.nil_append] at hjoined
    simp only [Selection.leaves, Selection.layout, List.append_assoc]
    refine merge params ?_
    split
    · exact fault _
    · exact hjoined

end

end SearchSql.Layout.FramedBy
