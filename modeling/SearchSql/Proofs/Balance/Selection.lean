import SearchSql.Proofs.Balance.Clause

/-!
# Conditions and selections with balanced parentheses

Operands of a connective, lists of values, rows and nested selections stand in parentheses of
their own. The induction is on the condition or the selection, one case for each form.

## Main statements

* `Layout.Leads.condition`, `Layout.Leads.selection` — balanced if what is supplied is.
-/
namespace SearchSql.Layout.Leads

open Parens (Balanced balanced_iff_leads)
open Leaf (AllBalanced)

variable {c : Connection}

theorem ofRecord {ls : List Layout} (h : ∀ l ∈ ls, Leads 0 0 l) :
    Leads 0 0 (Layout.ofRecord ls) := by
  match ls with
  | [] => exact nil 0
  | [l] => exact h l (List.mem_singleton_self l)
  | l :: r :: rest => exact connect (by decide) h

/-- The full-text query stands in front of the condition. -/
theorem ofFilter {fulltext : Value}
    (h : AllBalanced (if fulltext.isNull then [] else Leaf.ofFulltext fulltext)) (isOmitted : Bool)
    {condition : Layout} (hc : Leads 0 0 condition) :
    Leads 0 0 (Layout.ofFilter fulltext isOmitted condition) := by
  cases fulltext with
  | null => exact after (by decide) hc
  | _ =>
    simp only [Value.isNull, Bool.false_eq_true, if_false] at h
    simp only [Layout.ofFilter]
    split
    · exact after (by decide) (ofFulltext h)
    · refine after (by decide) (connect (by decide) ?_)
      simp only [List.forall_mem_cons]
      exact ⟨ofFulltext h, hc, List.forall_mem_nil _⟩

/-- Cells under columns, side by side. -/
theorem forall_mem_zipWith {indexes : List Index} {columns : List Value}
    {row : List (Checked Value)}
    (h : AllBalanced (columns.zipWith (Leaf.ofCell indexes) row).flatten) :
    ∀ l ∈ columns.zipWith (Layout.ofChecked indexes) row, Leads 0 0 l := by
  induction columns generalizing row with
  | nil => exact List.forall_mem_nil _
  | cons column columns ih =>
    cases row with
    | nil => exact List.forall_mem_nil _
    | cons v row =>
      obtain ⟨hv, hrest⟩ := Leaf.allBalanced_append.1 h
      exact List.forall_mem_cons.2 ⟨ofChecked hv, ih hrest⟩

section

variable (hd : c.dialect.KeepsBalance)
include hd

theorem quotedColumns {columns : List Value}
    (h : AllBalanced (columns.map fun column => .quoted column.display)) :
    Parens.Leads 0 0 (Layout.quotedColumns c columns).toList := by
  rw [Leaf.allBalanced_map] at h
  rw [Layout.quotedColumns, String.toList_intercalate]
  refine Dialect.leads_intercalate (by decide) fun part hpart => ?_
  obtain ⟨name, hname, rfl⟩ := List.mem_map.1 hpart
  obtain ⟨column, hcolumn, rfl⟩ := List.mem_map.1 hname
  exact quoted hd (h column hcolumn)

/-- The names of columns in front of what they are compared with. -/
theorem columnsHead (negated : Bool) {columns : List Value}
    (h : AllBalanced (columns.map fun column => .quoted column.display)) :
    Parens.Leads 0 1
      ("(" ++ Layout.quotedColumns c columns ++ ") " ++ deny negated "IN" ++ " (").toList := by
  have hopen : Parens.Leads 0 1 "(".toList := by decide
  have hword : Parens.Leads 0 0 (deny negated "IN").toList := by cases negated <;> decide
  exact (((hopen.concat ((quotedColumns hd h).level 1)).concat (by decide)).concat hword).concat
    (by decide)

theorem ofMembership (indexes : List Index) (negated : Bool) {column : Value}
    (hcolumn : (Leaf.quoted column.display).Balanced) {operands : List (Checked Value)}
    (h : AllBalanced (operands.flatMap (Leaf.ofCell indexes column))) :
    Leads 0 0
      (Layout.ofMembership c negated column (operands.map (Layout.ofChecked indexes column))) := by
  have hname : Parens.Leads 0 0 (c.quoteValue column).toList := quoted hd hcolumn
  have hsign : Parens.Leads 0 0 (if negated then "<>" else "=").toList := by
    cases negated <;> decide
  have hword : Parens.Leads 0 0 (deny negated "IN").toList := by cases negated <;> decide
  have hall : ∀ l ∈ operands.map (Layout.ofChecked indexes column), Leads 0 0 l := by
    intro l hl
    obtain ⟨v, hv, rfl⟩ := List.mem_map.1 hl
    exact ofChecked (Leaf.allBalanced_flatMap.1 h v hv)
  match operands with
  | [] => exact nil 0
  | [v] => exact text (hname.concat hsign) (hall _ (List.mem_singleton_self _))
  | v :: w :: rest =>
    have hhead : Parens.Leads 0 1
        (c.quoteValue column ++ " " ++ deny negated "IN" ++ " (").toList :=
      ((hname.concat (by decide)).concat hword).concat (by decide)
    exact enclose hhead (join (by decide) hall) (by decide)

theorem ofPatterns (negated any : Bool) {column : Value} {escape : Option Value}
    {patterns : List Value}
    (h : AllBalanced (patterns.flatMap fun pattern => .quoted column.display ::
      Leaf.ofPattern (escape.getD (Like.tableValue c.settings.likeEscape)) pattern)) :
    Leads 0 0 (Layout.ofPatterns c negated any column escape patterns) := by
  have hseparator : Parens.Leads 0 0 (if any then " OR " else " AND ").toList := by
    cases any <;> decide
  have hword : Parens.Leads 0 0 (deny negated "LIKE").toList := by cases negated <;> decide
  refine join hseparator fun l hl => ?_
  obtain ⟨pattern, hpattern, rfl⟩ := List.mem_map.1 hl
  obtain ⟨hcolumn, hv⟩ := Leaf.allBalanced_cons.1 (Leaf.allBalanced_flatMap.1 h pattern hpattern)
  exact text ((((quoted hd hcolumn).concat (by decide)).concat hword).concat (by decide))
    (ofPattern hv)

theorem groups {groupBy : Option (List ListedColumn)}
    (h : AllBalanced ((groupBy.getD []).flatMap Leaf.ofColumn)) :
    Leads 0 0 (groupBy.elim [] fun columns => .text "GROUP BY " :: Layout.ofColumns c columns) := by
  cases groupBy with
  | none => exact nil 0
  | some columns => exact (ofColumns hd h).text (by decide)

/-- The fields behind the words of the statement. -/
theorem head (distinct : Bool) {modifier : Option String} {fields : List Field}
    (hmodifier : AllBalanced (modifier.toList.map .verbatim))
    (hfields : AllBalanced (fields.flatMap Leaf.ofField)) :
    Leads 0 0 (.text ((if distinct then "SELECT DISTINCT " else "SELECT ") ++
      modifier.elim "" (· ++ " ")) :: Layout.ofFields c fields) := by
  have hword : Parens.Leads 0 0 (if distinct then "SELECT DISTINCT " else "SELECT ").toList := by
    cases distinct <;> decide
  refine (ofFields hd hfields).text (hword.concat ?_)
  cases modifier with
  | none => decide
  | some word =>
    exact (balanced_iff_leads.1 (Leaf.allBalanced_cons.1 hmodifier).1).concat (by decide)

end

mutual

/-- **A condition is balanced if what is supplied is.** -/
theorem condition (hd : c.dialect.KeepsBalance) (hs : Parens.Leads 0 0 c.settings.separator.toList)
    (indexes : List Index) (t : Condition) (h : AllBalanced (t.leaves c indexes)) :
    Leads 0 0 (t.layout c indexes) := by
  match t with
  | .omitted | .always => exact nil 0
  | .never => exact fixed (by decide)
  | .malformed f => exact fault f
  | .verbatim sql => exact ofText (Leaf.allBalanced_cons.1 h).1
  | .connected connective operands =>
    exact connect (by cases connective <;> decide) (conditions hd hs indexes operands h)
  | .negation operand =>
    have hoperand := condition hd hs indexes operand h
    simp only [Condition.layout]
    split
    · exact nil 0
    · exact enclose (n := 1) (by decide) (hoperand.level 1) (by decide)
  | .record entries => exact ofRecord (conditions hd hs indexes entries h)
  | .isNull column => exact fixed ((quoted hd (Leaf.allBalanced_cons.1 h).1).concat (by decide))
  | .equals column operand =>
    obtain ⟨hcolumn, hv⟩ := Leaf.allBalanced_cons.1 h
    exact (ofValue hv).text ((quoted hd hcolumn).concat (by decide))
  | .between negated column low high =>
    obtain ⟨hcolumn, hbounds⟩ := Leaf.allBalanced_cons.1 h
    obtain ⟨hlow, hhigh⟩ := Leaf.allBalanced_append.1 hbounds
    have hword : Parens.Leads 0 0 (deny negated "BETWEEN").toList := by cases negated <;> decide
    exact (((ofValue hlow).append ((ofValue hhigh).text (by decide))).text
      ((((quoted hd hcolumn).concat (by decide)).concat hword).concat (by decide))).append
        (naming [column])
  | .among negated column operands =>
    obtain ⟨hcolumn, hoperands⟩ := Leaf.allBalanced_cons.1 h
    exact (ofMembership hd indexes negated hcolumn hoperands).append (naming [column])
  | .amongRows negated columns rows =>
    obtain ⟨hcolumns, hrows⟩ := Leaf.allBalanced_append.1 h
    refine (enclose (columnsHead hd negated hcolumns) (join (by decide) fun l hl => ?_)
      (by decide)).append (naming columns)
    obtain ⟨row, hrow, rfl⟩ := List.mem_map.1 hl
    exact enclose (n := 1) (by decide) (join (by decide)
      (forall_mem_zipWith (Leaf.allBalanced_flatMap.1 hrows row hrow))) (by decide)
  | .amongSelected negated columns selected =>
    obtain ⟨hcolumns, hselected⟩ := Leaf.allBalanced_append.1 h
    exact (enclose (columnsHead hd negated hcolumns) ((selection hd hs selected hselected).level 1)
      (by decide)).append (naming columns)
  | .like negated any column escape patterns =>
    exact (naming [column]).append (ofPatterns hd negated any h)
  | .compared operator column operand =>
    obtain ⟨hcolumn, hrest⟩ := Leaf.allBalanced_cons.1 h
    obtain ⟨hoperator, hv⟩ := Leaf.allBalanced_cons.1 hrest
    exact (naming [column]).append ((ofCompared hv).text ((((quoted hd hcolumn).concat
      (by decide)).concat (balanced_iff_leads.1 hoperator)).concat (by decide)))

theorem conditions (hd : c.dialect.KeepsBalance)
    (hs : Parens.Leads 0 0 c.settings.separator.toList) (indexes : List Index)
    (ts : List Condition) (h : AllBalanced (Condition.leavesAll c indexes ts)) :
    ∀ l ∈ Condition.layouts c indexes ts, Leads 0 0 l := by
  match ts with
  | [] => exact List.forall_mem_nil _
  | t :: rest =>
    obtain ⟨ht, hrest⟩ := Leaf.allBalanced_append.1 h
    exact List.forall_mem_cons.2 ⟨condition hd hs indexes t ht, conditions hd hs indexes rest hrest⟩

theorem source (hd : c.dialect.KeepsBalance) (hs : Parens.Leads 0 0 c.settings.separator.toList)
    (t : Source) (h : AllBalanced (t.leaves c)) : Leads 0 0 (t.layout c) := by
  match t with
  | .index name label => exact ofLabeled hd (by decide) h
  | .named name label => exact ofLabeled hd (by decide) h
  | .raw sql params label => exact ofRawLabeled hd (by decide) h
  | .selection selected label =>
    obtain ⟨hselected, hlabel⟩ := Leaf.allBalanced_append.1 h
    have hclose : Parens.Leads 1 0 ") ".toList := by decide
    exact enclose (by decide) ((selection hd hs selected hselected).level 1)
      (hclose.concat (quoted hd (Leaf.allBalanced_cons.1 hlabel).1))
  | .unwritable => exact fault _

theorem sources (hd : c.dialect.KeepsBalance) (hs : Parens.Leads 0 0 c.settings.separator.toList)
    (ts : List Source) (h : AllBalanced (Source.leavesAll c ts)) :
    ∀ l ∈ Source.layouts c ts, Leads 0 0 l := by
  match ts with
  | [] => exact List.forall_mem_nil _
  | t :: rest =>
    obtain ⟨ht, hrest⟩ := Leaf.allBalanced_append.1 h
    exact List.forall_mem_cons.2 ⟨source hd hs t ht, sources hd hs rest hrest⟩

/-- **A selection is balanced if what is supplied is.** -/
theorem selection (hd : c.dialect.KeepsBalance)
    (hs : Parens.Leads 0 0 c.settings.separator.toList) (t : Selection)
    (h : AllBalanced (t.leaves c)) : Leads 0 0 (t.layout c) := by
  match t with
  | { params, isJoined, distinct, modifier, fields, sources := searched, fulltext,
      condition := rows, groupBy, within, having := grouped, order, limit, offset, options,
      facets } =>
    simp only [Selection.leaves, Leaf.allBalanced_cons] at h
    obtain ⟨-, h⟩ := h
    simp only [Selection.layout]
    refine merge params ?_
    split
    · exact fault _
    · rename_i hjoined
      rw [if_neg hjoined] at h
      simp only [Leaf.allBalanced_append] at h
      obtain ⟨⟨⟨⟨⟨⟨⟨⟨⟨⟨hmodifier, hfields⟩, hsources⟩, hfulltext⟩, hcondition⟩, hgroups⟩, hwithin⟩,
        hhaving⟩, horder⟩, hoptions⟩, hfacets⟩ := h
      have hfrom : Leads 0 0 (if searched.isEmpty then []
          else .indexes (searched.filterMap Source.indexName?) :: .text "FROM " ::
            Layout.join ", " (Source.layouts c searched)) := by
        split
        · exact nil 0
        · exact indexes _ (text (n := 0) (by decide)
            (join (by decide) (sources hd hs searched hsources)))
      refine joinPresent hs ?_
      simp only [List.forall_mem_cons]
      exact ⟨head hd distinct hmodifier hfields, hfrom,
        ofFilter hfulltext _ (condition hd hs _ rows hcondition), groups hd hgroups,
        ofOrdering hd (by decide) hwithin,
        after (by decide) (condition hd hs _ grouped hhaving), ofOrdering hd (by decide) horder,
        ofWindow limit offset, ofOptions hoptions, ofFacets hd hs hfacets,
        List.forall_mem_nil _⟩

end

end SearchSql.Layout.Leads
