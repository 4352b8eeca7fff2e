import SearchSql.Layout.Selection
import SearchSql.Proofs.Dialect.Clause

/-!
# Conditions and selections without back-quotes

A condition or a selection that is laid out for a dialect with quotes is, without its
back-quotes, the one that is laid out for the dialect without quotes. The induction is on
the condition or the selection, one case for each form.

## Main statements

* `Layout.unquoted_condition`, `Layout.unquoted_selection` — the layouts differ in back-quotes
  only.
-/
namespace SearchSql.Layout

open Leaf (AllBare)

variable {c : Connection}

theorem unquote_deny (negated : Bool) {keyword : String} (h : Bare keyword) :
    unquote (deny negated keyword) = deny negated keyword := by
  cases negated
  · exact unquote_of_bare h
  · exact unquote_of_bare (bare_append.2 ⟨by decide, h⟩)

theorem unquoted_ofRecord (ls : List Layout) :
    (ofRecord ls).unquoted = ofRecord (ls.map unquoted) := by
  have hword : unquote "AND" = "AND" := unquote_of_bare (by decide)
  match ls with
  | [] => simp [ofRecord, hword]
  | [l] => rfl
  | l :: r :: rest => simp [ofRecord, hword]

/-- The full-text query stands in front of the condition. -/
theorem unquoted_ofFilter {fulltext : Value}
    (h : AllBare (if fulltext.isNull then [] else Leaf.ofFulltext fulltext)) (isOmitted : Bool)
    (condition : Layout) :
    (ofFilter fulltext isOmitted condition).unquoted =
      ofFilter fulltext isOmitted condition.unquoted := by
  have hwhere : unquote "WHERE " = "WHERE " := unquote_of_bare (by decide)
  have hand : unquote "AND" = "AND" := unquote_of_bare (by decide)
  cases fulltext with
  | null => simp [ofFilter, hwhere]
  | _ =>
    simp only [Value.isNull, Bool.false_eq_true, if_false] at h
    simp only [ofFilter]
    split <;> simp [hwhere, hand, unquoted_ofFulltext h]

/-- Cells under columns, side by side. -/
theorem map_unquoted_zipWith {indexes : List Index} {columns : List Value}
    {row : List (Checked Value)}
    (h : AllBare (columns.zipWith (Leaf.ofCell indexes) row).flatten) :
    (columns.zipWith (ofChecked indexes) row).map unquoted =
      columns.zipWith (ofChecked indexes) row := by
  induction columns generalizing row with
  | nil => rfl
  | cons column columns ih =>
    cases row with
    | nil => rfl
    | cons v row =>
      obtain ⟨hv, hrest⟩ := Leaf.allBare_append.1 h
      simp [unquoted_ofChecked hv, ih hrest]

section

variable (hd : c.dialect.OnlyQuotes)
include hd

theorem unquote_quoteValue {v : Value} (h : Bare v.display) :
    unquote (c.quoteValue v) = v.display :=
  Connection.unquote_quote hd h

theorem unquote_quotedColumns {columns : List Value} (h : ∀ column ∈ columns, Bare column.display) :
    unquote (quotedColumns c columns) = quotedColumns c.unquoted columns := by
  have hcolumns : (columns.map c.quoteValue).map unquote = columns.map c.unquoted.quoteValue := by
    rw [List.map_map]
    refine List.map_congr_left fun column hcolumn => ?_
    rw [Function.comp_apply, unquote_quoteValue hd (h column hcolumn),
      Connection.quoteValue_unquoted]
  rw [quotedColumns, unquote_intercalate, hcolumns, unquote_of_bare (by decide), quotedColumns]

/-- The names of columns in front of what they are compared with. -/
theorem unquote_columnsHead (negated : Bool) {columns : List Value}
    (h : ∀ column ∈ columns, Bare column.display) :
    unquote ("(" ++ quotedColumns c columns ++ ") " ++ deny negated "IN" ++ " (") =
      "(" ++ quotedColumns c.unquoted columns ++ ") " ++ deny negated "IN" ++ " (" := by
  simp (disch := decide) only [unquote_append, unquote_quotedColumns hd h, unquote_of_bare,
    unquote_deny]

theorem unquoted_ofMembership (indexes : List Index) (negated : Bool) {column : Value}
    (hcolumn : Bare column.display) {operands : List (Checked Value)}
    (h : ∀ v ∈ operands, AllBare (Leaf.ofCell indexes column v)) :
    (ofMembership c negated column (operands.map (ofChecked indexes column))).unquoted =
      ofMembership c.unquoted negated column (operands.map (ofChecked indexes column)) := by
  have hname : unquote (c.quoteValue column) = column.display := unquote_quoteValue hd hcolumn
  have hsign : unquote (if negated then "<>" else "=") = if negated then "<>" else "=" :=
    unquote_of_bare (by cases negated <;> decide)
  match operands with
  | [] => rfl
  | [v] =>
    have hv := h v (List.mem_cons_self ..)
    simp [ofMembership, Piece.unquoted, hname, hsign, unquoted_ofChecked hv]
  | v :: w :: rest =>
    have hall := map_unquoted fun v hv => unquoted_ofChecked (h v hv)
    simp only [List.map_cons] at hall
    simp only [List.map_cons, ofMembership, unquoted_enclose, unquoted_join, hall]
    simp (disch := decide) [hname, unquote_of_bare, unquote_deny]

theorem unquoted_ofPatterns (negated any : Bool) {column : Value} {escape : Option Value}
    {patterns : List Value}
    (h : ∀ pattern ∈ patterns, Bare column.display ∧
      AllBare (Leaf.ofPattern (escape.getD (Like.tableValue c.settings.likeEscape)) pattern)) :
    (ofPatterns c negated any column escape patterns).unquoted =
      ofPatterns c.unquoted negated any column escape patterns := by
  have hword : unquote (if any then " OR " else " AND ") = if any then " OR " else " AND " :=
    unquote_of_bare (by cases any <;> decide)
  unfold ofPatterns
  rw [unquoted_join, hword, map_unquoted]
  intro pattern hpattern
  obtain ⟨hcolumn, hv⟩ := h pattern hpattern
  simp (disch := decide) [Piece.unquoted, unquote_quoteValue hd hcolumn, unquote_of_bare,
    unquote_deny, unquoted_ofPattern hv]

theorem unquoted_groups {groupBy : Option (List ListedColumn)}
    (h : AllBare ((groupBy.getD []).flatMap Leaf.ofColumn)) :
    (groupBy.elim [] fun columns => .text "GROUP BY " :: ofColumns c columns : Layout).unquoted =
      groupBy.elim [] fun columns => .text "GROUP BY " :: ofColumns c.unquoted columns := by
  cases groupBy with
  | none => rfl
  | some columns =>
    rw [Option.getD_some] at h
    simp (disch := decide) [Piece.unquoted, unquote_of_bare, unquoted_ofColumns hd h]

omit hd in
/-- The words in front of the fields. -/
theorem unquote_head (distinct : Bool) {modifier : Option String}
    (h : ∀ word ∈ modifier.toList, (Leaf.verbatim word).Bare) :
    unquote ((if distinct then "SELECT DISTINCT " else "SELECT ") ++
        modifier.elim "" (· ++ " ")) =
      (if distinct then "SELECT DISTINCT " else "SELECT ") ++ modifier.elim "" (· ++ " ") := by
  refine unquote_of_bare (bare_append.2 ⟨by cases distinct <;> decide, ?_⟩)
  cases modifier with
  | none => decide
  | some word => exact bare_append.2 ⟨h word (by simp), by decide⟩

end

mutual

/-- **The layouts of a condition differ in back-quotes only.** -/
theorem unquoted_condition (hd : c.dialect.OnlyQuotes) (hs : Bare c.settings.separator)
    (indexes : List Index) (t : Condition) (h : AllBare (t.leaves c indexes)) :
    (t.layout c indexes).unquoted = t.layout c.unquoted indexes := by
  match t with
  | .omitted | .always | .malformed f => rfl
  | .never => exact congrArg (fun s => [Piece.text s]) (unquote_of_bare (by decide))
  | .verbatim sql =>
    exact unquoted_ofText (by simpa [Condition.leaves] using h)
  | .connected connective operands =>
    have hword : unquote connective.word = connective.word :=
      unquote_of_bare (by cases connective <;> decide)
    simp [Condition.layout, hword, map_unquoted_conditions hd hs indexes operands h]
  | .negation operand =>
    have hoperand := unquoted_condition hd hs indexes operand h
    simp only [Condition.layout, ← hoperand, isEmpty_unquoted]
    split
    · rfl
    · simp (disch := decide) [unquote_of_bare]
  | .record entries =>
    simp [Condition.layout, unquoted_ofRecord, map_unquoted_conditions hd hs indexes entries h]
  | .isNull column =>
    have hcolumn : Bare column.display := by simpa [Condition.leaves] using h
    simp (disch := decide) [Condition.layout, Piece.unquoted, unquote_quoteValue hd hcolumn,
      unquote_of_bare]
  | .equals column operand =>
    obtain ⟨hcolumn, hv⟩ := Leaf.allBare_cons.1 h
    simp (disch := decide) [Condition.layout, Piece.unquoted,
      unquote_quoteValue hd (Leaf.bare_quoted.1 hcolumn), unquote_of_bare, unquoted_ofValue hv]
  | .between negated column low high =>
    obtain ⟨hcolumn, hbounds⟩ := Leaf.allBare_cons.1 h
    obtain ⟨hlow, hhigh⟩ := Leaf.allBare_append.1 hbounds
    simp (disch := decide) [Condition.layout, Piece.unquoted,
      unquote_quoteValue hd (Leaf.bare_quoted.1 hcolumn), unquote_of_bare, unquote_deny,
      unquoted_ofValue hlow, unquoted_ofValue hhigh]
  | .among negated column operands =>
    obtain ⟨hcolumn, hoperands⟩ := Leaf.allBare_cons.1 h
    rw [Condition.layout, Condition.layout, unquoted_append, unquoted_naming,
      unquoted_ofMembership hd indexes negated hcolumn (Leaf.allBare_flatMap.1 hoperands)]
  | .amongRows negated columns rows =>
    obtain ⟨hcolumns, hrows⟩ := Leaf.allBare_append.1 h
    rw [Leaf.allBare_map] at hcolumns
    rw [Leaf.allBare_flatMap] at hrows
    have hmap := map_unquoted
      (f := fun row => enclose "(" (Layout.join ", " (columns.zipWith (ofChecked indexes) row)) ")")
      (g := fun row => enclose "(" (Layout.join ", " (columns.zipWith (ofChecked indexes) row)) ")")
      (s := rows) <| by
        intro row hrow
        simp (disch := decide) [map_unquoted_zipWith (hrows row hrow), unquote_of_bare]
    simp only [Condition.layout, ofRows, unquoted_append, unquoted_naming, unquoted_enclose,
      unquoted_join, hmap, unquote_columnsHead hd negated hcolumns]
    simp (disch := decide) only [unquote_of_bare]
  | .amongSelected negated columns selection =>
    obtain ⟨hcolumns, hselection⟩ := Leaf.allBare_append.1 h
    rw [Leaf.allBare_map] at hcolumns
    simp only [Condition.layout, ofSelected, unquoted_append, unquoted_naming, unquoted_enclose,
      unquote_columnsHead hd negated hcolumns, unquoted_selection hd hs selection hselection]
    simp (disch := decide) only [unquote_of_bare]
  | .like negated any column escape patterns =>
    have hpatterns := unquoted_ofPatterns hd negated any fun pattern hpattern =>
      Leaf.allBare_cons.1 (Leaf.allBare_flatMap.1 h pattern hpattern)
    rw [Condition.layout, Condition.layout, unquoted_append, unquoted_naming, hpatterns]
  | .compared operator column operand =>
    obtain ⟨hcolumn, hrest⟩ := Leaf.allBare_cons.1 h
    obtain ⟨hoperator, hv⟩ := Leaf.allBare_cons.1 hrest
    rw [Leaf.bare_verbatim] at hoperator
    simp (disch := first | assumption | decide) [Condition.layout, Piece.unquoted,
      unquote_quoteValue hd (Leaf.bare_quoted.1 hcolumn), unquote_of_bare, unquoted_ofCompared hv]

theorem map_unquoted_conditions (hd : c.dialect.OnlyQuotes) (hs : Bare c.settings.separator)
    (indexes : List Index) (ts : List Condition) (h : AllBare (Condition.leavesAll c indexes ts)) :
    (Condition.layouts c indexes ts).map unquoted = Condition.layouts c.unquoted indexes ts := by
  match ts with
  | [] => rfl
  | t :: rest =>
    obtain ⟨ht, hrest⟩ := Leaf.allBare_append.1 h
    simp [Condition.layouts, unquoted_condition hd hs indexes t ht,
      map_unquoted_conditions hd hs indexes rest hrest]

theorem unquoted_source (hd : c.dialect.OnlyQuotes) (hs : Bare c.settings.separator) (t : Source)
    (h : AllBare (t.leaves c)) : (t.layout c).unquoted = t.layout c.unquoted := by
  match t with
  | .index name label => exact unquoted_ofLabeled hd (by decide) h
  | .named name label => exact unquoted_ofLabeled hd (by decide) h
  | .raw sql params label => exact unquoted_ofRawLabeled hd (by decide) h
  | .selection selection label =>
    obtain ⟨hselection, hlabel⟩ := Leaf.allBare_append.1 h
    have hlabel : Bare label := by simpa using hlabel
    simp (disch := decide) [Source.layout, unquoted_selection hd hs selection hselection,
      unquote_of_bare, Connection.unquote_quote hd hlabel]
  | .unwritable => rfl

theorem map_unquoted_sources (hd : c.dialect.OnlyQuotes) (hs : Bare c.settings.separator)
    (ts : List Source) (h : AllBare (Source.leavesAll c ts)) :
    (Source.layouts c ts).map unquoted = Source.layouts c.unquoted ts := by
  match ts with
  | [] => rfl
  | t :: rest =>
    obtain ⟨ht, hrest⟩ := Leaf.allBare_append.1 h
    simp [Source.layouts, unquoted_source hd hs t ht, map_unquoted_sources hd hs rest hrest]

/-- **The layouts of a selection differ in back-quotes only.** -/
theorem unquoted_selection (hd : c.dialect.OnlyQuotes) (hs : Bare c.settings.separator)
    (t : Selection) (h : AllBare (t.leaves c)) :
    (t.layout c).unquoted = t.layout c.unquoted := by
  match t with
  | { params, isJoined, distinct, modifier, fields, sources, fulltext, condition, groupBy, within,
      having, order, limit, offset, options, facets } =>
    simp only [Selection.leaves, Leaf.allBare_cons] at h
    obtain ⟨-, h⟩ := h
    simp only [Selection.layout, unquoted_cons]
    refine congrArg₂ List.cons rfl ?_
    split
    · rfl
    · rename_i hjoined
      rw [if_neg hjoined] at h
      simp only [Leaf.allBare_append, Leaf.allBare_map] at h
      obtain ⟨⟨⟨⟨⟨⟨⟨⟨⟨⟨hmodifier, hfields⟩, hsources⟩, hfulltext⟩, hcondition⟩, hgroups⟩, hwithin⟩,
        hhaving⟩, horder⟩, hoptions⟩, hfacets⟩ := h
      have hfrom : (if sources.isEmpty then []
          else .indexes (sources.filterMap Source.indexName?) :: .text "FROM " ::
            Layout.join ", " (Source.layouts c sources) : Layout).unquoted =
          if sources.isEmpty then []
          else .indexes (sources.filterMap Source.indexName?) :: .text "FROM " ::
            Layout.join ", " (Source.layouts c.unquoted sources) := by
        split
        · rfl
        · simp (disch := decide) [Piece.unquoted, unquote_of_bare,
            map_unquoted_sources hd hs sources hsources]
      rw [unquoted_joinPresent, unquote_of_bare hs]
      simp only [List.map_cons, List.map_nil, unquoted_cons, Piece.unquoted,
        unquote_head distinct hmodifier, unquoted_ofFields hd hfields, hfrom,
        unquoted_ofFilter hfulltext, unquoted_condition hd hs _ condition hcondition,
        unquoted_groups hd hgroups, unquoted_ofWithin hd hwithin, unquoted_after,
        unquote_of_bare (s := "HAVING ") (by decide), unquoted_condition hd hs _ having hhaving, unquoted_ofOrder hd horder, unquoted_ofWindow,
        unquoted_ofOptions hoptions, unquoted_ofFacets hd hs hfacets,
        Connection.settings_unquoted, Connection.known_unquoted]

end

end SearchSql.Layout
