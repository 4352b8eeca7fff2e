import SearchSql.Proofs.Masking.Layout

/-!
# Conditions and selections without their data

Masking a condition, or a query with all its sub-queries, changes only the hidden part of
its layout: the induction is on the value that describes it, one case for each form.

## Main statements

* `Layout.hidden_condition` — a condition.
* `Layout.hidden_selection` — a query without the statement for its statistics.
-/
namespace SearchSql.Layout

variable (c : Connection)

/-! ## Forms of conditions -/

@[simp] theorem hidden_ofMembership (negated : Bool) (column : Value) (ls : List Layout) :
    (ofMembership c negated column ls).hidden = ofMembership c negated column (ls.map hidden) := by
  match ls with
  | [] => rfl
  | [l] => simp [ofMembership, Piece.hidden]
  | l :: r :: rest => simp [ofMembership, Piece.hidden]

@[simp] theorem hidden_ofRows (negated : Bool) (columns : List Value) (rows : List Layout) :
    (ofRows c negated columns rows).hidden = ofRows c negated columns (rows.map hidden) := by
  simp [ofRows]

@[simp] theorem hidden_ofSelected (negated : Bool) (columns : List Value) (l : Layout) :
    (ofSelected c negated columns l).hidden = ofSelected c negated columns l.hidden := by
  simp [ofSelected]

@[simp] theorem hidden_ofRecord (ls : List Layout) :
    (ofRecord ls).hidden = ofRecord (ls.map hidden) := by
  match ls with
  | [] => rfl
  | [l] => rfl
  | l :: r :: rest => simp [ofRecord]

/-! ## Values of rows -/

theorem get?_maskedPairs (key : Value) (row : Mapping) :
    Mapping.get? key (Value.maskedPairs row) = (Mapping.get? key row).map Value.masked := by
  induction row with
  | nil => rfl
  | cons pair rest ih =>
    obtain ⟨k, v⟩ := pair
    by_cases h : k.sameKey key = true
    · simp [Value.maskedPairs, Mapping.get?, h]
    · simpa [Value.maskedPairs, Mapping.get?, h] using ih

/-- The value of a row under a column is masked with the row. -/
theorem cell_maskedPairs (column : Value) (row : Mapping) :
    Mapping.cell column (Value.maskedPairs row) = (Mapping.cell column row).map Value.masked := by
  unfold Mapping.cell
  split
  · rw [get?_maskedPairs]
    cases Mapping.get? column row <;> rfl
  · rfl

theorem cell_masked (column v : Value) :
    Value.cell column v.masked = (Value.cell column v).map Value.masked := by
  cases v with
  | map row => exact cell_maskedPairs column row
  | _ => rfl

@[simp] theorem hidden_ofChecked_map (indexes : List Index) (column : Value) (v : Checked Value) :
    (ofChecked indexes column (v.map Value.masked)).hidden =
      (ofChecked indexes column v).hidden := by
  cases v <;> simp [ofChecked, Except.map]

/-- A row that is no mapping is a fault, masked or not. -/
theorem zipWith_hidden_rowOf (indexes : List Index) (keyword : String) (columns : List Value)
    (v : Value) :
    columns.zipWith (fun column cell => (ofChecked indexes column cell).hidden)
        (Condition.rowOf keyword columns v.masked) =
      columns.zipWith (fun column cell => (ofChecked indexes column cell).hidden)
        (Condition.rowOf keyword columns v) := by
  cases v with
  | map row => simp [Value.masked, Condition.rowOf, cell_maskedPairs, List.zipWith_map_right]
  | _ => cases columns <;> simp [Value.masked, Condition.rowOf, ofChecked, Piece.hidden]

theorem hidden_amongValues (negated : Bool) (indexes : List Index) (column : Value)
    (values : List Value) :
    ((Condition.amongValues negated column (Value.maskedAll values)).layout c indexes).hidden =
      ((Condition.amongValues negated column values).layout c indexes).hidden := by
  rw [maskedAll_eq_map]
  unfold Condition.amongValues
  split
  · simp [Condition.layout, Function.comp_def, cell_masked]
  · simp [Condition.layout, Function.comp_def, zipWith_hidden_rowOf]

/-! ## Operands -/

@[simp] theorem isNull_masked (v : Value) : v.masked.isNull = v.isNull := by
  cases v <;> rfl

@[simp] theorem members?_masked (v : Value) :
    v.masked.members? = v.members?.map Value.maskedAll := by
  cases v <;> simp [Value.masked, Value.members?]

theorem hidden_ofPatterns (negated any : Bool) (column : Value) (escape : Option Value)
    (patterns : List Value) :
    (ofPatterns c negated any column escape (Value.maskedAll patterns)).hidden =
      (ofPatterns c negated any column escape patterns).hidden := by
  simp [ofPatterns, maskedAll_eq_map, Function.comp_def]

theorem hidden_conditionOfPatterns (indexes : List Index) (operator : Operator)
    (negated any : Bool) (operands : List Value) :
    ((Condition.ofPatterns operator negated any (Value.maskedSecond operands)).layout c
      indexes).hidden =
      ((Condition.ofPatterns operator negated any operands).layout c indexes).hidden := by
  match operands with
  | [] | [_] => rfl
  | column :: values :: rest =>
    simp only [Value.maskedSecond, Condition.ofPatterns, isNull_masked, members?_masked]
    split
    · rfl
    · cases values.members? with
      | none => simpa [Condition.layout, Value.maskedAll] using hidden_ofPatterns c negated any column _ [values]
      | some items =>
        cases items with
        | nil => rfl
        | cons first others =>
          simpa [Condition.layout, Value.maskedAll] using
            hidden_ofPatterns c negated any column _ (first :: others)

theorem hidden_ofBounds (indexes : List Index) (negated : Bool) (operands : List Value) :
    ((Condition.ofBounds negated (Value.maskedOperands operands)).layout c indexes).hidden =
      ((Condition.ofBounds negated operands).layout c indexes).hidden := by
  match operands with
  | [] | [_] | [_, _] => rfl
  | [column, low, high] =>
    simp only [Value.maskedOperands, Value.maskedAll, Condition.ofBounds, isNull_masked]
    split
    · rfl
    · simp [Condition.layout, Piece.hidden]
  | _ :: _ :: _ :: _ :: _ => rfl

theorem hidden_ofComparison (indexes : List Index) (keyword : String) (operands : List Value) :
    ((Condition.ofComparison keyword (Value.maskedOperands operands)).layout c indexes).hidden =
      ((Condition.ofComparison keyword operands).layout c indexes).hidden := by
  match operands with
  | [] | [_] => rfl
  | [column, operand] =>
    simp [Value.maskedOperands, Value.maskedAll, Condition.ofComparison, Condition.layout,
      Piece.hidden]
  | _ :: _ :: _ :: _ => rfl

/-! ## Sources -/

theorem indexName?_maskedSource (position : Nat) (key : Option String) (v : Value) :
    (Source.ofEntry position key v.maskedSource).indexName? =
      (Source.ofEntry position key v).indexName? := by
  cases v <;> rfl

theorem indexNames_ofItems_masked (position : Nat) (items : List Value) :
    (Source.ofItems position (Value.maskedSources items)).filterMap Source.indexName? =
      (Source.ofItems position items).filterMap Source.indexName? := by
  induction items generalizing position with
  | nil => rfl
  | cons v rest ih =>
    simp [Value.maskedSources, Source.ofItems, List.filterMap_cons, indexName?_maskedSource, ih]

theorem indexNames_ofPairs_masked (position : Nat) (pairs : List (Value × Value)) :
    (Source.ofPairs position (Value.maskedSourcePairs pairs)).filterMap Source.indexName? =
      (Source.ofPairs position pairs).filterMap Source.indexName? := by
  induction pairs generalizing position with
  | nil => rfl
  | cons pair rest ih =>
    simp [Value.maskedSourcePairs, Source.ofPairs, List.filterMap_cons, indexName?_maskedSource,
      ih]

/-- The same indexes are searched without the data of sub-queries. -/
theorem indexNames_listOf_masked (source : Entries Value) :
    (Source.listOf (Entries.maskedSources source)).filterMap Source.indexName? =
      (Source.listOf source).filterMap Source.indexName? := by
  cases source with
  | positional items => exact indexNames_ofItems_masked 0 items
  | keyed pairs => exact indexNames_ofPairs_masked 0 pairs

theorem isEmpty_listOf_masked (source : Entries Value) :
    (Source.listOf (Entries.maskedSources source)).isEmpty = (Source.listOf source).isEmpty := by
  match source with
  | .positional [] | .positional (_ :: _) | .keyed [] | .keyed (_ :: _) => rfl

theorem isOmitted_ofMembers (negated : Bool) (column v : Value) :
    (Condition.ofMembers negated column v).isOmitted = false := by
  cases v <;> cases negated <;>
    simp only [Condition.ofMembers, Condition.amongNothing, Condition.amongValues] <;>
    (repeat' split) <;> rfl

/-- A list with an operator is never an omitted condition. -/
theorem isOmitted_ofForm_cons (token : Value) (operands : List Value) :
    (Condition.ofForm (token :: operands)).isOmitted = false := by
  cases token with
  | text s =>
    simp only [Condition.ofForm]
    cases Operator.ofKeyword? (Operator.normalize s) with
    | none => simp only [Condition.ofComparison]; split <;> rfl
    | some operator =>
      cases operator with
      | and | or => rfl
      | not => rcases operands with _ | ⟨_, _ | _⟩ <;> rfl
      | between | notBetween => simp only [Condition.ofBounds]; (repeat' split) <;> rfl
      | among | notAmong =>
        rcases operands with _ | ⟨column, _ | ⟨values, rest⟩⟩
        · rfl
        · rfl
        · simp only [Condition.ofMembership]
          split
          · rfl
          · exact isOmitted_ofMembers _ column values
      | like | notLike | orLike | orNotLike =>
        simp only [Condition.ofPatterns]
        (repeat' split) <;> rfl
  | _ => rfl

theorem maskedForm_cons (token : Value) (operands : List Value) :
    ∃ others, Value.maskedForm (token :: operands) = token :: others := by
  cases token with
  | text s => simp only [Value.maskedForm, List.cons.injEq, true_and, exists_eq']
  | _ => exact ⟨operands, by simp only [Value.maskedForm]⟩

/-- A condition is omitted with its data or without. -/
theorem isOmitted_masked (v : Value) :
    (Condition.ofValue v.maskedCondition).isOmitted = (Condition.ofValue v).isOmitted := by
  match v with
  | .list (token :: operands) | .tuple (token :: operands) =>
    obtain ⟨others, hothers⟩ := maskedForm_cons token operands
    simp only [Value.maskedCondition, Condition.ofValue, hothers, isOmitted_ofForm_cons]
  | .map [] | .map (_ :: _) | .list [] | .tuple [] => rfl
  | .null | .bool _ | .int _ | .float _ | .text _ | .bytes _ | .buffer _ | .set _ | .raw _ _
  | .query _ => rfl

/-! ## Clauses -/

theorem isEmpty_eq_of_hidden_eq {l r : Layout} (h : l.hidden = r.hidden) :
    l.isEmpty = r.isEmpty := by
  rw [← isEmpty_hidden, h, isEmpty_hidden]

theorem hidden_ofFilter (fulltext : Value) (isOmitted : Bool) {l r : Layout}
    (h : l.hidden = r.hidden) :
    (ofFilter fulltext.masked isOmitted l).hidden = (ofFilter fulltext isOmitted r).hidden := by
  have hwords := hidden_ofFulltext_masked fulltext
  cases fulltext <;> simp only [Value.masked] at hwords ⊢ <;> cases isOmitted <;>
    simp [ofFilter, h, hwords]

theorem hidden_ofOptions (options : List (String × Value)) :
    (ofOptions (Value.maskedNamed options)).hidden = (ofOptions options).hidden := by
  have hmap : Value.maskedNamed options =
      options.map fun option => (option.1, option.2.masked) := by
    induction options with
    | nil => rfl
    | cons option rest ih => simp [Value.maskedNamed, ih]
  cases options with
  | nil => rfl
  | cons option rest => simp [hmap, ofOptions, Piece.hidden, Function.comp_def]

/-! ## The induction -/

/-- What is hidden of a condition for which a value is written out. -/
theorem hidden_showing (indexes : List Index) (v : Value) {condition other : Condition}
    (h : (condition.layout c indexes).hidden = (other.layout c indexes).hidden) :
    ((Condition.showing v condition).layout c indexes).hidden =
      ((Condition.showing v other).layout c indexes).hidden := by
  unfold Condition.showing
  split
  · exact h
  · simp [Condition.layout, Condition.layouts, ofRecord, h]

/-- One value of a column is compared with it. -/
theorem ofEntry_of_scalar (column : Value) {v : Value} (h : v.role = .scalar) :
    Condition.ofEntry column v = .equals column v := by
  cases v <;> first | rfl | simp [Value.role] at h

/-- Membership in values that are given. -/
theorem ofMembers_of_given (negated : Bool) (column : Value) {v : Value} (hnull : v.role ≠ .null)
    (hquery : v.role ≠ .query) :
    Condition.ofMembers negated column v =
      if v.isEmptyList || column.isEmptyList then Condition.amongNothing negated
      else Condition.amongValues negated column (v.members?.getD [v]) := by
  cases v <;> first | rfl | simp [Value.role] at hnull hquery

theorem isEmptyList_masked (v : Value) : v.masked.isEmptyList = v.isEmptyList := by
  unfold Value.isEmptyList
  rw [members?_masked]
  match v.members? with
  | none | some [] | some (_ :: _) => rfl

theorem hidden_ofMembers_of_given (indexes : List Index) (negated : Bool) (column : Value)
    {v : Value} (hnull : v.role ≠ .null) (hquery : v.role ≠ .query) :
    ((Condition.ofMembers negated column v.masked).layout c indexes).hidden =
      ((Condition.ofMembers negated column v).layout c indexes).hidden := by
  have hmembers : v.masked.members?.getD [v.masked] = Value.maskedAll (v.members?.getD [v]) := by
    rw [members?_masked]
    cases v.members? <;> rfl
  rw [ofMembers_of_given negated column hnull hquery,
    ofMembers_of_given negated column (by simpa using hnull) (by simpa using hquery),
    isEmptyList_masked, hmembers]
  split
  · rfl
  · exact hidden_amongValues c negated indexes column _

mutual

/-- **Masking changes only what is hidden of a condition.** -/
theorem hidden_condition (indexes : List Index) (v : Value) :
    ((Condition.ofValue v.maskedCondition).layout c indexes).hidden =
      ((Condition.ofValue v).layout c indexes).hidden := by
  match v with
  | .map [] => rfl
  | .map ((key, w) :: rest) =>
    simp [Value.maskedCondition, Value.maskedPairs, Condition.ofValue, Condition.layout,
      Condition.layouts, Condition.ofEntries,
      hidden_showing c indexes key (hidden_entry indexes (.text key.display) w),
      map_hidden_entries indexes rest]
  | .list items => exact hidden_form indexes items
  | .tuple items => exact hidden_form indexes items
  | .null | .bool _ | .int _ | .float _ | .text _ | .bytes _ | .buffer _ | .set _ | .raw _ _
  | .query _ => rfl

theorem map_hidden_entries (indexes : List Index) (pairs : List (Value × Value)) :
    (Condition.layouts c indexes (Condition.ofEntries (Value.maskedPairs pairs))).map hidden =
      (Condition.layouts c indexes (Condition.ofEntries pairs)).map hidden := by
  match pairs with
  | [] => rfl
  | (key, w) :: rest =>
    simp [Value.maskedPairs, Condition.ofEntries, Condition.layouts,
      hidden_showing c indexes key (hidden_entry indexes (.text key.display) w),
      map_hidden_entries indexes rest]

theorem hidden_entry (indexes : List Index) (column v : Value) :
    ((Condition.ofEntry column v.masked).layout c indexes).hidden =
      ((Condition.ofEntry column v).layout c indexes).hidden := by
  by_cases hscalar : v.role = .scalar
  · rw [ofEntry_of_scalar column hscalar, ofEntry_of_scalar column (by simpa using hscalar)]
    simp [Condition.layout, Piece.hidden]
  · match v, hscalar with
    | .null, _ | .raw _ _, _ | .list [], _ | .tuple [], _ | .set [], _ => rfl
    | .query q, _ =>
      simp [Value.masked, Condition.ofEntry, Condition.layout, hidden_selection q]
    | .list (first :: rest), _ | .tuple (first :: rest), _ | .set (first :: rest), _ =>
      exact hidden_amongValues c false indexes column (first :: rest)

theorem hidden_form (indexes : List Index) (items : List Value) :
    ((Condition.ofForm (Value.maskedForm items)).layout c indexes).hidden =
      ((Condition.ofForm items).layout c indexes).hidden := by
  match items with
  | [] => rfl
  | .text token :: operands =>
    simp only [Value.maskedForm, Condition.ofForm]
    cases Operator.ofKeyword? (Operator.normalize token) with
    | none => exact hidden_ofComparison c indexes _ operands
    | some operator =>
      cases operator with
      | and | or => simp [Condition.layout, map_hidden_operands indexes operands]
      | not => exact hidden_denied indexes operands
      | between => exact hidden_ofBounds c indexes false operands
      | notBetween => exact hidden_ofBounds c indexes true operands
      | among => exact hidden_membership indexes false operands
      | notAmong => exact hidden_membership indexes true operands
      | like | notLike | orLike | orNotLike =>
        exact hidden_conditionOfPatterns c indexes _ _ _ operands
  | .null :: _ | .bool _ :: _ | .int _ :: _ | .float _ :: _ | .bytes _ :: _ | .buffer _ :: _
  | .list _ :: _ | .tuple _ :: _ | .set _ :: _ | .map _ :: _ | .raw _ _ :: _ | .query _ :: _ => rfl

theorem map_hidden_operands (indexes : List Index) (operands : List Value) :
    (Condition.layouts c indexes (Condition.ofOperands (Value.maskedConditions operands))).map
        hidden =
      (Condition.layouts c indexes (Condition.ofOperands operands)).map hidden := by
  match operands with
  | [] => rfl
  | v :: rest =>
    simp [Value.maskedConditions, Condition.ofOperands, Condition.layouts,
      hidden_condition indexes v, map_hidden_operands indexes rest]

theorem hidden_denied (indexes : List Index) (operands : List Value) :
    ((Condition.ofDenied (Value.maskedConditions operands)).layout c indexes).hidden =
      ((Condition.ofDenied operands).layout c indexes).hidden := by
  match operands with
  | [] | _ :: _ :: _ => rfl
  | [operand] =>
    have h := hidden_condition indexes operand
    simp only [Value.maskedConditions, Condition.ofDenied, Condition.layout,
      isEmpty_eq_of_hidden_eq h]
    split
    · rfl
    · simp [h]

theorem hidden_membership (indexes : List Index) (negated : Bool) (operands : List Value) :
    ((Condition.ofMembership negated (Value.maskedSecond operands)).layout c indexes).hidden =
      ((Condition.ofMembership negated operands).layout c indexes).hidden := by
  match operands with
  | [] | [_] => rfl
  | column :: values :: _ =>
    simp only [Value.maskedSecond, Condition.ofMembership]
    split
    · rfl
    · exact hidden_members indexes negated column values

theorem hidden_members (indexes : List Index) (negated : Bool) (column v : Value) :
    ((Condition.ofMembers negated column v.masked).layout c indexes).hidden =
      ((Condition.ofMembers negated column v).layout c indexes).hidden := by
  by_cases hquery : v.role = .query
  · match v, hquery with
    | .query q, _ =>
      simp only [Value.masked, Condition.ofMembers]
      split
      · rfl
      · simp [Condition.layout, hidden_selection q]
  · by_cases hnull : v.role = .null
    · cases v <;> first | rfl | simp [Value.role] at hnull
    · exact hidden_ofMembers_of_given c indexes negated column hnull hquery

theorem hidden_source (position : Nat) (key : Option String) (v : Value) :
    ((Source.ofEntry position key v.maskedSource).layout c).hidden =
      ((Source.ofEntry position key v).layout c).hidden := by
  match v with
  | .query q => simp [Value.maskedSource, Source.ofEntry, Source.layout, hidden_selection q]
  | .null | .bool _ | .int _ | .float _ | .text _ | .bytes _ | .buffer _ | .list _ | .tuple _
  | .set _ | .map _ | .raw _ _ => rfl

theorem map_hidden_sources (position : Nat) (items : List Value) :
    (Source.layouts c (Source.ofItems position (Value.maskedSources items))).map hidden =
      (Source.layouts c (Source.ofItems position items)).map hidden := by
  match items with
  | [] => rfl
  | v :: rest =>
    simp [Value.maskedSources, Source.ofItems, Source.layouts, hidden_source position none v,
      map_hidden_sources (position + 1) rest]

theorem map_hidden_sourcePairs (position : Nat) (pairs : List (Value × Value)) :
    (Source.layouts c (Source.ofPairs position (Value.maskedSourcePairs pairs))).map hidden =
      (Source.layouts c (Source.ofPairs position pairs)).map hidden := by
  match pairs with
  | [] => rfl
  | (key, v) :: rest =>
    simp [Value.maskedSourcePairs, Source.ofPairs, Source.layouts,
      hidden_source position key.text? v, map_hidden_sourcePairs (position + 1) rest]

theorem map_hidden_listOf (source : Entries Value) :
    (Source.layouts c (Source.listOf (Entries.maskedSources source))).map hidden =
      (Source.layouts c (Source.listOf source)).map hidden := by
  match source with
  | .positional items => exact map_hidden_sources 0 items
  | .keyed pairs => exact map_hidden_sourcePairs 0 pairs

/-- **Masking changes only what is hidden of a selection.** -/
theorem hidden_selection (q : Clauses Value) :
    ((Selection.ofQuery q.masked).layout c).hidden = ((Selection.ofQuery q).layout c).hidden := by
  match q with
  | { select, distinct, modifier, source, joins, fulltext, condition, groupBy, within, having,
      orderBy, limit, offset, options, facets, showMeta, params } =>
    simp only [Clauses.masked, Selection.ofQuery, Selection.layout, indexNames_listOf_masked,
      isEmpty_listOf_masked, isOmitted_masked]
    split
    · rfl
    · simp [hidden_ofOptions, hidden_ofFilter _ _ (hidden_condition _ condition),
        hidden_condition _ having, map_hidden_listOf source, apply_ite hidden]

end

end SearchSql.Layout
