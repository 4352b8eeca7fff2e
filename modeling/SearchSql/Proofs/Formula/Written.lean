import SearchSql.Proofs.Formula.Composition

/-!
# Layouts of predicates

The layouts of conditions on columns are written as the predicates that the conditions are: the
name of the column, the operator and the operands are the same and stand in the same order, and
the operands bind the same parameters.

## Main statements

* `Layout.isWrittenAs_ofValue`, `Layout.isWrittenAs_ofCompared`, `Layout.isWrittenAs_ofPattern` —
  operands.
* `Layout.isWrittenAs_ofMembership`, `Layout.isWrittenAs_between`, `Layout.isWrittenAs_pattern`,
  `Layout.isWrittenAs_compared` — predicates.
-/
namespace SearchSql.Layout

variable {stem : String}

/-! ## What is put together -/

theorem isWrittenAs_text (s : String) : IsWrittenAs stem [.text s] fun p => (s, p) where
  chars := by simp [Params.written]
  after := fun _ => rfl

theorem IsWrittenAs.congr {l : Layout} {write other : Params → String × Params}
    (h : l.IsWrittenAs stem write) (hsame : ∀ p, write p = other p) : l.IsWrittenAs stem other := by
  obtain rfl : write = other := funext hsame
  exact h

/-- A text in front of what is written. -/
theorem IsWrittenAs.behind {l : Layout} {write : Params → String × Params}
    (h : l.IsWrittenAs stem write) (s : String) :
    IsWrittenAs stem (.text s :: l) fun p => (s ++ (write p).1, (write p).2) where
  chars := by
    intro p
    simp [Params.written, Params.after, h.chars p]
  after := by
    intro p
    simp [Params.after, h.after p]

/-- One layout behind the other. -/
theorem IsWrittenAs.append {l r : Layout} {first second : Params → String × Params}
    (hl : l.IsWrittenAs stem first) (hr : r.IsWrittenAs stem second) :
    IsWrittenAs stem (l ++ r) fun p =>
      ((first p).1 ++ (second (first p).2).1, (second (first p).2).2) where
  chars := by
    intro p
    simp [hl.chars p, hl.after p, hr.chars]
  after := by
    intro p
    simp [hl.after p, hr.after]

theorem IsWrittenAs.parenthesized {l : Layout} {write : Params → String × Params}
    (h : l.IsWrittenAs stem write) :
    IsWrittenAs stem (enclose "(" l ")") fun p => ("(" ++ (write p).1 ++ ")", (write p).2) where
  chars := by
    intro p
    simp [charsAt_enclose, h.chars p]
  after := by
    intro p
    rw [paramsAfter_enclose, h.after p]

/-- Layouts that are written one after the other. -/
theorem textsAt_map {α : Type} {layout : α → Layout} {write : α → Params → String × Params}
    {parts : List α} (h : ∀ part ∈ parts, (layout part).IsWrittenAs stem (write part))
    (p : Params) :
    textsAt stem (parts.map layout) p =
        (Params.writeEach write parts p).1.map String.toList ∧
      paramsAfter stem (parts.map layout).flatten p = (Params.writeEach write parts p).2 := by
  induction parts generalizing p with
  | nil => exact ⟨rfl, rfl⟩
  | cons part rest ih =>
    obtain ⟨hpart, hrest⟩ := List.forall_mem_cons.1 h
    obtain ⟨htexts, hafter⟩ := ih hrest (write part p).2
    simp only [List.map_cons, textsAt, List.flatten_cons, paramsAfter_append, hpart.chars p,
      hpart.after p, htexts, hafter, Params.writeEach, and_self]

/-- Layouts with a text between them are written as their texts with the text between them. -/
theorem isWrittenAs_join {α : Type} (separator : String) {layout : α → Layout}
    {write : α → Params → String × Params} {parts : List α}
    (h : ∀ part ∈ parts, (layout part).IsWrittenAs stem (write part)) :
    IsWrittenAs stem (join separator (parts.map layout)) fun p =>
      (separator.intercalate (Params.writeEach write parts p).1,
        (Params.writeEach write parts p).2) where
  chars := by
    intro p
    rw [charsAt_join, (textsAt_map h p).1, String.toList_intercalate]
  after := by
    intro p
    rw [paramsAfter_join, (textsAt_map h p).2]

/-! ## Operands -/

theorem isWrittenAs_bind (v : Value) : IsWrittenAs stem [.bind v] ((Mark.bound v).write stem) where
  chars := by simp [Params.written, Mark.write]
  after := fun _ => rfl

theorem isWrittenAs_ofRaw (sql : String) (params : Mapping) :
    IsWrittenAs stem (ofRaw sql params) ((Mark.raw sql params).write stem) where
  chars := by simp [ofRaw, Params.written, Mark.write]
  after := fun _ => rfl

/-- A value of a column. -/
theorem isWrittenAs_ofBound {column : Option Column} {v : Value}
    (h : (ofBound column v).Sound) :
    IsWrittenAs stem (ofBound column v) ((Mark.ofValue column v).write stem) := by
  cases v with
  | raw sql params => exact isWrittenAs_ofRaw sql params
  | _ =>
    simp only [ofBound] at h ⊢
    split at h
    · rename_i coerced hcoerced
      simp only [Mark.ofValue, hcoerced]
      exact isWrittenAs_bind coerced
    · simp [Piece.isFault] at h

/-- A pattern. -/
theorem isWrittenAs_ofPattern {table v : Value} (h : (ofPattern table v).Sound) :
    IsWrittenAs stem (ofPattern table v) ((Mark.ofPattern table v).write stem) := by
  cases v with
  | raw sql params => exact isWrittenAs_ofRaw sql params
  | _ =>
    simp only [ofPattern] at h ⊢
    split at h
    · rename_i pattern hpattern
      simp only [Mark.ofPattern, hpattern]
      exact isWrittenAs_bind pattern
    · simp [Piece.isFault] at h

theorem isWrittenAs_ofPlain (v : Value) :
    IsWrittenAs stem (ofPlain v) ((Mark.ofPlain v).write stem) := by
  cases v with
  | raw sql params => exact isWrittenAs_ofRaw sql params
  | _ => exact isWrittenAs_bind _

/-- The value on the right of an operator without a form of its own. -/
theorem isWrittenAs_ofCompared (v : Value) :
    IsWrittenAs stem (ofCompared v) ((Comparand.ofCompared v).write stem) := by
  have hplain : IsWrittenAs stem (ofPlain v) ((Mark.ofPlain v).write stem) :=
    isWrittenAs_ofPlain v
  cases v with
  | null => exact isWrittenAs_text "NULL"
  | _ => exact hplain

/-- The values of a list. -/
theorem isWrittenAs_ofMembers {column : Option Column} {v : Value} {items : List Value}
    (h : (ofMembers column v items).Sound) :
    IsWrittenAs stem (ofMembers column v items) <| Comparand.write stem <|
      if column.any fun declared => declared.type == .json then .single (.ofValue column v)
      else .several (items.map (Mark.ofValue column)) := by
  unfold ofMembers at h ⊢
  split at h
  · exact isWrittenAs_ofBound h
  · rename_i hjson
    have hother : (column.any fun declared => declared.type == .json) = false := by
      rcases column with _ | ⟨name, type⟩
      · rfl
      · cases type with
        | json => exact absurd rfl (hjson name)
        | _ => rfl
    rw [hother, if_neg Bool.false_ne_true]
    have hitems : ∀ item ∈ items, (ofBound column item).IsWrittenAs stem
        ((Mark.ofValue column item).write stem) := fun item hitem =>
      isWrittenAs_ofBound (sound_join (sound_enclose.1 h) _ (List.mem_map_of_mem hitem))
    exact (isWrittenAs_join "," hitems).parenthesized.congr fun p => by
      simp only [Comparand.write, Params.writeEach_map]

/-- **A value of a column is written as the operand that it is.** -/
theorem isWrittenAs_ofValue {indexes : List Index} {column v : Value}
    (h : (ofValue indexes column v).Sound) :
    IsWrittenAs stem (ofValue indexes column v) ((Comparand.ofValue indexes column v).write stem) := by
  have hbound (h : (ofBound (columnOf indexes column) v).Sound) :
      IsWrittenAs stem (ofBound (columnOf indexes column) v)
        ((Mark.ofValue (columnOf indexes column) v).write stem) := isWrittenAs_ofBound h
  cases v with
  | null => exact isWrittenAs_text "NULL"
  | raw sql params => exact isWrittenAs_ofRaw sql params
  | query q => simp [ofValue, Piece.isFault] at h
  | list items | tuple items | set items => exact isWrittenAs_ofMembers h
  | _ => exact hbound h

/-! ## Predicates -/

section Predicates

variable {c : Connection} {indexes : List Index} {column : Value}

/-- A column that is compared by an operator without a form of its own. -/
theorem isWrittenAs_compared (operator : String) (v : Value) :
    IsWrittenAs stem (.text (c.quoteValue column ++ " " ++ operator ++ " ") :: ofCompared v)
      ((Predicate.compared (c.quoteValue column) operator (.ofCompared v)).write stem) :=
  (isWrittenAs_ofCompared v).behind _

/-- A keyword behind a name. -/
theorem append_deny (name keyword behind : String) (negated : Bool) :
    name ++ " " ++ deny negated keyword ++ behind =
      name ++ if negated then " NOT " ++ keyword ++ behind else " " ++ keyword ++ behind := by
  cases negated with
  | false => simp only [deny, Bool.false_eq_true, if_false, String.append_assoc]
  | true =>
    have hword : " " ++ "NOT " = " NOT " := rfl
    simp only [deny, if_true, String.append_assoc, ← hword]

/-- A column that matches a pattern, or does not. -/
theorem isWrittenAs_pattern (negated : Bool) {table v : Value} (h : (ofPattern table v).Sound) :
    IsWrittenAs stem
      (.text (c.quoteValue column ++ " " ++ deny negated "LIKE" ++ " ") :: ofPattern table v)
      (Predicate.write stem <|
        if negated then .notLike (c.quoteValue column) (.ofPattern table v)
        else .like (c.quoteValue column) (.ofPattern table v)) := by
  have hpattern : IsWrittenAs stem (ofPattern table v) ((Mark.ofPattern table v).write stem) :=
    isWrittenAs_ofPattern h
  rw [append_deny]
  cases negated <;> exact hpattern.behind _

/-- A column between two bounds, or outside of them. -/
theorem isWrittenAs_between (negated : Bool) {low high : Value}
    (hlow : (ofValue indexes column low).Sound) (hhigh : (ofValue indexes column high).Sound) :
    IsWrittenAs stem
      (.text (c.quoteValue column ++ " " ++ deny negated "BETWEEN" ++ " ") ::
        ofValue indexes column low ++ .text " AND " :: ofValue indexes column high)
      (Predicate.write stem <|
        if negated then .notBetween (c.quoteValue column) (.ofValue indexes column low)
          (.ofValue indexes column high)
        else .between (c.quoteValue column) (.ofValue indexes column low)
          (.ofValue indexes column high)) := by
  have hlowest : IsWrittenAs stem (ofValue indexes column low)
      ((Comparand.ofValue indexes column low).write stem) := isWrittenAs_ofValue hlow
  have hbounds := hlowest.append ((isWrittenAs_ofValue hhigh).behind " AND ")
  rw [append_deny, List.cons_append]
  cases negated <;>
    exact (hbounds.behind _).congr fun p => by simp [Predicate.write, String.append_assoc]

/-- A column that is one of some values, or none of them. -/
theorem isWrittenAs_ofMembership (negated : Bool) {values : List Value} (hne : values ≠ [])
    (h : ∀ v ∈ values, (ofValue indexes column v).Sound) :
    IsWrittenAs stem (ofMembership c negated column (values.map (ofValue indexes column)))
      (Predicate.write stem <| .ofMembers negated (c.quoteValue column)
        (values.map (Comparand.ofValue indexes column))) := by
  have hvalues : ∀ v ∈ values, (ofValue indexes column v).IsWrittenAs stem
      ((Comparand.ofValue indexes column v).write stem) := fun v hv => isWrittenAs_ofValue (h v hv)
  match values with
  | [v] =>
    have hsingle := hvalues v (List.mem_singleton_self v)
    cases negated <;> exact hsingle.behind _
  | first :: second :: others =>
    have hlist := (isWrittenAs_join ", " hvalues).append (isWrittenAs_text ")")
    have hlayout : ofMembership c negated column
        ((first :: second :: others).map (ofValue indexes column)) =
          .text (c.quoteValue column ++ " " ++ deny negated "IN" ++ " (") ::
            (join ", " ((first :: second :: others).map (ofValue indexes column)) ++ [.text ")"]) :=
      rfl
    have hpredicate (operands : List Comparand) (h : 1 < operands.length) :
        Predicate.ofMembers negated (c.quoteValue column) operands =
          if negated then .notAmong (c.quoteValue column) operands
          else .among (c.quoteValue column) operands := by
      match operands with
      | _ :: _ :: _ => rfl
    rw [hlayout, append_deny, hpredicate _ (by simp)]
    cases negated <;>
      exact (hlist.behind _).congr fun p => by
        simp [Predicate.write, Params.writeEach_map, -List.map_cons, String.append_assoc]

/-- Where a membership can be written, its values can. -/
theorem sound_ofMembership {negated : Bool} {operands : List Layout}
    (h : (ofMembership c negated column operands).Sound) : ∀ l ∈ operands, l.Sound := by
  unfold ofMembership at h
  split at h
  · simp
  · simpa [Piece.isFault] using h
  · exact sound_join (sound_enclose.1 h)

end Predicates

end SearchSql.Layout
