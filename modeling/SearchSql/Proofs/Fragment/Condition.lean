import SearchSql.Proofs.Fragment.Clause

/-!
# Raw fragments in conditions

A fragment that columns are compared with keeps its parameters, wherever the comparison stands
in a condition. A fragment that is a condition itself is taken for its text alone: the condition
is the one with the bare text in its place, so the parameters are lost.

## Main definitions

* `Fragment.InMember` — a fragment in an operand of a membership.
* `Fragment.InComparison`, `Fragment.InCondition` — a fragment in a comparison, and in a condition
  that has the comparison in a place.

## Main statements

* `Fragment.InCondition.boundIn` — a fragment that is compared with keeps its parameters.
* `Fragment.ofValue_fill_value` — a fragment as a condition is read as its text.
-/
namespace SearchSql.Fragment

open Condition

variable {f : Fragment} (c : Connection) {indexes : List Index}

/-- A fragment stands in an operand of a membership: in a value of the column, or in the value
that a row has under one of the columns. -/
inductive InMember (f : Fragment) (indexes : List Index) (columns : List Value) : Value → Prop where
  /-- There is one column. -/
  | single {column v x : Value} (hcolumns : columns = [column]) (hx : Value.cell column v = .ok x)
    (h : f.InValue (Layout.columnOf indexes column) x) : InMember f indexes columns v
  /-- There are several columns. -/
  | row {column x : Value} {cells : Mapping} (hcolumns : 1 < columns.length)
    (hcolumn : column ∈ columns) (hx : Mapping.cell column cells = .ok x)
    (h : f.InValue (Layout.columnOf indexes column) x) : InMember f indexes columns (.map cells)

/-- A fragment stands in a comparison of columns. -/
inductive InComparison (f : Fragment) (indexes : List Index) : Value → Prop where
  /-- It is the value of a column in a mapping. -/
  | entry {entries : Mapping} {column : Value} (h : (column, f.value) ∈ entries) :
    InComparison f indexes (.map entries)
  /-- It stands in one of several values of a column in a mapping. -/
  | entryMember {entries : Mapping} {column v x : Value} {items : List Value}
    (h : (column, v) ∈ entries) (hitems : v.members? = some items) (hx : x ∈ items)
    (hf : f.InMember indexes [.text column.display] x) : InComparison f indexes (.map entries)
  /-- It stands in an operand of a membership. -/
  | member (negated : Bool)
    (spelling : Spelling (if negated then Operator.notAmong else Operator.among))
    (isTuple : Bool) {column values x : Value} (hnull : column.isNull = false)
    (hempty : column.isEmptyList = false) (rest : List Value)
    (hx : x ∈ values.members?.getD [values]) (hf : f.InMember indexes column.columns x) :
    InComparison f indexes (.form isTuple spelling.token (column :: values :: rest))
  /-- It stands in a bound. -/
  | bound (negated : Bool)
    (spelling : Spelling (if negated then Operator.notBetween else Operator.between))
    (isTuple : Bool) {column low high : Value} (hcolumn : column.isNull = false)
    (hlow : low.isNull = false) (hhigh : high.isNull = false)
    (hf : f.InValue (Layout.columnOf indexes column) low ∨
      f.InValue (Layout.columnOf indexes column) high) :
    InComparison f indexes (.form isTuple spelling.token [column, low, high])
  /-- It is a pattern. -/
  | pattern {operator : Operator} (hoperator : operator.isIn .pattern)
    (spelling : Spelling operator) (isTuple : Bool) {column values : Value}
    (hnull : column.isNull = false) (rest : List Value)
    (hf : f.value ∈ values.members?.getD [values]) :
    InComparison f indexes (.form isTuple spelling.token (column :: values :: rest))
  /-- It is on the right of an operator without a form of its own. -/
  | compared {token : String} (htoken : Operator.ofKeyword? (Operator.normalize token) = none)
    (isTuple : Bool) (column : Value) :
    InComparison f indexes (.form isTuple token [column, f.value])

/-- A fragment stands in a comparison in a place of a condition. -/
def InCondition (f : Fragment) (indexes : List Index) (tree : Value) : Prop :=
  ∃ (context : Context) (leaf : Value), f.InComparison indexes leaf ∧ tree = context.fill leaf

/-! ## Memberships -/

theorem boundIn_ofMembership {negated : Bool} {column : Value} {l : Layout} {ls : List Layout}
    (hl : l ∈ ls) (h : f.BoundIn l) : f.BoundIn (Layout.ofMembership c negated column ls) := by
  match ls with
  | [] => cases hl
  | [operand] =>
    obtain rfl := List.mem_singleton.1 hl
    exact h.cons _
  | _ :: _ :: _ => exact (h.join ", " hl).enclose _ _

theorem boundIn_amongValues {column x : Value} {values : List Value} (hx : x ∈ values)
    (h : f.InMember indexes column.columns x) (negated : Bool) :
    f.BoundIn ((amongValues negated column values).layout c indexes) := by
  cases h with
  | @single single _ y hcolumns hy h =>
    simp only [amongValues, hcolumns, Condition.layout]
    have hmem := List.mem_map_of_mem (f := Layout.ofChecked indexes single)
      (List.mem_map_of_mem (f := Value.cell single) hx)
    rw [hy] at hmem
    exact List.mem_append_left _ (boundIn_ofMembership c hmem h.boundIn)
  | @row single y cells hcolumns hcolumn hy h =>
    have hamong : amongValues negated column values = .amongRows negated column.columns
        (values.map (rowOf (if negated then Operator.notAmong else .among).keyword
          column.columns)) := by
      rw [amongValues]
      split
      · rename_i hone
        rw [hone] at hcolumns
        exact absurd hcolumns (Nat.lt_irrefl 1)
      · rfl
    have hcell : Layout.ofValue indexes single y ∈ column.columns.zipWith
        (Layout.ofChecked indexes) (column.columns.map fun other => Mapping.cell other cells) := by
      rw [List.zipWith_map_right, List.zipWith_self]
      exact List.mem_map.2 ⟨single, hcolumn, by rw [hy]; rfl⟩
    have hrow := List.mem_map_of_mem
      (f := fun row => Layout.enclose "("
        (Layout.join ", " (column.columns.zipWith (Layout.ofChecked indexes) row)) ")")
      (List.mem_map_of_mem (f := rowOf (if negated then Operator.notAmong else .among).keyword
        column.columns) hx)
    rw [hamong, Condition.layout]
    exact List.mem_append_left _
      ((((h.boundIn.join ", " hcell).enclose "(" ")").join ", " hrow).enclose _ _)

/-- A fragment stands in no value of a column other than itself that has no members. -/
theorem not_inMember {columns : List Value} {v : Value} (hmembers : v.members? = none)
    (hmap : ∀ cells, v ≠ .map cells) (hne : f.value ≠ v) : ¬ f.InMember indexes columns v := by
  intro h
  cases h with
  | @single column _ x _ hx h =>
    have hcell : Value.cell column v = .ok v := by
      cases v with
      | map cells => exact absurd rfl (hmap cells)
      | _ => rfl
    obtain rfl := Except.ok.inj (hcell.symm.trans hx)
    cases h with
    | alone => exact hne rfl
    | member hitems => exact absurd (hmembers.symm.trans hitems) nofun
  | @row _ _ cells => exact hmap cells rfl

theorem boundIn_ofMembers {column values x : Value} (hx : x ∈ values.members?.getD [values])
    (h : f.InMember indexes column.columns x) (hempty : column.isEmptyList = false)
    (negated : Bool) : f.BoundIn ((ofMembers negated column values).layout c indexes) := by
  have hvalues : ofMembers negated column values =
      amongValues negated column (values.members?.getD [values]) := by
    have hgiven : values.isEmptyList = false := by
      rw [Value.isEmptyList]
      cases hitems : values.members? with
      | none => rfl
      | some items =>
        rw [hitems] at hx
        exact List.isEmpty_eq_false_iff.2 (List.ne_nil_of_mem hx)
    cases values with
    | null =>
      obtain rfl := List.mem_singleton.1 hx
      exact absurd h (not_inMember rfl nofun nofun)
    | query q =>
      obtain rfl := List.mem_singleton.1 hx
      exact absurd h (not_inMember rfl nofun nofun)
    | _ => simp [ofMembers, hgiven, hempty]
  rw [hvalues]
  exact boundIn_amongValues c hx h negated

theorem boundIn_ofPatterns {column values : Value} (hnull : column.isNull = false)
    (hf : f.value ∈ values.members?.getD [values]) (operator : Operator) (negated any : Bool)
    (rest : List Value) :
    f.BoundIn ((Condition.ofPatterns operator negated any (column :: values :: rest)).layout c
      indexes) := by
  have hlike : ∃ escape, Condition.ofPatterns operator negated any (column :: values :: rest) =
      .like negated any column escape (values.members?.getD [values]) := by
    have hgiven : values.isNull = false := by
      cases values with
      | null => exact absurd (List.mem_singleton.1 hf) nofun
      | _ => rfl
    simp only [Condition.ofPatterns, hnull, hgiven, Bool.or_self, Bool.false_eq_true, if_false]
    cases hitems : values.members? with
    | none => exact ⟨_, rfl⟩
    | some items =>
      rw [hitems] at hf
      cases items with
      | nil => cases hf
      | cons => exact ⟨_, rfl⟩
  obtain ⟨escape, hlike⟩ := hlike
  rw [hlike, Condition.layout]
  have hpattern := List.mem_map_of_mem (f := fun pattern =>
    Piece.text (c.quoteValue column ++ " " ++ deny negated "LIKE" ++ " ") ::
      Layout.ofPattern (escape.getD (Like.tableValue c.settings.likeEscape)) pattern) hf
  exact List.mem_append_right _ (((f.boundIn_ofPattern _).cons _).join _ hpattern)

theorem InComparison.boundIn {leaf : Value} (h : f.InComparison indexes leaf) :
    f.BoundIn (layoutOf c indexes leaf) := by
  cases h with
  | entry h =>
    refine BoundIn.of_isInfix ?_ (infix_layoutOf_map c indexes h)
    exact f.boundIn_ofRaw.cons _
  | @entryMember entries column v x items h hitems hx hf =>
    refine BoundIn.of_isInfix ?_ (infix_layoutOf_map c indexes h)
    have hvalues : ofEntry (.text column.display) v =
        amongValues false (.text column.display) items := by
      cases v with
      | list given | tuple given | set given =>
        obtain rfl := Option.some.inj hitems
        cases given with
        | nil => cases hx
        | cons => rw [ofEntry]; simp
      | _ => cases hitems
    rw [hvalues]
    exact boundIn_amongValues c hx hf false
  | @member negated spelling isTuple column values x hnull hempty rest hx hf =>
    rw [layoutOf, ofValue_membership negated spelling isTuple hnull]
    exact boundIn_ofMembers c hx hf hempty negated
  | @bound negated spelling isTuple column low high hcolumn hlow hhigh hf =>
    rw [layoutOf, ofValue_bounds negated spelling isTuple hcolumn hlow hhigh, Condition.layout]
    refine List.mem_append_left _ ?_
    rcases hf with hf | hf
    · exact List.mem_append_left _ (hf.boundIn.cons _)
    · exact List.mem_append_right _ (hf.boundIn.cons _)
  | @pattern operator hoperator spelling isTuple column values hnull rest hf =>
    have hkeyword := ofForm_spelling spelling
    rw [layoutOf, ofValue_form, ofForm, hkeyword]
    cases operator with
    | like | notLike | orLike | orNotLike => exact boundIn_ofPatterns c hnull hf ..
    | _ => cases hoperator
  | @compared token htoken isTuple column =>
    have hcompared : ofValue (.form isTuple token [column, f.value]) =
        .compared (Operator.normalize token) column f.value := by
      rw [ofValue_form, ofForm, htoken]
      rfl
    rw [layoutOf, hcompared, Condition.layout]
    exact List.mem_append_right _ (f.boundIn_ofPlain.cons _)

/-- **A fragment that columns are compared with keeps its parameters.** -/
theorem InCondition.boundIn {tree : Value} (h : f.InCondition indexes tree) :
    f.BoundIn (layoutOf c indexes tree) := by
  obtain ⟨context, leaf, hleaf, rfl⟩ := h
  exact (hleaf.boundIn c).of_isInfix (context.infix_layoutOf c indexes (List.infix_refl _))

/-- **A fragment that is a condition is read as its text**, wherever the condition stands. -/
theorem ofValue_fill_value (hf : f.sql ≠ "") (context : Context) :
    ofValue (context.fill f.value) = ofValue (context.fill (.text f.sql)) := by
  refine context.ofValue_fill_congr ?_
  have hempty : f.sql.isEmpty = false := by simpa using hf
  rw [Fragment.value, ofValue, ofValue, hempty]
  · rfl
  all_goals nofun

end SearchSql.Fragment
