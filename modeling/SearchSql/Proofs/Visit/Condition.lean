import SearchSql.Proofs.Visit.Value

/-!
# What operators come to

What the layout of an option, of a facet or of a comparison tells is what the visits of its places
come to, in their order. An operator tells what its operands do if they are those it needs, and
only that they are wrong if not.

## Main definitions

* `Visit.incidentsOf` — what visits come to, one after the other.
* `Operator.incidents` — what an operator tells.

## Main statements

* `Layout.incidents_ofOption`, `Layout.incidents_ofFacet` — options and facets.
* `Condition.incidents_ofBounds`, `Condition.incidents_ofPatterns`,
  `Condition.incidents_ofMembership` — operators.
* `Condition.incidentsOf_formVisits_of_some` — conditions in operator form.
-/
namespace SearchSql

variable (c : Connection) (names : List String)

/-- What visits come to, one after the other. -/
def Visit.incidentsOf (visits : List Visit) : List Incident := visits.flatMap (Visit.incidents c)

namespace Visit

@[simp] theorem incidentsOf_nil : incidentsOf c [] = [] := rfl

@[simp] theorem incidentsOf_cons (visit : Visit) (visits : List Visit) :
    incidentsOf c (visit :: visits) = visit.incidents c ++ incidentsOf c visits :=
  List.flatMap_cons

@[simp] theorem incidentsOf_append (first second : List Visit) :
    incidentsOf c (first ++ second) = incidentsOf c first ++ incidentsOf c second :=
  List.flatMap_append

@[simp] theorem incidentsOf_flatMap {α : Type} (items : List α) (visits : α → List Visit) :
    incidentsOf c (items.flatMap visits) = items.flatMap fun a => incidentsOf c (visits a) :=
  List.flatMap_assoc ..

@[simp] theorem incidentsOf_map {α : Type} (items : List α) (visit : α → Visit) :
    incidentsOf c (items.map visit) = items.flatMap fun a => (visit a).incidents c :=
  List.flatMap_map ..

end Visit

open Layout

/-! ## Options and facets -/

namespace Layout

mutual

/-- **What the value of an option tells.** -/
theorem incidents_ofOption (v : Value) :
    incidents.gather (ofOption v) = Visit.incidentsOf c v.optionVisits := by
  match v with
  | .map pairs =>
    rw [ofOption, Finder.gather_enclose, Finder.gather_join, incidents_ofOptionPairs pairs]
    rfl
  | .list items | .tuple items =>
    rw [ofOption, Finder.gather_enclose, Finder.gather_join, incidents_ofOptionItems items]
    rfl
  | .raw _ _ | .null | .bool _ | .int _ | .float _ | .text _ | .bytes _ | .buffer _ | .set _
  | .query _ => rfl

theorem incidents_ofOptionItems (items : List Value) :
    (ofOptionItems items).flatMap incidents.gather =
      Visit.incidentsOf c (Value.optionItemVisits items) := by
  match items with
  | [] => rfl
  | v :: rest =>
    rw [ofOptionItems, List.flatMap_cons, incidents_ofOption v, incidents_ofOptionItems rest,
      Value.optionItemVisits, Visit.incidentsOf_append]

theorem incidents_ofOptionPairs (pairs : List (Value × Value)) :
    (ofOptionPairs pairs).flatMap incidents.gather =
      Visit.incidentsOf c (Value.optionPairVisits pairs) := by
  match pairs with
  | [] => rfl
  | (key, v) :: rest =>
    have hv := incidents_ofOption v
    have hrest := incidents_ofOptionPairs rest
    cases key <;> simp [ofOptionPairs, Value.optionPairVisits, hv, hrest]

end

/-- What a facet tells. -/
theorem incidents_ofFacet (entry : Entry) :
    incidents.gather (ofFacet c (Facet.ofEntry entry)) = (Visit.facet entry).incidents c := by
  obtain ⟨key, v⟩ := entry
  cases key with
  | none => exact incidents.gather_ofFacet_ofMapping c v []
  | some key =>
    cases v with
    | map m => exact incidents.gather_ofFacet_ofMapping c (.text key) m
    | _ => rfl

/-! ## Values that are compared -/

theorem incidents_ofChecked (column : Value) {cell : Checked Value} (h : cell.FailsByMisuse) :
    incidents.gather (ofChecked (c.known names) column cell) =
      Visit.incidentsOf c (Condition.cellVisits names column cell) := by
  cases cell with
  | ok v =>
    rw [ofChecked, incidents_ofValue]
    exact (List.append_nil _).symm
  | error f =>
    obtain ⟨how, rfl⟩ := h f rfl
    rfl

end Layout

theorem Mapping.failsByMisuse_cell (column : Value) (row : Mapping) :
    (cell column row).FailsByMisuse := by
  rw [cell]
  split
  · exact .ok _
  · exact .misuse _

theorem Value.failsByMisuse_cell (column v : Value) : (cell column v).FailsByMisuse := by
  cases v with
  | map row => exact Mapping.failsByMisuse_cell column row
  | _ => exact .ok _

/-- What an operator tells, if it has the operands it needs, and if not. -/
def Operator.incidents (operator : Operator) (operands : List Value) (visits : List Visit) :
    List Incident :=
  if operator.accepts operands then Visit.incidentsOf c visits
  else [.rejected (.operands operator.keyword operator.required)]

namespace Condition

/-- The operator for membership, or for its denial. -/
abbrev membershipOperator (negated : Bool) : Operator :=
  if negated then .notAmong else .among

/-- What a row that several columns are compared with tells. -/
theorem incidents_row (operator : Operator) {columns : List Value} (h : columns ≠ []) (v : Value) :
    (columns.zipWith (ofChecked (c.known names)) (rowOf operator.keyword columns v)).flatMap
        incidents.gather =
      Visit.incidentsOf c (.row operator v :: rowVisits names columns v) := by
  cases v with
  | map row =>
    rw [rowOf, List.zipWith_map_right, List.zipWith_self, List.flatMap_map,
      Visit.incidentsOf_cons, rowVisits, Visit.incidentsOf_flatMap]
    simp only [incidents_ofChecked c names _ (Mapping.failsByMisuse_cell _ _)]
    rfl
  | _ =>
    -- the fault stands in the place of the first value
    obtain ⟨first, rest, rfl⟩ := List.exists_cons_of_ne_nil h
    simp only [rowOf, List.zipWith_cons_cons, List.zipWith_nil_right]
    rfl

/-- What the values tell that columns are compared with. -/
theorem incidents_amongValues (negated : Bool) {column : Value} (h : column.columns ≠ [])
    (values : List Value) :
    incidents.gather ((amongValues negated column values).layout c (c.known names)) =
      Visit.incidentsOf c (memberVisits names (membershipOperator negated) column values) := by
  rw [amongValues, memberVisits]
  match column.columns, h with
  | [single], _ =>
    simp only [layout, Finder.gather_append_naming, Finder.gather_ofMembership, List.flatMap_map,
      Visit.incidentsOf_flatMap, incidents_ofChecked c names _ (Value.failsByMisuse_cell _ _)]
  | first :: second :: others, h =>
    simp only [layout, Finder.gather_append_naming, Finder.gather_ofRows, List.flatMap_map,
      Visit.incidentsOf_flatMap, Finder.gather_enclose, Finder.gather_join,
      incidents_row c names _ h]

/-! ## Operators -/

/-- What an operator with the wrong operands tells. -/
theorem incidents_wrongOperands (keyword : String) (required : Operands) :
    incidents.gather ((wrongOperands keyword required).layout c (c.known names)) =
      [.rejected (.operands keyword required)] := by
  rw [wrongOperands, layout]
  rfl

/-- Operators that need a column and something beside it. -/
theorem incidents_operator_pair {operator : Operator}
    (h : operator.isIn .membership = true ∨ operator.isIn .pattern = true) (column v : Value)
    (rest : List Value) (visits : List Visit) :
    Operator.incidents c operator (column :: v :: rest) visits =
      if column.isNull || v.isNull then [.rejected (.operands operator.keyword .two)]
      else Visit.incidentsOf c visits := by
  have hrequired : operator.required = .two := by
    cases operator <;> simp [Operator.isIn] at h <;> rfl
  have haccepts : operator.accepts (column :: v :: rest) = !(column.isNull || v.isNull) := by
    cases operator <;> simp [Operator.isIn] at h <;> simp [Operator.accepts]
  rw [Operator.incidents, hrequired, haccepts]
  cases column.isNull || v.isNull <;> rfl

theorem incidents_ofBounds (negated : Bool) (operands : List Value) :
    incidents.gather ((ofBounds negated operands).layout c (c.known names)) =
      Operator.incidents c (if negated then .notBetween else .between) operands
        (boundVisits names operands) := by
  have hwrong : incidents.gather ((ofBounds.wrong negated).layout c (c.known names)) =
      [.rejected (.operands (if negated then Operator.notBetween else .between).keyword .three)] :=
    incidents_wrongOperands ..
  have hoperator : Operator.incidents c (if negated then .notBetween else .between) operands
        (boundVisits names operands) =
      if operands.length == 3 && operands.all (!·.isNull) then
        Visit.incidentsOf c (boundVisits names operands)
      else [.rejected (.operands (if negated then Operator.notBetween else .between).keyword
        .three)] := by
    cases negated <;> rfl
  rw [hoperator]
  match operands with
  | [column, low, high] =>
    rw [ofBounds]
    by_cases hnull : column.isNull || low.isNull || high.isNull
    · have hmissing : ¬ ([column, low, high].length == 3 &&
          [column, low, high].all (!·.isNull)) := by
        simpa [or_imp, imp_iff_not_or, or_assoc] using hnull
      rw [if_pos hnull, if_neg hmissing, hwrong]
    · have hgiven : ([column, low, high].length == 3 &&
          [column, low, high].all (!·.isNull)) = true := by
        simpa [and_assoc] using hnull
      rw [if_neg hnull, if_pos hgiven, layout]
      simp [incidents_ofValue, boundVisits]
  | [] | [_] | [_, _] | _ :: _ :: _ :: _ :: _ => exact hwrong

/-- What patterns tell. -/
theorem incidents_like (negated any : Bool) (column : Value) (escape : Option Value)
    (patterns : List Value) :
    incidents.gather ((Condition.like negated any column escape patterns).layout c
        (c.known names)) = Visit.incidentsOf c (patterns.map (.pattern escape)) := by
  simp only [layout, Layout.ofPatterns, Finder.gather_naming_append, Finder.gather_join,
    List.flatMap_map, Finder.gather_cons, Finder.find_text, List.nil_append,
    incidents_ofPattern, Visit.incidentsOf_map]

theorem incidents_ofPatterns {operator : Operator} (h : operator.isIn .pattern = true)
    (negated any : Bool) (operands : List Value) :
    incidents.gather ((ofPatterns operator negated any operands).layout c (c.known names)) =
      Operator.incidents c operator operands (patternVisits operands) := by
  match operands with
  | column :: values :: rest =>
    have hpatterns : ofPatterns operator negated any (column :: values :: rest) =
        if column.isNull || values.isNull then wrongOperands operator.keyword .two
        else if values.isEmptyList then if negated then .always else .never
        else .like negated any column (rest.head?.filter (!·.isNull))
          (values.members?.getD [values]) := by
      rcases hmembers : values.members? with _ | _ | ⟨first, others⟩ <;>
        simp only [ofPatterns, Value.isEmptyList, hmembers]
      all_goals
        cases rest with
        | nil => rfl
        | cons v more => cases v <;> rfl
    rw [incidents_operator_pair c (Or.inr h), hpatterns, patternVisits]
    split
    · exact incidents_wrongOperands ..
    · split
      · rename_i hempty
        have hnone : values.members?.getD [values] = [] := by
          rw [Value.isEmptyList] at hempty
          cases hmembers : values.members? with
          | none => simp [hmembers] at hempty
          | some patterns => simpa [hmembers] using hempty
        rw [hnone]
        cases negated <;> rfl
      · exact incidents_like ..
  | [] | [_] =>
    cases operator with
    | like | notLike | orLike | orNotLike => exact incidents_wrongOperands ..
    | _ => simp [Operator.isIn] at h

theorem incidents_ofComparison (keyword : String) (operands : List Value) :
    incidents.gather ((ofComparison keyword operands).layout c (c.known names)) =
      if operands.length = 2 then Visit.incidentsOf c (operandVisits operands)
      else [.rejected (.operands keyword .two)] := by
  match operands with
  | [column, operand] =>
    rw [ofComparison, layout]
    simp [incidents_ofCompared c, operandVisits]
  | [] | [_] | _ :: _ :: _ :: _ => exact incidents_wrongOperands ..

theorem incidents_amongNothing (negated : Bool) :
    incidents.gather ((amongNothing negated).layout c (c.known names)) = [] := by
  cases negated <;> rfl

theorem columns_ne_nil {column : Value} (h : column.isEmptyList = false) :
    column.columns ≠ [] := by
  cases column with
  | list items | tuple items => exact List.isEmpty_eq_false_iff.1 h
  | _ => exact List.cons_ne_nil _ _

/-- What the values tell that columns are compared with, if there are columns. -/
theorem incidents_members (negated : Bool) (column : Value) {v : Value} (hnull : v.isNull = false)
    (hquery : v.query? = none) :
    incidents.gather ((ofMembers negated column v).layout c (c.known names)) =
      Visit.incidentsOf c (if column.isEmptyList then []
        else memberVisits names (membershipOperator negated) column (v.members?.getD [v])) := by
  have hmembers : ofMembers negated column v =
      if v.isEmptyList || column.isEmptyList then amongNothing negated
      else amongValues negated column (v.members?.getD [v]) := by
    cases v with
    | null => cases hnull
    | query => cases hquery
    | _ => rfl
  rw [hmembers]
  by_cases hcolumn : column.isEmptyList = true
  · rw [if_pos (by simp [hcolumn]), if_pos hcolumn, incidents_amongNothing]
    rfl
  · rw [if_neg hcolumn]
    have hcolumns := columns_ne_nil (Bool.eq_false_iff.2 hcolumn)
    by_cases hv : v.isEmptyList = true
    · have hnothing : memberVisits names (membershipOperator negated) column
          (v.members?.getD [v]) = [] := by
        have hitems : v.members? = some [] := by
          cases v with
          | list items | tuple items | set items => exact congrArg some (List.isEmpty_iff.1 hv)
          | _ => cases hv
        rw [hitems, memberVisits]
        split <;> rfl
      rw [if_pos (by simp [hv]), incidents_amongNothing, hnothing]
      rfl
    · rw [if_neg (by simp [hv, hcolumn]), incidents_amongValues c names negated hcolumns]

/-- Membership needs a column and what it is compared with. -/
theorem incidents_ofMembership (negated : Bool) (column v : Value) (rest : List Value)
    (h : column.isNull = false → v.isNull = false →
      incidents.gather ((ofMembers negated column v).layout c (c.known names)) =
        Visit.incidentsOf c
          (membershipVisits names (membershipOperator negated) (column :: v :: rest))) :
    incidents.gather ((ofMembership negated (column :: v :: rest)).layout c (c.known names)) =
      Operator.incidents c (membershipOperator negated) (column :: v :: rest)
        (membershipVisits names (membershipOperator negated) (column :: v :: rest)) := by
  have hwrong : incidents.gather ((wrongMembership negated).layout c (c.known names)) =
      [.rejected (.operands (membershipOperator negated).keyword .two)] :=
    incidents_wrongOperands ..
  have hmembership : (membershipOperator negated).isIn .membership = true := by
    cases negated <;> rfl
  rw [incidents_operator_pair c (Or.inl hmembership), ofMembership]
  cases hcolumn : column.isNull with
  | true => exact hwrong
  | false =>
    cases hv : v.isNull with
    | true =>
      obtain rfl : v = .null := by
        cases v with
        | null => rfl
        | _ => cases hv
      exact hwrong
    | false => exact h hcolumn hv

/-! ## Conditions in operator form -/

/-- What is wrong with a condition is all that it tells; else it tells what its operands do. -/
theorem incidentsOf_form (items : List Value) (visits : List Visit) :
    Visit.incidentsOf c (.form items :: if (formFlaw? items).isSome then [] else visits) =
      (formFlaw? items).elim (Visit.incidentsOf c visits) fun f => [.rejected f] := by
  rw [Visit.incidentsOf_cons, Visit.incidents, Visit.flaw?, Visit.bound]
  · cases formFlaw? items <;> rfl
  all_goals simp

/-- What a condition tells that begins with something else than a text. -/
theorem incidents_ofForm_of_not_text {token : Value} (operands : List Value)
    (h : token.text? = none) :
    incidents.gather ((ofForm (token :: operands)).layout c (c.known names)) =
      Visit.incidentsOf c (formVisits names (token :: operands)) := by
  have hform : ofForm (token :: operands) = .malformed
      (if token.hasLiteral then .operatorNotText token.literal else .misuse .meaningless) := by
    cases token with
    | text => cases h
    | _ => rfl
  have hflaw : formFlaw? (token :: operands) =
      if token.hasLiteral then some (.operatorNotText token.literal) else none := by
    cases token with
    | text => cases h
    | _ => rfl
  have hvisits : formVisits names (token :: operands) = [.form (token :: operands)] := by
    cases token with
    | text => cases h
    | _ => rfl
  have hvisit : (Visit.form (token :: operands)).incidents c =
      (formFlaw? (token :: operands)).toList.map .rejected := List.append_nil _
  rw [hform, layout, hvisits, Visit.incidentsOf_cons, hvisit, hflaw]
  cases token.hasLiteral <;> rfl

/-- What a condition tells whose keyword is no operator. -/
theorem incidentsOf_formVisits_of_none {token : String} (operands : List Value)
    (h : Operator.ofKeyword? (Operator.normalize token) = none) :
    Visit.incidentsOf c (formVisits names (.text token :: operands)) =
      if operands.length = 2 then Visit.incidentsOf c (operandVisits operands)
      else [.rejected (.operands (Operator.normalize token) .two)] := by
  rw [formVisits, incidentsOf_form, formFlaw?]
  simp only [h]
  split <;> rfl

/-- The places in the operands of an operator. -/
def operatorVisits (operator : Operator) (operands : List Value) : List Visit :=
  match operator with
  | .and | .or | .not => allVisits names operands
  | .between | .notBetween => boundVisits names operands
  | .among => membershipVisits names .among operands
  | .notAmong => membershipVisits names .notAmong operands
  | .like | .notLike | .orLike | .orNotLike => patternVisits operands

/-- What a condition tells that is made by an operator. -/
theorem incidentsOf_formVisits_of_some {token : String} {operator : Operator}
    (operands : List Value) (h : Operator.ofKeyword? (Operator.normalize token) = some operator) :
    Visit.incidentsOf c (formVisits names (.text token :: operands)) =
      Operator.incidents c operator operands (operatorVisits names operator operands) := by
  rw [formVisits, incidentsOf_form, formFlaw?, Operator.incidents]
  simp only [h]
  split
  · cases operator <;> rfl
  · rfl

end Condition

end SearchSql
