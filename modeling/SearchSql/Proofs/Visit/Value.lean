import SearchSql.Proofs.Coercion.Column
import SearchSql.Proofs.Layout.Gathering
import SearchSql.Proofs.Visit.Basic

/-!
# What a visit comes to

At a place that is visited something is found to be wrong, or queries are bound, or neither. What
the layout of a value tells is what the visit of the value comes to: coercion leaves a query as it
is in a column of numbers and makes nothing else a query, and it fails only because of values of
the wrong kind.

## Main definitions

* `Incident`, `Layout.incidents` — what is looked for in a layout.
* `Visit.incidents` — what a visit comes to.

## Main statements

* `Layout.incidents_ofValue`, `Layout.incidents_ofPattern` — values of columns, and patterns.
-/
namespace SearchSql

/-- What is looked for in a layout. -/
inductive Incident where
  /-- A query is bound. -/
  | bound (q : Query)
  /-- Something is wrong that is not a value of the wrong kind. -/
  | rejected (f : Fault)

/-- What is found at a piece. -/
def Piece.incidents : Piece → List Incident
  | .bind v => v.query?.toList.map .bound
  | .fault (.misuse _) => []
  | .fault f => [.rejected f]
  | _ => []

/-- Queries that are bound, and what is wrong. -/
def Layout.incidents : Layout.Finder Incident where
  find := Piece.incidents
  find_text _ := rfl
  find_bind_text _ := rfl
  find_merge _ := rfl
  find_misuse _ := rfl

/-- What a visit comes to. -/
def Visit.incidents (c : Connection) (visit : Visit) : List Incident :=
  visit.flaw?.toList.map .rejected ++ (visit.bound c).map .bound

/-- A value of a column that is no query. -/
theorem Visit.incidents_value (c : Connection) (names : List String) (column : Value) {v : Value}
    (h : v.query? = none) : (Visit.value names column v).incidents c =
      if Column.keepsQueries (Layout.columnOf (c.known names) column) then
        ((v.members?.getD []).filterMap Value.query?).map .bound
      else [] := by
  have hflaw : (Visit.value names column v).flaw? = none := by
    cases v with
    | query => cases h
    | _ => rfl
  rw [incidents, hflaw, bound]
  split <;> rfl

/-! ## Coercion -/

/-- Work that gives no query, and fails, if it does, because of a value of the wrong kind. -/
structure Checked.GivesNoQuery (found : Checked Value) : Prop where
  /-- Faults are values of the wrong kind. -/
  failsByMisuse : found.FailsByMisuse
  /-- Results are no queries. -/
  query?_eq_none : ∀ v, found = .ok v → v.query? = none

namespace Checked.GivesNoQuery

theorem ok {v : Value} (h : v.query? = none) : GivesNoQuery (.ok v) where
  failsByMisuse := .ok v
  query?_eq_none _ hv := Except.ok.inj hv ▸ h

theorem misuse (how : Misuse) : GivesNoQuery (.error (.misuse how)) where
  failsByMisuse := .misuse how
  query?_eq_none := nofun

end Checked.GivesNoQuery

namespace Held

open Checked

theorem givesNoQuery_toText (v : Value) : (toText v).GivesNoQuery := by
  cases hoctets : v.isOctets with
  | true =>
    cases v with
    | bytes | buffer => exact .ok rfl
    | _ => cases hoctets
  | false =>
    rw [toText_eq hoctets]
    split
    · exact .ok rfl
    · exact .misuse _

/-- What a numeral denotes, or what is written where there is none. -/
theorem givesNoQuery_elim {α : Type} (found : Option α) {v : Value} (hv : v.query? = none)
    {wrap : α → Value} (hwrap : ∀ a, (wrap a).query? = none) :
    GivesNoQuery (.ok (found.elim v wrap)) := by
  cases found with
  | none => exact .ok hv
  | some a => exact .ok (hwrap a)

theorem givesNoQuery_toInteger {v : Value} (h : v.query? = none) :
    (toInteger v).GivesNoQuery := by
  cases v with
  | float x =>
    simp only [toInteger]
    split
    · exact .ok rfl
    · split
      · exact .ok rfl
      · exact .misuse _
  | text | bytes | buffer => exact givesNoQuery_elim _ rfl fun _ => rfl
  | query q => cases h
  | _ => exact .ok rfl

theorem givesNoQuery_toNumber {v : Value} (h : v.query? = none) :
    (toNumber v).GivesNoQuery := by
  cases v with
  | int n =>
    rw [toNumber_int]
    split
    · exact .misuse _
    · exact .ok rfl
  | text | bytes | buffer => exact givesNoQuery_elim _ rfl fun _ => rfl
  | query q => cases h
  | _ => exact .ok rfl

/-- Flags and texts are never queries; integers and numbers only if they were before. -/
theorem givesNoQuery_convert (kind : Held) {v : Value}
    (h : kind = .flag ∨ kind = .text ∨ v.query? = none) : (kind.convert v).GivesNoQuery := by
  cases kind with
  | flag => exact .ok rfl
  | text => exact givesNoQuery_toText v
  | integer => exact givesNoQuery_toInteger (by simpa using h)
  | number => exact givesNoQuery_toNumber (by simpa using h)

end Held

namespace Column

open Checked

/-- What is coerced is no query unless it was one before. -/
theorem givesNoQuery_coerce (column : Option Column) {v : Value} (h : v.query? = none) :
    (coerce column v).GivesNoQuery := by
  cases column with
  | none => exact .ok h
  | some column =>
    have hcoerces := column.type.coerces v
    rw [coerce]
    generalize column.type.coerce v = found at hcoerces ⊢
    cases hcoerces with
    | absent => exact .ok rfl
    | met => exact .ok h
    | serialized =>
      cases v.json? with
      | none => exact .ok h
      | some s => exact .ok rfl
    | converted => exact Held.givesNoQuery_convert _ (Or.inr (Or.inr h))

/-- A query stays as it is in some columns and becomes something else in the others. A document
takes it only as a part of a value. -/
theorem coerce_query (column : Option Column) (hjson : ∀ name, column ≠ some ⟨name, .json⟩)
    (q : Query) :
    if keepsQueries column then coerce column (.query q) = .ok (.query q)
    else (coerce column (.query q)).GivesNoQuery := by
  match column with
  | none => rfl
  | some ⟨name, type⟩ =>
    cases type with
    | json => exact absurd rfl (hjson name)
    | field | string =>
      rw [if_neg (by simp [keepsQueries, ColumnType.holds])]
      exact Held.givesNoQuery_toText (.query q)
    | bool =>
      rw [if_neg (by simp [keepsQueries, ColumnType.holds])]
      exact .ok rfl
    | _ => rfl

end Column

/-! ## Patterns -/

namespace Replacement

open Checked

/-- The table that a value describes fails only because of values of the wrong kind. -/
theorem failsByMisuse_apply {v : Value} {table : Replacement} (h : ofValue v = .ok (some table))
    (s : String) : (table.apply s).FailsByMisuse := by
  have hcontent (v : Value) : (content v).FailsByMisuse := by
    cases v with
    | text | null => exact .ok _
    | _ => exact .misuse _
  have hpairs : ∀ pair ∈ table.pairs, pair.2.FailsByMisuse := by
    unfold ofValue at h
    split at h
    · cases h
    · split at h
      · cases h
      · obtain rfl := Option.some.inj (Except.ok.inj h)
        rintro ⟨key, found⟩ hpair
        have hfound := (List.of_mem_zip hpair).2
        simp only at hfound
        split at hfound
        · obtain ⟨entry, -, rfl⟩ := List.mem_map.1 hfound
          exact hcontent _
        · obtain ⟨_, -, rfl⟩ := List.mem_map.1 hfound
          exact .misuse _
  have hfind (key : List Char) : (table.find key).FailsByMisuse := by
    rw [find]
    cases hkey : table.pairs.lookup key with
    | none => exact .misuse _
    | some found =>
      obtain ⟨front, back, heq, -⟩ := List.lookup_eq_some_iff.1 hkey
      exact hpairs (key, found) (by simp [heq])
  have hreplace (stretch : Stretch) : (table.replace stretch).FailsByMisuse := by
    cases stretch with
    | hit key => exact hfind key
    | kept c => exact .ok _
  exact (FailsByMisuse.mapM hreplace _).bind fun parts => .ok _

theorem ofValue_ne_ok_none {v : Value} (h : v.truthy = true) : ofValue v ≠ .ok none := by
  unfold ofValue
  rw [h]
  simp only [Bool.not_true, Bool.false_eq_true, if_false]
  split <;> nofun

theorem failsByMisuse_ofValue (v : Value) : (ofValue v).FailsByMisuse := by
  unfold ofValue
  split
  · exact .ok _
  · split
    · exact .misuse _
    · exact .ok _

end Replacement

theorem Like.pattern_of_not_truthy {v table : Value} (h : table.truthy = false) :
    pattern v table = .ok v := by
  rw [pattern, h]
  rfl

/-- A pattern is a text if it is escaped, and else what it is made for. -/
theorem Like.givesNoQuery_pattern {v table : Value} (h : table.truthy = true ∨ v.query? = none) :
    (pattern v table).GivesNoQuery := by
  cases hgiven : table.truthy with
  | false =>
    rw [pattern_of_not_truthy hgiven]
    exact .ok (h.resolve_left (by simp [hgiven]))
  | true =>
    rw [pattern, hgiven]
    rcases v.shown_eq_or with hshown | hshown <;> rw [hshown]
    · cases htable : Replacement.ofValue table with
      | error f =>
        obtain ⟨how, rfl⟩ := Replacement.failsByMisuse_ofValue table f htable
        exact .misuse how
      | ok found =>
        cases found with
        | none => exact absurd htable (Replacement.ofValue_ne_ok_none hgiven)
        | some table =>
          change Checked.GivesNoQuery (do return .text ("%" ++ (← table.apply v.display) ++ "%"))
          cases happly : table.apply v.display with
          | error f =>
            obtain ⟨how, rfl⟩ := Replacement.failsByMisuse_apply htable v.display f happly
            exact .misuse how
          | ok s => exact .ok rfl
    · exact .misuse _

namespace Layout

/-! ## Values of columns -/

/-- A value that is bound, unless there is none by some fault. -/
def ofResult : Checked Value → Layout
  | .ok v => [.bind v]
  | .error f => [.fault f]

theorem incidents_ofResult {found : Checked Value} (h : found.GivesNoQuery) :
    incidents.gather (ofResult found) = [] := by
  cases found with
  | ok v => simp [incidents, ofResult, Finder.gather, Piece.incidents, h.query?_eq_none v rfl]
  | error f =>
    obtain ⟨how, rfl⟩ := h.failsByMisuse f rfl
    rfl

theorem incidents_ofBound_of_givesNoQuery {column : Option Column} {v : Value}
    (h : (Column.coerce column v).GivesNoQuery) : incidents.gather (ofBound column v) = [] := by
  cases v with
  | raw => rfl
  | _ => exact incidents_ofResult h

theorem incidents_ofBound {column : Option Column} {v : Value} (h : v.query? = none) :
    incidents.gather (ofBound column v) = [] :=
  incidents_ofBound_of_givesNoQuery (Column.givesNoQuery_coerce column h)

theorem incidents_ofBound_query {column : Option Column}
    (hjson : ∀ name, column ≠ some ⟨name, .json⟩) (q : Query) :
    incidents.gather (ofBound column (.query q)) =
      if Column.keepsQueries column then [.bound q] else [] := by
  have hcoerce := Column.coerce_query column hjson q
  split at hcoerce
  · rename_i hkeeps
    rw [if_pos hkeeps]
    simp only [ofBound, hcoerce]
    rfl
  · rename_i hkeeps
    rw [if_neg hkeeps]
    exact incidents_ofBound_of_givesNoQuery hcoerce

theorem incidents_ofMembers (column : Option Column) {v : Value} (items : List Value)
    (h : v.query? = none) : incidents.gather (ofMembers column v items) =
      if Column.keepsQueries column then (items.filterMap Value.query?).map .bound else [] := by
  unfold ofMembers
  split
  · rename_i name
    have hdocument : Column.keepsQueries (some ⟨name, .json⟩) = false := by
      simp [Column.keepsQueries, ColumnType.holds]
    rw [incidents_ofBound h, if_neg (Bool.eq_false_iff.1 hdocument)]
  · rename_i hjson
    have hitem (item : Value) : incidents.gather (ofBound column item) =
        if Column.keepsQueries column then item.query?.toList.map .bound else [] := by
      cases hquery : item.query? with
      | none => simp [incidents_ofBound hquery]
      | some q =>
        obtain rfl : item = .query q := by
          cases item <;> simp_all [Value.query?]
        exact incidents_ofBound_query (fun name => hjson name) q
    rw [Finder.gather_enclose, Finder.gather_join, List.flatMap_map]
    simp only [hitem]
    split
    · rw [← List.map_flatMap, List.filterMap_eq_flatMap_toList]
    · simp

/-- **What a value of a column tells.** -/
theorem incidents_ofValue (c : Connection) (names : List String) (column v : Value) :
    incidents.gather (ofValue (c.known names) column v) =
      (Visit.value names column v).incidents c := by
  cases v with
  | query q =>
    rw [ofValue, Visit.incidents, Visit.bound]
    cases hcolumn : column.isWritable <;> simp [Visit.flaw?, Value.members?, incidents,
      Finder.gather, Piece.incidents, Value.faultShowing, hcolumn]
  | list items | tuple items | set items =>
    rw [Visit.incidents_value c names column rfl]
    exact incidents_ofMembers _ items rfl
  | null | raw =>
    rw [Visit.incidents_value c names column rfl]
    simp [Value.members?, ofValue]
  | _ =>
    rw [Visit.incidents_value c names column rfl]
    simp only [ofValue, Value.members?, Option.getD_none, List.filterMap_nil, List.map_nil,
      ite_self]
    exact incidents_ofBound rfl

theorem incidents_ofCompared (c : Connection) (v : Value) :
    incidents.gather (ofCompared v) = (Visit.operand v).incidents c := by
  cases v <;> rfl

/-- What a pattern tells. -/
theorem incidents_ofPattern (c : Connection) (escape : Option Value) (v : Value) :
    incidents.gather (ofPattern (escape.getD (Like.tableValue c.settings.likeEscape)) v) =
      (Visit.pattern escape v).incidents c := by
  generalize htable : escape.getD (Like.tableValue c.settings.likeEscape) = table
  have hvisit : (Visit.pattern escape v).incidents c =
      if table.truthy then [] else v.query?.toList.map .bound := by
    rw [Visit.incidents, Visit.bound, htable]
    split <;> rfl
  rw [hvisit]
  cases htruthy : table.truthy with
  | true =>
    have hpattern := Like.givesNoQuery_pattern (v := v) (Or.inl htruthy)
    cases v with
    | raw => rfl
    | _ => exact incidents_ofResult hpattern
  | false =>
    cases v with
    | raw => rfl
    | _ =>
      simp only [ofPattern, Like.pattern_of_not_truthy htruthy]
      rfl

end Layout

end SearchSql
