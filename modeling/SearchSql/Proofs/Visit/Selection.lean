import SearchSql.Proofs.Entities.Selection
import SearchSql.Proofs.Visit.Condition

/-!
# What a query comes to

A condition, and a query with all its clauses, tell what the visits of their places come to, in
their order.

## Main statements

* `Layout.incidents_condition`, `Layout.incidents_selection` — conditions and queries.
-/
namespace SearchSql

variable (c : Connection)

namespace Layout

/-- A query tells what its clauses do, or that indexes are joined. -/
theorem incidents_of_clauses {q : Query}
    (hsources : (Source.layouts c (Source.listOf q.source)).flatMap incidents.gather =
      Visit.incidentsOf c (Source.allVisits q.source))
    (hcondition : incidents.gather (Condition.layoutOf c (c.known q.indexNames) q.condition) =
      Visit.incidentsOf c (Condition.visits q.indexNames q.condition))
    (hhaving : incidents.gather (Condition.layoutOf c (c.known q.indexNames) q.having) =
      Visit.incidentsOf c (Condition.visits q.indexNames q.having)) :
    incidents.gather (q.layout c) = Visit.incidentsOf c q.visits := by
  have hquery : (Visit.query q).incidents c =
      if q.joins.isEmpty then [] else [.rejected (.unsupportedClause "JOIN")] := by
    rw [Visit.incidents, Visit.flaw?, Visit.bound]
    · cases q.joins.isEmpty <;> rfl
    all_goals simp
  have hnames : ∀ names : List String, incidents.find (.indexes names) = [] := fun _ => rfl
  rw [Query.layout, Finder.gather_selection, Query.visits_eq, Visit.incidentsOf_cons, hquery,
    Selection.ofQuery_isJoined, Selection.ofQuery_sources, Selection.ofQuery_condition,
    Selection.ofQuery_having, Selection.ofQuery_options, Selection.ofQuery_facets,
    Selection.indexes, Selection.indexNames_ofQuery, hsources]
  cases q.joins.isEmpty with
  | false => rfl
  | true =>
    simp only [hnames, Condition.layoutOf] at hcondition hhaving ⊢
    simp [hcondition, hhaving, incidents_ofOption c, List.flatMap_map, incidents_ofFacet]

-- By induction on the value that describes a condition or a query, case by case as it is read.
mutual

/-- **What a condition tells is what its visits come to**, in their order. -/
theorem incidents_condition (names : List String) (v : Value) :
    incidents.gather (Condition.layoutOf c (c.known names) v) =
      Visit.incidentsOf c (Condition.visits names v) := by
  match v with
  | .null | .map [] => rfl
  | .text s =>
    rw [Condition.layoutOf, Condition.ofValue]
    split
    · rfl
    · exact incidents.gather_ofText s
  | .map (entry :: rest) =>
    rw [Condition.layoutOf, Condition.ofValue, Condition.layout]
    · exact (incidents.gather_ofRecord _).trans (incidents_entries names (entry :: rest))
    all_goals simp
  | .list items => exact incidents_form names items
  | .tuple items => exact incidents_form names items
  | .bool _ | .int _ | .float _ | .bytes _ | .buffer _ | .set _ | .raw _ _ | .query _ =>
    simp [Condition.layoutOf, Condition.ofValue, Condition.layout, Condition.visits]

theorem incidents_entries (names : List String) (entries : List (Value × Value)) :
    (Condition.layouts c (c.known names) (Condition.ofEntries entries)).flatMap incidents.gather =
      Visit.incidentsOf c (Condition.entryVisits names entries) := by
  match entries with
  | [] => rfl
  | (key, v) :: rest =>
    rw [Condition.ofEntries, Condition.layouts, List.flatMap_cons, Finder.gather_showing,
      incidents_entry names _ v, incidents_entries names rest, Condition.entryVisits,
      Visit.incidentsOf_append]

theorem incidents_entry (names : List String) (name : String) (v : Value) :
    incidents.gather ((Condition.ofEntry (.text name) v).layout c (c.known names)) =
      Visit.incidentsOf c (Condition.columnVisits names (.text name) v) := by
  match v with
  | .query q =>
    rw [Condition.ofEntry, Condition.layout, Finder.gather_append_naming,
      Finder.gather_ofSelected]
    exact incidents_selection q
  | .null => rfl
  | .list items | .tuple items | .set items =>
    cases items with
    | nil => rfl
    | cons first rest =>
      have hcolumns : (Value.text name).columns ≠ [] := Condition.columns_ne_nil rfl
      exact Condition.incidents_amongValues c names false hcolumns (first :: rest)
  | .bool _ | .int _ | .float _ | .text _ | .bytes _ | .buffer _ | .map _ | .raw _ _ =>
    simp [Condition.ofEntry, Condition.layout, Condition.columnVisits, incidents_ofValue]

theorem incidents_form (names : List String) (items : List Value) :
    incidents.gather ((Condition.ofForm items).layout c (c.known names)) =
      Visit.incidentsOf c (Condition.formVisits names items) := by
  match items with
  | [] => rfl
  | token :: operands =>
    cases token with
    | text token =>
      rw [Condition.ofForm]
      cases hkeyword : Operator.ofKeyword? (Operator.normalize token) with
      | none =>
        rw [Condition.incidentsOf_formVisits_of_none c names operands hkeyword]
        exact Condition.incidents_ofComparison ..
      | some operator =>
        rw [Condition.incidentsOf_formVisits_of_some c names operands hkeyword]
        cases operator with
        | and | or =>
          simp only [Condition.layout]
          exact (incidents.gather_connect ..).trans (incidents_operands names operands)
        | not => exact incidents_denied names operands
        | among => exact incidents_membership names false operands
        | notAmong => exact incidents_membership names true operands
        | between => exact Condition.incidents_ofBounds c names false operands
        | notBetween => exact Condition.incidents_ofBounds c names true operands
        | like | notLike | orLike | orNotLike =>
          exact Condition.incidents_ofPatterns c names rfl ..
    | _ => exact Condition.incidents_ofForm_of_not_text c names operands rfl

theorem incidents_operands (names : List String) (operands : List Value) :
    (Condition.layouts c (c.known names) (Condition.ofOperands operands)).flatMap
        incidents.gather = Visit.incidentsOf c (Condition.allVisits names operands) := by
  match operands with
  | [] => rfl
  | v :: rest =>
    rw [Condition.ofOperands, Condition.layouts, List.flatMap_cons, incidents_operands names rest,
      Condition.allVisits, Visit.incidentsOf_append, ← incidents_condition names v]
    rfl

theorem incidents_denied (names : List String) (operands : List Value) :
    incidents.gather ((Condition.ofDenied operands).layout c (c.known names)) =
      Operator.incidents c .not operands (Condition.allVisits names operands) := by
  match operands with
  | [operand] =>
    have hlayout : (Condition.ofDenied [operand]).layout c (c.known names) =
        (Condition.layoutOf c (c.known names) operand).negate := rfl
    rw [hlayout, Finder.gather_negate, incidents_condition names operand]
    exact (congrArg (Visit.incidentsOf c) (List.append_nil _)).symm
  | [] | _ :: _ :: _ => exact Condition.incidents_wrongOperands ..

theorem incidents_membership (names : List String) (negated : Bool) (operands : List Value) :
    incidents.gather ((Condition.ofMembership negated operands).layout c (c.known names)) =
      Operator.incidents c (Condition.membershipOperator negated) operands
        (Condition.membershipVisits names (Condition.membershipOperator negated) operands) := by
  match operands with
  | column :: v :: rest =>
    refine Condition.incidents_ofMembership c names negated column v rest fun _ hnull => ?_
    match v with
    | .query q =>
      rw [Condition.ofMembers, Condition.membershipVisits]
      split
      · exact Condition.incidents_amongNothing ..
      · rw [Condition.layout, Finder.gather_append_naming, Finder.gather_ofSelected]
        exact incidents_selection q
    | .null | .bool _ | .int _ | .float _ | .text _ | .bytes _ | .buffer _ | .list _ | .tuple _
    | .set _ | .map _ | .raw _ _ =>
      exact Condition.incidents_members c names negated column hnull rfl
  | [] | [_] => cases negated <;> exact Condition.incidents_wrongOperands ..

theorem incidents_source (position : Nat) (key : Option String) (v : Value) :
    incidents.gather ((Source.ofEntry position key v).layout c) =
      Visit.incidentsOf c (Source.visits v) := by
  match v with
  | .query q =>
    rw [Source.ofEntry, Source.layout, Finder.gather_enclose]
    exact incidents_selection q
  | .raw sql params => exact incidents.gather_ofRawLabeled ..
  | .text s => exact incidents.gather_source_ofText c key s
  | .null | .bool _ | .int _ | .float _ | .bytes _ | .buffer _ | .list _ | .tuple _ | .set _
  | .map _ => exact incidents.gather_source_ofDisplay c key _

theorem incidents_sourceItems (position : Nat) (items : List Value) :
    (Source.layouts c (Source.ofItems position items)).flatMap incidents.gather =
      Visit.incidentsOf c (Source.itemVisits items) := by
  match items with
  | [] => rfl
  | v :: rest =>
    rw [Source.ofItems, Source.layouts, List.flatMap_cons, incidents_source position none v,
      incidents_sourceItems (position + 1) rest, Source.itemVisits, Visit.incidentsOf_append]

theorem incidents_sourcePairs (position : Nat) (pairs : List (Value × Value)) :
    (Source.layouts c (Source.ofPairs position pairs)).flatMap incidents.gather =
      Visit.incidentsOf c (Source.pairVisits pairs) := by
  match pairs with
  | [] => rfl
  | (key, v) :: rest =>
    rw [Source.ofPairs, Source.layouts, List.flatMap_cons, incidents_source position key.text? v,
      incidents_sourcePairs (position + 1) rest, Source.pairVisits, Visit.incidentsOf_append]

theorem incidents_sources (entries : Entries Value) :
    (Source.layouts c (Source.listOf entries)).flatMap incidents.gather =
      Visit.incidentsOf c (Source.allVisits entries) := by
  match entries with
  | .positional items => exact incidents_sourceItems 0 items
  | .keyed pairs => exact incidents_sourcePairs 0 pairs

/-- **What a query tells is what its visits come to**, in their order. -/
theorem incidents_selection (q : Clauses Value) :
    incidents.gather ((Selection.ofQuery q).layout c) = Visit.incidentsOf c (Query.visits q) := by
  match q with
  | { select, distinct, modifier, source, joins, fulltext, condition, groupBy, within, having,
      orderBy, limit, offset, options, facets, showMeta, params } =>
    exact incidents_of_clauses c (incidents_sources source) (incidents_condition _ condition)
      (incidents_condition _ having)

end

end Layout

end SearchSql
