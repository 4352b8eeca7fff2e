import SearchSql.Proofs.Layout.Faults
import SearchSql.Proofs.Visit.Selection

/-!
# Malformed conditions

A condition is rejected just when something is wrong at a place that is visited, and then because
of the first such place. What is wrong can be told from the place alone, so nothing that is well
formed is rejected, and nothing malformed is accepted where all values have the right kind.

## Main definitions

* `Fault.isCompilation` — what is reported as an error of compilation.

## Main statements

* `Layout.fault?_eq_findSome?` — the first fault is the first thing that is found to be wrong.
* `Condition.rejects_iff_flawed` — when a condition is rejected, and why.
-/
namespace SearchSql

/-- Whether a fault is reported as an error of compilation: not what an operation cannot work on,
what fits no model, or what the server cannot do. -/
def Fault.isCompilation : Fault → Bool
  | .misuse _ | .invalid _ | .unsupportedMethod _ => false
  | _ => true

/-- The fault that is found. -/
def Incident.fault? : Incident → Option Fault
  | .rejected f => some f
  | .bound _ => none

/-- What is wrong with a condition in operator form is reported as an error of compilation. -/
theorem Condition.isCompilation_of_formFlaw? {items : List Value} {f : Fault}
    (h : formFlaw? items = some f) : f.isCompilation = true := by
  unfold formFlaw? at h
  split at h
  · cases h
  · split at h
    · split at h
      · cases h
      · obtain rfl := Option.some.inj h
        rfl
    · split at h
      · cases h
      · obtain rfl := Option.some.inj h
        rfl
  · split at h
    · obtain rfl := Option.some.inj h
      rfl
    · cases h

namespace Visit

/-- What is wrong at a place is reported as an error of compilation. -/
theorem isCompilation_of_flaw? {visit : Visit} {f : Fault} (h : visit.flaw? = some f) :
    f.isCompilation = true := by
  unfold flaw? at h
  split at h
  · exact Condition.isCompilation_of_formFlaw? h
  · split at h
    · obtain rfl := Option.some.inj h
      rfl
    · cases h
  · split at h
    · cases h
    · obtain rfl := Option.some.inj h
      rfl
  · split at h
    · cases h
    · obtain rfl := Option.some.inj h
      rfl
  · split at h
    · cases h
    · obtain rfl := Option.some.inj h
      rfl
  · cases h

/-- A visit finds to be wrong what is wrong at its place. -/
theorem findSome?_incidents (c : Connection) (visit : Visit) :
    (visit.incidents c).findSome? Incident.fault? = visit.flaw? := by
  have hbound : ((visit.bound c).map Incident.bound).findSome? Incident.fault? = none := by
    simp [Incident.fault?]
  rw [incidents, List.findSome?_append, hbound, Option.or_none]
  cases visit.flaw? <;> rfl

/-- The first thing that visits find to be wrong is what is wrong at the first such place. -/
theorem findSome?_incidentsOf (c : Connection) (visits : List Visit) :
    (incidentsOf c visits).findSome? Incident.fault? = visits.findSome? flaw? := by
  induction visits with
  | nil => rfl
  | cons visit rest ih =>
    rw [incidentsOf_cons, List.findSome?_append, findSome?_incidents, ih, List.findSome?_cons]
    cases visit.flaw? <;> rfl

end Visit

namespace Layout

/-- **The first fault is the first thing that is found to be wrong**, unless it is a value of the
wrong kind. -/
theorem fault?_eq_findSome? {l : Layout} (h : ∀ how, l.fault? ≠ some (.misuse how)) :
    l.fault? = (incidents.gather l).findSome? Incident.fault? := by
  induction l with
  | nil => rfl
  | cons piece l ih =>
    rw [Finder.gather_cons, List.findSome?_append]
    cases piece with
    | fault f =>
      cases f with
      | misuse how => exact absurd rfl (h how)
      | _ => rfl
    | bind v =>
      have hbound : (incidents.find (.bind v)).findSome? Incident.fault? = none := by
        simp [incidents, Piece.incidents, Incident.fault?]
      rw [hbound, Option.none_or]
      exact ih h
    | text | merge | indexes => exact ih h

end Layout

namespace Condition

open Layout

/-- The names of the indexes whose columns a condition by itself compares. -/
def scope (names : Value) : List String := (names.elements?.getD []).filterMap Value.text?

/-- **When a condition is rejected.** Where all values have the right kind, a condition by itself
fails with the first thing that is wrong at a place that is visited. So it raises an error of
compilation just when something is wrong at some place. -/
theorem rejects_iff_flawed {c : Connection} {tree names params : Value}
    (h : ∀ how, c.condition tree names params ≠ .error (.misuse how)) :
    (∀ f, c.condition tree names params = .error f ↔
        (visits (scope names) tree).findSome? Visit.flaw? = some f) ∧
      ((∃ f, f.isCompilation = true ∧ c.condition tree names params = .error f) ↔
        ∃ visit ∈ visits (scope names) tree, visit.flaw?.isSome = true) := by
  have hfails (f : Fault) : c.condition tree names params = .error f ↔
      (visits (scope names) tree).findSome? Visit.flaw? = some f := by
    have hlayout : c.condition tree names params =
        c.compile params (c.conditionLayout tree names) := rfl
    rw [hlayout] at h ⊢
    have hmisuse (how : Misuse) :
        (Layout.ofCaller params ++ c.conditionLayout tree names).fault? ≠ some (.misuse how) :=
      fun hfault => h how (c.compile_eq_error_iff.2 hfault)
    rw [c.compile_eq_error_iff, Layout.fault?_eq_findSome? hmisuse]
    cases hnames : names.elements? with
    | none =>
      -- the names cannot be gone through, which is a fault of the kind that does not occur
      have hfault : c.conditionLayout tree names = [.fault (.misuse .kind)] := by
        rw [Connection.conditionLayout, hnames]
      have hnone := Layout.fault?_eq_findSome? hmisuse
      rw [hfault, Finder.gather_append, Finder.gather_ofCaller] at hnone
      have hsound := Layout.fault?_eq_none_iff.1 hnone
      simp [Piece.isFault] at hsound
    | some given =>
      have hgather : incidents.gather (Layout.ofCaller params ++ c.conditionLayout tree names) =
          Visit.incidentsOf c (visits (scope names) tree) := by
        rw [Finder.gather_append, Finder.gather_ofCaller, Connection.conditionLayout, scope, hnames]
        exact Layout.incidents_condition c _ tree
      rw [hgather, Visit.findSome?_incidentsOf]
  refine ⟨hfails, ?_⟩
  rw [← List.findSome?_isSome_iff, Option.isSome_iff_exists]
  constructor
  · rintro ⟨f, -, hf⟩
    exact ⟨f, (hfails f).1 hf⟩
  · rintro ⟨f, hf⟩
    obtain ⟨visit, -, hvisit⟩ := List.exists_of_findSome?_eq_some hf
    exact ⟨f, Visit.isCompilation_of_flaw? hvisit, (hfails f).2 hf⟩

/-- The identifier is in the result of a query, of which nothing is denied. -/
def inDeniedNothing : Value :=
  .list [.text "and", .map [(.text "pages", .list [.int 7])],
    .tuple [.text "in", .text "id",
      .query { Clauses.empty with
        source := .positional [.text "loans"], having := .list [.text "not"] }]]

theorem rejects_iff_flawed_inDeniedNothing :
    (∀ how, Connection.standard.condition inDeniedNothing (.list []) .null ≠
        .error (.misuse how)) ∧
      ∃ visit ∈ visits (scope (.list [])) inDeniedNothing, visit.flaw?.isSome = true := by
  have hrejected : Connection.standard.condition inDeniedNothing (.list []) .null =
      .error (.operands "NOT" .one) := rfl
  have hkind (how : Misuse) : Connection.standard.condition inDeniedNothing (.list []) .null ≠
      .error (.misuse how) := by
    rw [hrejected]
    nofun
  exact ⟨hkind, (rejects_iff_flawed hkind).2.1 ⟨_, rfl, hrejected⟩⟩

end Condition

end SearchSql
