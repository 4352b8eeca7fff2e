import SearchSql.Proofs.Layout.Faults
import SearchSql.Proofs.Layout.Template
import SearchSql.Value.Role

/-!
# Lists of one value

A column of a mapping is compared with a list of one value as it is compared with that value. But
an element of a list that is a mapping is a row, and its value under the column counts; and
absence in a list is a value that the column equals, not the property of having none.

## Main definitions

* `Condition.ColumnPlace`, `Condition.ColumnPlace.fill` — a column of a mapping that stands in
  some place of a condition, and the condition with a value for it.

## Main statements

* `Condition.layout_ofEntry_singleton` — what a list of one value is compared as.
* `Condition.answer_singleton` — the answers for a list of one value and for the value.
* `Condition.not_answer_singleton` — a mapping and absence are told apart from lists of them.
-/
namespace SearchSql

namespace Condition

/-- A column of a mapping that stands in a place of a condition. -/
structure ColumnPlace where
  /-- The levels around the mapping. -/
  context : Context
  /-- The columns before it. -/
  before : Mapping
  /-- The key that names the column. -/
  key : Value
  /-- The columns behind it. -/
  behind : Mapping

/-- The name of the column. -/
def ColumnPlace.name (place : ColumnPlace) : String := place.key.display

/-- The condition with a value for the column. -/
def ColumnPlace.fill (place : ColumnPlace) (v : Value) : Value :=
  place.context.fill (.map (place.before ++ (place.key, v) :: place.behind))

variable (c : Connection) (indexes : List Index)

/-- What surrounds the condition on the column is the same for all values. -/
theorem ColumnPlace.surrounds_layoutOf (place : ColumnPlace) :
    ∃ wrap, Layout.Surrounds wrap ∧ ∀ v, layoutOf c indexes (place.fill v) =
      wrap ((ofEntry (.text place.name) v).layout c indexes) := by
  obtain ⟨wrap, hwrap, hlayout⟩ :=
    surrounds_layoutOf_map c indexes place.before place.behind place.key
  refine ⟨_, (place.context.surrounds_wrap c indexes).comp hwrap, fun v => ?_⟩
  rw [ColumnPlace.fill, place.context.layout_fill, hlayout]
  rfl

/-- The value of a column that an element of a list stands for. A mapping is a row, in which the
column may be missing; any other element stands for itself. -/
def elementValue (name : String) : Value → Value
  | .map row => (Mapping.named? name row).getD .null
  | v => v

theorem elementValue_of_mapping?_eq_none {name : String} {x : Value} (h : x.mapping? = none) :
    elementValue name x = x := by
  cases x with
  | map row => cases h
  | _ => rfl

theorem cell_eq_elementValue (name : String) (x : Value) :
    Value.cell (.text name) x = .ok (elementValue name x) := by
  cases x with
  | map row =>
    rw [Value.cell, Mapping.cell]
    rfl
  | _ => rfl

/-- A list of one value is compared as what the value stands for. -/
theorem layout_ofEntry_singleton (name : String) (x : Value) :
    (ofEntry (.text name) (.list [x])).layout c indexes =
      .text (c.quote name ++ "=") ::
        Layout.ofValue indexes (.text name) (elementValue name x) := by
  have hamong : ofEntry (.text name) (.list [x]) =
      .among false (.text name) [Value.cell (.text name) x] := rfl
  rw [hamong, cell_eq_elementValue, layout, Layout.naming_text, List.append_nil]
  rfl

/-- A value that is given and is not a collection or a query is compared as it is. -/
theorem layout_ofEntry_single (name : String) {v : Value} (h : v.role = .scalar ∨ v.role = .raw) :
    (ofEntry (.text name) v).layout c indexes =
      .text (c.quote name ++ "=") :: Layout.ofValue indexes (.text name) v := by
  have hequals : ofEntry (.text name) v = .equals (.text name) v := by
    cases v with
    | null | query | list | tuple | set => simp [Value.role] at h
    | _ => rfl
  rw [hequals, layout]
  rfl

/-- A condition by itself, with a value for the column. -/
def ColumnPlace.request (place : ColumnPlace) (names params v : Value) : Request :=
  .condition (place.fill v) names params

variable {c}

theorem answer_condition (tree names params : Value) :
    c.answer (.condition tree names params) =
      (c.compile params (c.conditionLayout tree names)).map .statement := by
  change (do return Answer.statement (← c.compile params (c.conditionLayout tree names)) :
    Checked Answer) = _
  cases c.compile params (c.conditionLayout tree names) <;> rfl

/-- Values that the column is compared with alike give the same answer. -/
theorem ColumnPlace.answer_congr (place : ColumnPlace) (names params : Value) {v w : Value}
    (h : ∀ indexes, (ofEntry (.text place.name) v).layout c indexes =
      (ofEntry (.text place.name) w).layout c indexes) :
    c.answer (place.request names params v) = c.answer (place.request names params w) := by
  have hlayout : c.conditionLayout (place.fill v) names =
      c.conditionLayout (place.fill w) names := by
    unfold Connection.conditionLayout
    split
    · rename_i given _
      obtain ⟨wrap, -, hfill⟩ :=
        place.surrounds_layoutOf c (c.known (given.filterMap Value.text?))
      exact (hfill v).trans ((congrArg wrap (h _)).trans (hfill w).symm)
    · rfl
  rw [request, request, answer_condition, answer_condition, hlayout]

/-- Absence in a list is a value that the column equals; by itself it is the property of having
none. No more than that differs. -/
theorem ColumnPlace.answer_null (place : ColumnPlace) (names params : Value) :
    (∀ f, c.answer (place.request names params (.list [.null])) = .error f ↔
        c.answer (place.request names params .null) = .error f) ∧
      ∀ k, c.answer (place.request names params (.list [.null])) = .ok (.statement k) →
        ∃ front back, k.sql = front ++ (c.quote place.name ++ "=NULL") ++ back ∧
          c.answer (place.request names params .null) = .ok (.statement
            { k with sql := front ++ (c.quote place.name ++ " IS NULL") ++ back }) := by
  have hanswer (v : Value) : c.answer (place.request names params v) =
      (c.compile params (c.conditionLayout (place.fill v) names)).map .statement :=
    answer_condition ..
  cases hnames : names.elements? with
  | none =>
    have hlayout (v : Value) :
        c.conditionLayout (place.fill v) names = [.fault (.misuse .kind)] := by
      rw [Connection.conditionLayout, hnames]
    simp only [hanswer, hlayout, iff_self, implies_true, true_and]
    intro k hk
    obtain ⟨k', hk', -⟩ := Checked.exists_eq_ok_of_map hk
    simpa [Piece.isFault] using (c.compile_eq_ok_iff.1 hk').1
  | some given =>
    obtain ⟨wrap, ⟨before, behind, hwrap⟩, hfill⟩ :=
      place.surrounds_layoutOf c (c.known (given.filterMap Value.text?))
    -- the comparison with absence in a list, and the condition that there is no value
    let texts := [c.quote place.name ++ "=", "NULL"]
    let others := [c.quote place.name ++ " IS NULL"]
    have hlist : c.conditionLayout (place.fill (.list [.null])) names =
        before ++ Layout.ofTexts texts ++ behind := by
      rw [Connection.conditionLayout, hnames]
      exact (hfill _).trans (hwrap (Layout.ofTexts texts) (by simp [Layout.ofTexts, texts]))
    have hnull : c.conditionLayout (place.fill .null) names =
        before ++ Layout.ofTexts others ++ behind := by
      rw [Connection.conditionLayout, hnames]
      exact (hfill _).trans (hwrap (Layout.ofTexts others) (by simp [Layout.ofTexts, others]))
    have htexts : String.join texts = c.quote place.name ++ "=NULL" :=
      String.toList_inj.1 (by simp [texts])
    have hothers : String.join others = c.quote place.name ++ " IS NULL" :=
      String.toList_inj.1 (by simp [others])
    obtain ⟨hfault, hsql⟩ := c.compile_exchange params before behind texts others
    rw [hanswer, hanswer, hlist, hnull]
    constructor
    · intro f
      rw [Checked.map_eq_error_iff, Checked.map_eq_error_iff]
      exact hfault f
    · intro k hk
      obtain ⟨k', hk', heq⟩ := Checked.exists_eq_ok_of_map hk
      obtain rfl := Answer.statement.inj heq
      obtain ⟨front, back, hfront, hback⟩ := hsql k' hk'
      rw [htexts] at hfront
      rw [hothers] at hback
      exact ⟨front, back, hfront, by rw [hback]; rfl⟩

/-- **A list of one value is compared as the value**, wherever the column stands. An element that
is a mapping is a row, whose value under the column counts, and absence is written as a value. -/
theorem answer_singleton (place : ColumnPlace) (names params : Value) {x : Value}
    (hmembers : x.role ≠ .members) (hquery : x.role ≠ .query) :
    (x ≠ .null → x.mapping? = none →
        c.answer (place.request names params (.list [x])) =
          c.answer (place.request names params x)) ∧
      (∀ row v, x = .map row → v = (Mapping.named? place.name row).getD .null →
        c.answer (place.request names params (.list [x])) =
          c.answer (place.request names params (if v.mapping?.isSome then v else .list [v]))) ∧
      (x = .null →
        (∀ f, c.answer (place.request names params (.list [x])) = .error f ↔
          c.answer (place.request names params x) = .error f) ∧
        ∀ k, c.answer (place.request names params (.list [x])) = .ok (.statement k) →
          ∃ front back, k.sql = front ++ (c.quote place.name ++ "=NULL") ++ back ∧
            c.answer (place.request names params x) = .ok (.statement
              { k with sql := front ++ (c.quote place.name ++ " IS NULL") ++ back })) := by
  refine ⟨fun hgiven hmapping => ?_, fun row v hx hv => ?_, fun hx => ?_⟩
  · have hrole : x.role = .scalar ∨ x.role = .raw := by
      cases x with
      | null => exact absurd rfl hgiven
      | query => exact absurd rfl hquery
      | list | tuple | set => exact absurd rfl hmembers
      | raw => exact Or.inr rfl
      | _ => exact Or.inl rfl
    refine place.answer_congr names params fun indexes => ?_
    rw [layout_ofEntry_singleton, elementValue_of_mapping?_eq_none hmapping,
      layout_ofEntry_single c indexes place.name hrole]
  · subst hx
    have hrow : elementValue place.name (.map row) = v := hv.symm
    refine place.answer_congr names params fun indexes => ?_
    rw [layout_ofEntry_singleton, hrow]
    split
    · rename_i hmapping
      cases v with
      | map inner => exact (layout_ofEntry_single c indexes place.name (Or.inl rfl)).symm
      | _ => cases hmapping
    · rename_i hmapping
      rw [layout_ofEntry_singleton,
        elementValue_of_mapping?_eq_none (Option.not_isSome_iff_eq_none.1 hmapping)]
  · subst hx
    exact place.answer_null names params

/-- An identifier that is not the one on a shelf. -/
def besideShelf : ColumnPlace where
  context := [.denied ⟨" not", by decide⟩ true]
  before := [(.text "shelf", .int 3)]
  key := .text "id"
  behind := []

theorem answer_singleton_besideShelf :
    let ask (x : Value) := Connection.standard.answer (besideShelf.request (.list []) .null x)
    ask (.list [.int 7]) = ask (.int 7) ∧
      ask (.list [.map [(.text "id", .int 7)]]) = ask (.list [.int 7]) ∧
      ∃ front back, "NOT ((shelf=:qp0) AND (id=NULL))" = front ++ "id=NULL" ++ back ∧
        ask .null = .ok (.statement
          ⟨front ++ "id IS NULL" ++ back, [(.text ":qp0", .int 3)], "sphinx"⟩) := by
  intro ask
  have hplace {x : Value} (hmembers : x.role ≠ .members) (hquery : x.role ≠ .query) :=
    answer_singleton (c := .standard) besideShelf (.list []) .null hmembers hquery
  refine ⟨?_, ?_, ?_⟩
  · exact (hplace (by decide) (by decide)).1 nofun rfl
  · exact (hplace (by decide) (by decide)).2.1 [(.text "id", .int 7)] (.int 7) rfl rfl
  · exact ((hplace (by decide) (by decide)).2.2 rfl).2
      ⟨"NOT ((shelf=:qp0) AND (id=NULL))", [(.text ":qp0", .int 3)], "sphinx"⟩ rfl

/-- A mapping by itself is a value, and in a list it is a row; absence is written in two ways. -/
theorem not_answer_singleton :
    let written (v : Value) :=
      Connection.standard.compiled? (.condition (.map [(.text "id", v)]) (.list []) .null)
    (written (.list [.map [(.text "id", .int 7)]])).map (·.params) =
        some [(.text ":qp0", .int 7)] ∧
      (written (.map [(.text "id", .int 7)])).map (·.params) =
        some [(.text ":qp0", .map [(.text "id", .int 7)])] ∧
      (written (.list [.null])).map (·.sql) = some "id=NULL" ∧
      (written .null).map (·.sql) = some "id IS NULL" :=
  ⟨rfl, rfl, rfl, rfl⟩

end Condition

end SearchSql
