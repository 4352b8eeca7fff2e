import SearchSql.Proofs.Coercion.Basic

/-!
# Conditions and selections with and without known indexes

The indexes that are known are those that a statement searches; a nested selection has its
own. The induction is on the condition or the selection, one case for each form.

## Main definitions

* `Condition.slots`, `Selection.slots` — the values that are bound, each with the indexes of its
  level and its column.

## Main statements

* `Layout.Recast.condition`, `Layout.Recast.selection` — what is known changes values of columns.
-/
namespace SearchSql

namespace Slot

/-- A single value of a column; a raw fragment is none. -/
def ofBound (names : List String) (column : Value) : Value → List Slot
  | .raw _ _ => []
  | v => [⟨names, column, v⟩]

/-- The values of a column, one by one. -/
def ofValue (names : List String) (column : Value) : Value → List Slot
  | .null | .raw _ _ | .query _ => []
  | .list items | .tuple items | .set items => items.flatMap (ofBound names column)
  | v => ofBound names column v

/-- The values of a column, unless there are none by some fault. -/
def ofChecked (names : List String) (column : Value) : Checked Value → List Slot
  | .ok v => ofValue names column v
  | .error _ => []

end Slot

mutual

/-- The values of a condition on some indexes. Patterns and what is compared by an operator belong
to no column. -/
def Condition.slots (c : Connection) (names : List String) : Condition → List Slot
  | .omitted | .always | .never | .verbatim _ | .isNull _ | .malformed _ => []
  | .connected _ operands => (Condition.slotsEach c names operands).flatten
  | .negation operand => operand.slots c names
  | .record entries => (Condition.slotsEach c names entries).flatten
  | .equals column operand => Slot.ofValue names column operand
  | .between _ column low high =>
    Slot.ofValue names column low ++ Slot.ofValue names column high
  | .among _ column operands => operands.flatMap (Slot.ofChecked names column)
  | .amongRows _ columns rows =>
    rows.flatMap fun row => (columns.zipWith (Slot.ofChecked names) row).flatten
  | .amongSelected _ _ selection => selection.slots c
  | .like negated any column escape patterns =>
    Slot.plain (Layout.ofPatterns c negated any column escape patterns)
  | .compared _ _ operand => Slot.plain (Layout.ofCompared operand)

/-- The values of several conditions. -/
def Condition.slotsEach (c : Connection) (names : List String) : List Condition → List (List Slot)
  | [] => []
  | condition :: rest => condition.slots c names :: Condition.slotsEach c names rest

/-- The values in what is searched. -/
def Source.slots (c : Connection) : Source → List Slot
  | .selection selection _ => selection.slots c
  | _ => []

/-- The values in all that is searched. -/
def Source.slotsEach (c : Connection) : List Source → List (List Slot)
  | [] => []
  | source :: rest => source.slots c :: Source.slotsEach c rest

/-- The values of a selection, clause by clause. It searches indexes of its own; only values in its
conditions belong to columns. -/
def Selection.slots (c : Connection) : Selection → List Slot
  | { params := _, isJoined, distinct := _, modifier := _, fields, sources, fulltext, condition,
      groupBy, within, having, order, limit, offset, options, facets } =>
    let names := sources.filterMap Source.indexName?
    if isJoined then [] else
      [ Slot.plain (Layout.ofFields c fields),
        (Source.slotsEach c sources).flatten,
        if fulltext.isNull then [] else Slot.plain (Layout.ofFulltext fulltext),
        condition.slots c names,
        Slot.plain (groupBy.elim [] (Layout.ofColumns c)),
        Slot.plain (Layout.ofWithin c within),
        having.slots c names,
        Slot.plain (Layout.ofOrder c order),
        Slot.plain (Layout.ofWindow c limit offset),
        Slot.plain (Layout.ofOptions options),
        Slot.plain (Layout.ofFacets c facets) ].flatten

end

namespace Layout.Recast

variable {c : Connection} {names : List String}

theorem bound {column v : Value} {known : Column}
    (hknown : columnOf (c.known names) column = some known) :
    Layout.Recast c [⟨names, column, v⟩]
      (match Column.coerce (some known) v with
        | .ok coerced => [.bind coerced]
        | .error f => [.fault f])
      [.bind v] := by
  cases hw : Column.coerce (some known) v with
  | ok w => exact bind ⟨names, column, v⟩ (Or.inr ⟨known, hknown, hw⟩) nil
  | error f => exact fault ⟨names, column, v⟩ f nil

theorem ofBound (column v : Value) :
    Layout.Recast c (Slot.ofBound names column v)
      (Layout.ofBound (columnOf (c.known names) column) v) (Layout.ofBound none v) := by
  cases v with
  | raw sql params => exact keep rfl (keep rfl nil)
  | _ =>
    cases hknown : columnOf (c.known names) column with
    | none => exact bind ⟨names, column, _⟩ (Or.inl rfl) nil
    | some known => exact bound hknown

theorem ofMembers (hj : c.NoJson) (column v : Value) (items : List Value) :
    Layout.Recast c (items.flatMap (Slot.ofBound names column))
      (Layout.ofMembers (columnOf (c.known names) column) v items)
      (Layout.ofMembers none v items) := by
  -- several values are bound as one in a column of documents only
  have hmembers : Layout.ofMembers (columnOf (c.known names) column) v items =
      Layout.enclose "(" (Layout.join "," (items.map
        (Layout.ofBound (columnOf (c.known names) column)))) ")" := by
    cases hknown : columnOf (c.known names) column with
    | none => rfl
    | some known =>
      have hne := hj.type_ne hknown
      obtain ⟨name, type⟩ := known
      cases type with
      | json => exact absurd rfl hne
      | _ => rfl
  rw [hmembers]
  exact enclose _ _ (join _ (each_map fun item _ => ofBound column item))

theorem ofValue (hj : c.NoJson) (column v : Value) :
    Layout.Recast c (Slot.ofValue names column v) (Layout.ofValue (c.known names) column v)
      (Layout.ofValue [] column v) := by
  have hnone : columnOf [] column = none := by
    cases column <;> rfl
  cases v with
  | null | query => exact keep rfl nil
  | raw => exact keep rfl (keep rfl nil)
  | list items | tuple items | set items =>
    simp only [Layout.ofValue, hnone]
    exact ofMembers hj column _ items
  | _ =>
    simp only [Slot.ofValue, Layout.ofValue, hnone]
    exact ofBound column _

theorem ofChecked (hj : c.NoJson) (column : Value) (v : Checked Value) :
    Layout.Recast c (Slot.ofChecked names column v) (Layout.ofChecked (c.known names) column v)
      (Layout.ofChecked [] column v) := by
  cases v with
  | ok v => exact ofValue hj column v
  | error f => exact keep rfl nil

theorem each_zipWith (hj : c.NoJson) (columns : List Value) (row : List (Checked Value)) :
    Each c (columns.zipWith (Slot.ofChecked names) row)
      (columns.zipWith (Layout.ofChecked (c.known names)) row)
      (columns.zipWith (Layout.ofChecked []) row) := by
  induction columns generalizing row with
  | nil => exact .nil
  | cons column columns ih =>
    cases row with
    | nil => exact .nil
    | cons v row => exact .cons (ofChecked hj column v) (ih row)

theorem ofMembership (hj : c.NoJson) (negated : Bool) (column : Value)
    (operands : List (Checked Value)) :
    Layout.Recast c (operands.flatMap (Slot.ofChecked names column))
      (Layout.ofMembership c negated column
        (operands.map (Layout.ofChecked (c.known names) column)))
      (Layout.ofMembership c.withoutSchema negated column
        (operands.map (Layout.ofChecked [] column))) := by
  have hall : Each c (operands.map (Slot.ofChecked names column))
      (operands.map (Layout.ofChecked (c.known names) column))
      (operands.map (Layout.ofChecked [] column)) :=
    each_map fun v _ => ofChecked hj column v
  match operands with
  | [] => exact nil
  | [v] =>
    rw [List.flatMap_cons, List.flatMap_nil, List.append_nil]
    exact keep rfl (ofChecked hj column v)
  | v :: w :: rest => exact enclose _ _ (join _ hall)

theorem ofRecord {others : List (List Slot)} {ls ls' : List Layout} (h : Each c others ls ls') :
    Layout.Recast c others.flatten (Layout.ofRecord ls) (Layout.ofRecord ls') := by
  cases h with
  | nil => exact connect "AND" .nil
  | cons hl hrest =>
    cases hrest with
    | nil =>
      rw [List.flatten_cons, List.flatten_nil, List.append_nil]
      exact hl
    | cons hr hothers => exact connect _ (.cons hl (.cons hr hothers))

theorem naming (columns : List Value) :
    Layout.Recast c [] (Layout.naming columns) (Layout.naming columns) := by
  rcases naming_eq_nil_or columns with h | h <;> rw [h]
  · exact nil
  · exact keep rfl nil

/-- No values are bound where the columns are written. -/
theorem withNames {slots : List Slot} {l l' : Layout} (h : Layout.Recast c slots l l')
    (columns : List Value) :
    Layout.Recast c slots (l ++ Layout.naming columns) (l' ++ Layout.naming columns) := by
  simpa using h.append (naming columns)

theorem ofText (s : String) : Layout.Recast c [] (Layout.ofText s) (Layout.ofText s) := by
  rw [Layout.ofText]
  split
  · exact nil
  · exact keep rfl nil

/-- The value of the full-text query comes first; no condition has no slots. -/
theorem ofFilter (fulltext : Value) {isOmitted : Bool} {slots : List Slot} {l l' : Layout}
    (h : Layout.Recast c slots l l') (homitted : isOmitted = true → slots = []) :
    Layout.Recast c
      ((if fulltext.isNull then [] else Slot.plain (Layout.ofFulltext fulltext)) ++ slots)
      (Layout.ofFilter fulltext isOmitted l) (Layout.ofFilter fulltext isOmitted l') := by
  have hboth (words : Layout) : Layout.Recast c (Slot.plain words ++ slots)
      (Layout.connect "AND" [words, l]) (Layout.connect "AND" [words, l']) := by
    simpa using connect "AND" (.cons (refl words) (.cons h .nil))
  cases fulltext with
  | null => exact after _ h
  | _ =>
    simp only [Value.isNull, Bool.false_eq_true, if_false, Layout.ofFilter]
    cases isOmitted with
    | true =>
      rw [homitted rfl, List.append_nil]
      exact after _ (refl _)
    | false => exact after _ (hboth _)

/-- The columns that rows are grouped by. -/
theorem groups (groupBy : Option (List ListedColumn)) :
    Layout.Recast c (Slot.plain (groupBy.elim [] (Layout.ofColumns c)))
      (groupBy.elim [] fun columns => .text "GROUP BY " :: Layout.ofColumns c columns)
      (groupBy.elim [] fun columns => .text "GROUP BY " :: Layout.ofColumns c columns) := by
  cases groupBy with
  | none => exact nil
  | some columns => exact keep rfl (refl _)

mutual

/-- **What is known changes values of columns in a condition.** -/
theorem condition (hj : c.NoJson) (names : List String) (t : Condition) :
    Layout.Recast c (t.slots c names) (t.layout c (c.known names))
      (t.layout c.withoutSchema []) := by
  match t with
  | .omitted | .always => exact nil
  | .never | .isNull _ | .malformed _ => exact keep rfl nil
  | .verbatim sql => exact ofText sql
  | .like negated any column escape patterns =>
    exact (naming [column]).append (refl (Layout.ofPatterns c negated any column escape patterns))
  | .compared _ column operand =>
    exact (naming [column]).append (keep rfl (refl (Layout.ofCompared operand)))
  | .connected connective operands => exact connect _ (conditions hj names operands)
  | .negation operand =>
    have hoperand := condition hj names operand
    simp only [Condition.layout, ← hoperand.isEmpty_eq]
    split
    · rename_i hempty
      rw [Condition.slots, hoperand.slots_eq_nil hempty]
      exact nil
    · exact enclose _ _ hoperand
  | .record entries => exact ofRecord (conditions hj names entries)
  | .equals column operand => exact keep rfl (ofValue hj column operand)
  | .between negated column low high =>
    exact withNames (keep rfl ((ofValue hj column low).append (keep rfl (ofValue hj column high))))
      [column]
  | .among negated column operands =>
    exact withNames (ofMembership hj negated column operands) [column]
  | .amongRows negated columns rows =>
    exact withNames (enclose _ _ (join _ (each_map fun row _ =>
      enclose _ _ (join _ (each_zipWith hj columns row))))) columns
  | .amongSelected negated columns selected =>
    exact withNames (enclose _ _ (selection hj selected)) columns

theorem conditions (hj : c.NoJson) (names : List String) (ts : List Condition) :
    Each c (Condition.slotsEach c names ts) (Condition.layouts c (c.known names) ts)
      (Condition.layouts c.withoutSchema [] ts) := by
  match ts with
  | [] => exact .nil
  | t :: rest => exact .cons (condition hj names t) (conditions hj names rest)

theorem source (hj : c.NoJson) (t : Source) :
    Layout.Recast c (t.slots c) (t.layout c) (t.layout c.withoutSchema) := by
  match t with
  | .index _ label | .named _ label => cases label <;> exact keep rfl nil
  | .raw _ _ label => cases label <;> exact keep rfl (keep rfl nil)
  | .selection selected label => exact enclose _ _ (selection hj selected)
  | .unwritable => exact keep rfl nil

theorem sources (hj : c.NoJson) (ts : List Source) :
    Each c (Source.slotsEach c ts) (Source.layouts c ts) (Source.layouts c.withoutSchema ts) := by
  match ts with
  | [] => exact .nil
  | t :: rest => exact .cons (source hj t) (sources hj rest)

/-- **What is known changes values of columns in a selection.** -/
theorem selection (hj : c.NoJson) (t : Selection) :
    Layout.Recast c (t.slots c) (t.layout c) (t.layout c.withoutSchema) := by
  match t with
  | { params, isJoined, distinct, modifier, fields, sources := searched, fulltext,
      condition := rows, groupBy, within, having := grouped, order, limit, offset, options,
      facets } =>
    simp only [Selection.slots, Selection.layout]
    refine keep rfl ?_
    split
    · exact keep rfl nil
    · have hfrom : Layout.Recast c (Source.slotsEach c searched).flatten
          (if searched.isEmpty then []
            else .indexes (searched.filterMap Source.indexName?) :: .text "FROM " ::
              Layout.join ", " (Source.layouts c searched))
          (if searched.isEmpty then []
            else .indexes (searched.filterMap Source.indexName?) :: .text "FROM " ::
              Layout.join ", " (Source.layouts c.withoutSchema searched)) := by
        cases searched with
        | nil => exact nil
        | cons first rest => exact keep rfl (keep rfl (join _ (sources hj (first :: rest))))
      have hrows := condition hj (searched.filterMap Source.indexName?) rows
      have homitted (h : rows.isOmitted = true) :
          rows.slots c (searched.filterMap Source.indexName?) = [] := by
        cases rows with
        | omitted => rfl
        | _ => simp [Condition.isOmitted] at h
      have hall := joinPresent c.settings.separator
        (.cons (text ((if distinct then "SELECT DISTINCT " else "SELECT ") ++
          modifier.elim "" (· ++ " ")) (refl (Layout.ofFields c fields)))
        (.cons hfrom (.cons (ofFilter fulltext hrows homitted) (.cons (groups groupBy) (.cons (refl (ofWithin c within))
        (.cons (after "HAVING " (condition hj (searched.filterMap Source.indexName?) grouped))
        (.cons (refl (ofOrder c order)) (.cons (refl (ofWindow c limit offset))
        (.cons (refl (ofOptions options)) (.cons (refl (ofFacets c facets)) .nil))))))))))
      simp only [List.flatten_cons, List.append_assoc] at hall ⊢
      exact hall

end

end Layout.Recast

end SearchSql
