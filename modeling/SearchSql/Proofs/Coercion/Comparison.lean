import SearchSql.Proofs.Connection.Statement
import SearchSql.Proofs.Layout.Template
import SearchSql.Proofs.Params.Numbering

/-!
# Values that columns are compared with

A scalar that is compared with a known column is bound as what it is coerced to, in every form of
a comparison but one: an operator without a form of its own binds the value as it is given. So
the same comparison can bind different values, depending on how it is written.

## Main definitions

* `Comparison`, `Comparison.fill` — a comparison of a column with a place for the value.
* `Comparison.isGeneric` — the comparisons by operators without a form of their own.

## Main statements

* `Comparison.bound_value` — what is bound for the value, wherever the comparison stands.
-/
namespace SearchSql

/-- Whether a value is given and is not made of other values. -/
def Value.isScalar : Value → Bool
  | .bool _ | .int _ | .float _ | .text _ | .bytes _ | .buffer _ => true
  | _ => false

namespace Comparison

/-- The collections that hold the values of a membership. -/
inductive Collection where
  /-- A list. -/
  | list
  /-- A tuple. -/
  | tuple
  /-- A set. -/
  | set

/-- A collection with some members. -/
def Collection.value : Collection → List Value → Value
  | .list, items => .list items
  | .tuple, items => .tuple items
  | .set, items => .set items

/-- A place for an operand of a membership: by itself, or among others. -/
inductive Holder where
  /-- There is one operand, which is given by itself. -/
  | alone
  /-- The operand is a member of a collection. -/
  | within (collection : Collection) (before behind : List Value)

/-- The values of a membership with an operand in the place. -/
def Holder.fill : Holder → Value → Value
  | .alone, v => v
  | .within collection before behind, v => collection.value (before ++ v :: behind)

/-- The values before the place. -/
def Holder.before : Holder → List Value
  | .alone => []
  | .within _ before _ => before

/-- The values behind the place. -/
def Holder.behind : Holder → List Value
  | .alone => []
  | .within _ _ behind => behind

/-- A place for the value of a column in an operand of a membership. -/
inductive Operand (name : String) (column : Value) where
  /-- The operand is the value of the only column. -/
  | value (h : column.columns = [.text name])
  /-- The operand is a row with a value for each column. -/
  | row (h : .text name ∈ column.columns) (before behind : Mapping)
    (hbefore : .text name ∉ before.keys)

/-- The operand with a value in the place. -/
def Operand.fill {name : String} {column : Value} : Operand name column → Value → Value
  | .value _, v => v
  | .row _ before behind _, v => .map (before ++ (.text name, v) :: behind)

end Comparison

open Comparison

/-- A comparison of a column with a place for the value. -/
inductive Comparison (name : String) where
  /-- The value of the column in a mapping. -/
  | equal (before behind : Mapping) (key : Value) (hkey : key.display = name)
  /-- One of several values of the column in a mapping. -/
  | oneOf (before behind : Mapping) (key : Value) (hkey : key.display = name)
    (collection : Collection) (front back : List Value) (operand : Operand name (.text name))
  /-- An operand of a membership. -/
  | member (negated : Bool)
    (spelling : Spelling (if negated then Operator.notAmong else Operator.among))
    (isTuple : Bool) (column : Value) (holder : Holder) (operand : Operand name column)
    (rest : List Value)
  /-- The lower bound. -/
  | lower (negated : Bool)
    (spelling : Spelling (if negated then Operator.notBetween else Operator.between))
    (isTuple : Bool) (high : Value) (hhigh : high.isNull = false)
  /-- The upper bound. -/
  | upper (negated : Bool)
    (spelling : Spelling (if negated then Operator.notBetween else Operator.between))
    (isTuple : Bool) (low : Value) (hlow : low.isNull = false)
  /-- The value on the right of an operator without a form of its own. -/
  | generic (token : String) (htoken : Operator.ofKeyword? (Operator.normalize token) = none)
    (isTuple : Bool)

namespace Comparison

variable {name : String}

/-- The comparison with a value in the place. -/
def fill : Comparison name → Value → Value
  | .equal before behind key _, v => .map (before ++ (key, v) :: behind)
  | .oneOf before behind key _ collection front back operand, v =>
    .map (before ++ (key, collection.value (front ++ operand.fill v :: back)) :: behind)
  | .member _ spelling isTuple column holder operand rest, v =>
    .form isTuple spelling.token (column :: holder.fill (operand.fill v) :: rest)
  | .lower _ spelling isTuple high _, v => .form isTuple spelling.token [.text name, v, high]
  | .upper _ spelling isTuple low _, v => .form isTuple spelling.token [.text name, low, v]
  | .generic token _ isTuple, v => .form isTuple token [.text name, v]

/-- Whether a comparison is made by an operator without a form of its own. -/
def isGeneric : Comparison name → Bool
  | .generic .. => true
  | _ => false

/-! ## Cells of rows -/

theorem get?_append_cons_self {before behind : Mapping} (h : .text name ∉ before.keys) (v : Value) :
    Mapping.get? (.text name) (before ++ (.text name, v) :: behind) = some v := by
  induction before with
  | nil => simp [Mapping.get?]
  | cons pair rest ih =>
    obtain ⟨hne, hrest⟩ := not_or.1 (mt Mapping.mem_keys_cons.2 h)
    rw [List.cons_append, Mapping.get?, if_neg (mt Value.sameKey_text_iff.1 (Ne.symm hne)),
      ih hrest]

theorem get?_append_cons_of_ne {key : Value} (hkey : key ≠ .text name) (before behind : Mapping)
    (v : Value) :
    Mapping.get? key (before ++ (.text name, v) :: behind) = Mapping.get? key (before ++ behind) := by
  induction before with
  | nil =>
    rw [List.nil_append, List.nil_append, Mapping.get?, if_neg (mt Value.text_sameKey_iff.1 hkey)]
  | cons pair rest ih => rw [List.cons_append, List.cons_append, Mapping.get?, Mapping.get?, ih]

/-- A row has the value under the column of the place. -/
theorem cell_append_cons_self {before behind : Mapping} (h : .text name ∉ before.keys) (v : Value) :
    Mapping.cell (.text name) (before ++ (.text name, v) :: behind) = .ok v := by
  rw [Mapping.cell, get?_append_cons_self h]
  rfl

theorem cell_append_cons_of_ne {key : Value} (hkey : key ≠ .text name) (before behind : Mapping)
    (v : Value) : Mapping.cell key (before ++ (.text name, v) :: behind) =
      Mapping.cell key (before ++ behind) := by
  rw [Mapping.cell, Mapping.cell, get?_append_cons_of_ne hkey]

/-! ## Layouts of comparisons -/

open Condition

variable {indexes : List Index} {column : Column}

/-- A value, and what is bound for it if it is a scalar of a column. -/
def Coerced (column : Column) (v w : Value) : Prop :=
  v.isScalar = true ∧ column.type.coerce v = .ok w

theorem ofValue_eq_bind (hcolumn : Index.findColumn? indexes name = some column) {v w : Value}
    (h : Coerced column v w) : Layout.ofValue indexes (.text name) v = [.bind w] := by
  obtain ⟨hv, hw⟩ := h
  have hfound : Layout.columnOf indexes (.text name) = some column := hcolumn
  cases v with
  | bool | int | float | text | bytes | buffer =>
    simp only [Layout.ofValue, Layout.ofBound, hfound, Column.coerce, hw]
  | _ => simp [Value.isScalar] at hv

/-- The values of a row stand side by side. The value in the place is bound wherever its column is
among the columns. -/
theorem binds_row (hcolumn : Index.findColumn? indexes name = some column) {columns : List Value}
    (hname : .text name ∈ columns) {before : Mapping} (hbefore : .text name ∉ before.keys)
    (behind : Mapping) : Layout.Binds (Coerced column) fun v => Layout.join ", " (columns.map fun key =>
      Layout.ofChecked indexes key
        (Mapping.cell key (before ++ (.text name, v) :: behind))) := by
  have hcell (key : Value) : ∃ t : Layout.Template, (key = .text name → none ∈ t) ∧
      ∀ v w, Coerced column v w → Layout.ofChecked indexes key
        (Mapping.cell key (before ++ (.text name, v) :: behind)) = t.fill w := by
    by_cases hkey : key = .text name
    · refine ⟨[none], fun _ => List.mem_singleton_self _, fun v w h => ?_⟩
      rw [hkey, cell_append_cons_self hbefore, Layout.ofChecked, ofValue_eq_bind hcolumn h]
      rfl
    · refine ⟨(Layout.ofChecked indexes key (Mapping.cell key (before ++ behind))).map some,
        fun h => absurd h hkey, fun v w _ => ?_⟩
      rw [Layout.Template.fill_map_some, cell_append_cons_of_ne hkey]
  choose cell hplace hfill using hcell
  obtain ⟨t, hsubset, ht⟩ := Layout.exists_fill_join ", " (columns.map cell)
  refine ⟨t, hsubset _ (List.mem_map_of_mem hname) (hplace _ rfl), fun v w h => ?_⟩
  rw [ht, List.map_map]
  exact congrArg _ (List.map_congr_left fun key _ => hfill key v w h)

variable (c : Connection)

/-- A membership of several columns, row by row. -/
theorem exists_layout_row {target single : Value} (hmany : target.columns ≠ [single])
    (hsingle : single ∈ target.columns) (negated : Bool) (indexes : List Index) :
    ∃ row : Value → Layout,
      (∀ values, (amongValues negated target values).layout c indexes =
        Layout.ofRows c negated target.columns (values.map row) ++
          Layout.naming target.columns) ∧
      ∀ cells, row (.map cells) = Layout.enclose "(" (Layout.join ", "
        (target.columns.map fun key => Layout.ofChecked indexes key (Mapping.cell key cells))) ")" := by
  refine ⟨fun v => Layout.enclose "(" (Layout.join ", " (target.columns.zipWith
    (Layout.ofChecked indexes) (rowOf (if negated then Operator.notAmong else .among).keyword
      target.columns v))) ")", fun values => ?_, fun cells => ?_⟩
  · rw [amongValues]
    split
    · rename_i only hone
      rw [hone, List.mem_singleton] at hsingle
      exact absurd (hsingle ▸ hone) hmany
    · rw [Condition.layout, List.map_map]
      rfl
  · simp only [rowOf, List.zipWith_map_right, List.zipWith_self]

/-- An operand among the values of a membership. -/
theorem binds_amongValues (hcolumn : Index.findColumn? indexes name = some column)
    {target : Value} (operand : Operand name target) (negated : Bool) (front back : List Value) :
    Layout.Binds (Coerced column) fun v =>
      (amongValues negated target (front ++ operand.fill v :: back)).layout c indexes := by
  have hsingle (hcolumns : target.columns = [.text name])
      (hcell : ∀ v, v.isScalar = true →
        Value.cell (.text name) (operand.fill v) = .ok v) :
      Layout.Binds (Coerced column) fun v =>
        (amongValues negated target (front ++ operand.fill v :: back)).layout c indexes := by
    refine (Layout.Binds.of_surrounds (Layout.Surrounds.ofMembership c negated (.text name)
      ((front.map (Value.cell (.text name))).map (Layout.ofChecked indexes (.text name)))
      ((back.map (Value.cell (.text name))).map (Layout.ofChecked indexes (.text name)))))
      fun v w h => ?_
    simp only [amongValues, hcolumns, Condition.layout, List.map_append, List.map_cons,
      hcell v h.1, Layout.ofChecked, ofValue_eq_bind hcolumn h, Layout.naming_text, List.append_nil]
  cases operand with
  | value hcolumns =>
    refine hsingle hcolumns fun v hv => ?_
    cases v with
    | map => simp [Value.isScalar] at hv
    | _ => rfl
  | row hname before behind hbefore =>
    by_cases hcolumns : target.columns = [.text name]
    · exact hsingle hcolumns fun v _ => cell_append_cons_self hbefore v
    · obtain ⟨row, hlayout, hrow⟩ := exists_layout_row c hcolumns hname negated indexes
      have hcells := (binds_row hcolumn hname hbefore behind).surround (.enclose "(" ")")
      have hrows := (hcells.surround
        (.ofRows c negated target.columns (front.map row) (back.map row))).surround
          (.append (Layout.naming target.columns))
      simpa only [hlayout, List.map_append, List.map_cons, Operand.fill, hrow] using hrows

/-- The columns of a membership are given. -/
theorem Operand.given {target : Value} (operand : Operand name target) :
    target.isNull = false ∧ target.isEmptyList = false := by
  have hname : .text name ∈ target.columns := by
    cases operand with
    | value h => rw [h]; exact List.mem_singleton_self _
    | row h => exact h
  cases target with
  | list items | tuple items =>
    exact ⟨rfl, List.isEmpty_eq_false_iff.2 (List.ne_nil_of_mem hname)⟩
  | text => exact ⟨rfl, rfl⟩
  | _ => simp [Value.columns] at hname

/-- A membership that has columns and values. -/
theorem ofMembers_of_given {target values : Value} (htarget : target.isEmptyList = false)
    (hgiven : values.isNull = false) (hquery : ∀ q, values ≠ .query q)
    (hvalues : values.isEmptyList = false) (negated : Bool) :
    ofMembers negated target values =
      amongValues negated target (values.members?.getD [values]) := by
  have hnone : ¬ (values.isEmptyList || target.isEmptyList) = true := by simp [hvalues, htarget]
  cases values with
  | null => simp [Value.isNull] at hgiven
  | query q => exact absurd rfl (hquery q)
  | _ => exact if_neg hnone

theorem ofMembers_fill {target : Value} (operand : Operand name target) (negated : Bool)
    (holder : Holder) {v : Value} (hv : v.isScalar = true) :
    ofMembers negated target (holder.fill (operand.fill v)) =
      amongValues negated target (holder.before ++ operand.fill v :: holder.behind) := by
  have htarget := operand.given.2
  cases holder with
  | alone =>
    cases operand with
    | value =>
      cases v with
      | bool | int | float | text | bytes | buffer =>
        exact ofMembers_of_given htarget rfl (by simp [Holder.fill, Operand.fill]) rfl negated
      | _ => simp [Value.isScalar] at hv
    | row =>
      exact ofMembers_of_given htarget rfl (by simp [Holder.fill, Operand.fill]) rfl negated
  | within collection before behind =>
    cases collection with
    | list | tuple | set =>
      refine ofMembers_of_given htarget rfl ?_ ?_ negated
      · simp [Holder.fill, Collection.value]
      · simp [Holder.fill, Collection.value, Value.isEmptyList, Value.members?]

/-! ## What is bound -/

/-- What a comparison binds for a value. -/
def Bound (leaf : Comparison name) (column : Column) (v w : Value) : Prop :=
  ∃ u, Coerced column v u ∧ w = if leaf.isGeneric then v else u

theorem ofValue_generic {token : String}
    (htoken : Operator.ofKeyword? (Operator.normalize token) = none) (isTuple : Bool)
    (target v : Value) : ofValue (.form isTuple token [target, v]) =
      .compared (Operator.normalize token) target v := by
  rw [ofValue_form, ofForm, htoken]
  rfl

theorem ofEntry_of_isScalar (target : Value) {v : Value} (hv : v.isScalar = true) :
    ofEntry target v = .equals target v := by
  cases v with
  | bool | int | float | text | bytes | buffer => rfl
  | _ => simp [Value.isScalar] at hv

theorem ofEntry_collection (target : Value) (collection : Collection) {items : List Value}
    (h : items ≠ []) : ofEntry target (collection.value items) = amongValues false target items := by
  cases items with
  | nil => exact absurd rfl h
  | cons first rest =>
    cases collection with
    | list | tuple | set => rfl

theorem isNull_of_isScalar {v : Value} (hv : v.isScalar = true) : v.isNull = false := by
  cases v with
  | null => simp [Value.isScalar] at hv
  | _ => rfl

theorem ofCompared_of_isScalar {v : Value} (hv : v.isScalar = true) :
    Layout.ofCompared v = [.bind v] := by
  cases v with
  | bool | int | float | text | bytes | buffer => rfl
  | _ => simp [Value.isScalar] at hv

/-- **A comparison binds what its value is coerced to**, or the value itself if the operator has
no form of its own. -/
theorem binds_layoutOf (hcolumn : Index.findColumn? indexes name = some column)
    (leaf : Comparison name) :
    Layout.Binds (leaf.Bound column) fun v => layoutOf c indexes (leaf.fill v) := by
  have hcoerced {l : Value → Layout} (hleaf : leaf.isGeneric = false)
      (h : Layout.Binds (Coerced column) l) : Layout.Binds (leaf.Bound column) l := by
    refine h.mono fun v w => ?_
    rintro ⟨u, hu, rfl⟩
    rwa [hleaf, if_neg Bool.false_ne_true]
  have htext : (Value.text name).isNull = false := rfl
  cases leaf with
  | equal before behind key hkey =>
    obtain ⟨wrap, hwrap, hlayout⟩ := surrounds_layoutOf_map c indexes before behind key
    refine hcoerced rfl (.of_surrounds
      (hwrap.comp (.cons (.text (c.quoteValue (.text name) ++ "=")))) fun v w h => ?_)
    rw [fill, hlayout, hkey, ofEntry_of_isScalar _ h.1, Condition.layout, ofValue_eq_bind hcolumn h]
  | oneOf before behind key hkey collection front back operand =>
    obtain ⟨wrap, hwrap, hlayout⟩ := surrounds_layoutOf_map c indexes before behind key
    refine hcoerced rfl (((binds_amongValues c hcolumn operand false front back).surround
      hwrap).congr fun v w h => ?_)
    rw [fill, hlayout, hkey, ofEntry_collection _ _ (by simp)]
  | member negated spelling isTuple target holder operand rest =>
    refine hcoerced rfl ((binds_amongValues c hcolumn operand negated holder.before
      holder.behind).congr fun v w h => ?_)
    rw [fill, layoutOf, ofValue_membership negated spelling isTuple operand.given.1,
      ofMembers_fill operand negated holder h.1]
  | lower negated spelling isTuple high hhigh =>
    refine hcoerced rfl (.of_surrounds (.between
      [.text (c.quoteValue (.text name) ++ " " ++ deny negated "BETWEEN" ++ " ")]
      (.text " AND " :: Layout.ofValue indexes (.text name) high)) fun v w h => ?_)
    rw [fill, layoutOf, ofValue_bounds negated spelling isTuple htext (isNull_of_isScalar h.1) hhigh,
      Condition.layout, ofValue_eq_bind hcolumn h, Layout.naming_text, List.append_nil]
    rfl
  | upper negated spelling isTuple low hlow =>
    refine hcoerced rfl (.of_surrounds (.between
      (.text (c.quoteValue (.text name) ++ " " ++ deny negated "BETWEEN" ++ " ") ::
        Layout.ofValue indexes (.text name) low ++ [.text " AND "]) []) fun v w h => ?_)
    rw [fill, layoutOf, ofValue_bounds negated spelling isTuple htext hlow (isNull_of_isScalar h.1),
      Condition.layout, ofValue_eq_bind hcolumn h]
    simp
  | generic token htoken isTuple =>
    refine .of_surrounds (.cons (.text (c.quoteValue (.text name) ++ " " ++
      Operator.normalize token ++ " "))) fun v w => ?_
    rintro ⟨u, ⟨hv, -⟩, rfl⟩
    rw [fill, layoutOf, ofValue_generic htoken, Condition.layout, ofCompared_of_isScalar hv,
      Layout.naming_text, List.nil_append]

variable {c}

/-- **What is bound for a scalar that a known column is compared with**, wherever the comparison
stands in a condition: the rest of the condition does not depend on the scalar, and in each place
that waits for it, it is bound as what it is coerced to. Only an operator without a form of its
own binds it as it is given. -/
theorem bound_value (hcolumn : Index.findColumn? indexes name = some column)
    (leaf : Comparison name) (context : Context) :
    ∃ t : Layout.Template, none ∈ t ∧
      ∀ v w, v.isScalar = true → column.type.coerce v = .ok w →
        layoutOf c indexes (context.fill (leaf.fill v)) =
          t.fill (if leaf.isGeneric then v else w) := by
  obtain ⟨t, ht, hfill⟩ := (binds_layoutOf c hcolumn leaf).surround
    (context.surrounds_wrap c indexes)
  refine ⟨t, ht, fun v w hv hw => ?_⟩
  rw [context.layout_fill]
  exact hfill v _ ⟨w, ⟨hv, hw⟩, rfl⟩

/-- An index of books. -/
def books : Index := ⟨"books", [⟨"title", .field⟩, ⟨"pages", .uint⟩]⟩

/-- Pages that are not among those of some rows, in which they are compared twice. -/
def notInRows : Comparison "pages" :=
  .member true ⟨" not in ", by decide⟩ true (.list [.text "pages", .text "title", .text "pages"])
    (.within .tuple [.map []] [])
    (.row (by simp [Value.columns]) [(.text "title", .text "Emma")] [] (by simp [Mapping.keys])) []

theorem bound_value_notInRows :
    Index.findColumn? [books] "pages" = some ⟨"pages", .uint⟩ ∧
      ColumnType.uint.coerce (.text " 4_00") = .ok (.int 400) ∧
      ∃ t : Layout.Template, none ∈ t ∧
        layoutOf .standard [books] (Context.fill [.denied ⟨"Not", by decide⟩ false]
          (notInRows.fill (.text " 4_00"))) = t.fill (.int 400) := by
  have hcolumn : Index.findColumn? [books] "pages" = some ⟨"pages", .uint⟩ := by decide
  have hcoerce : ColumnType.uint.coerce (.text " 4_00") = .ok (.int 400) := rfl
  obtain ⟨t, ht, hfill⟩ := bound_value (c := .standard) hcolumn notInRows
    [.denied ⟨"Not", by decide⟩ false]
  exact ⟨hcolumn, hcoerce, t, ht, hfill _ _ rfl hcoerce⟩

/-- A connection to a server that has the books. -/
def library : Connection := { Connection.standard with snapshot := some ⟨[books]⟩ }

/-- The same comparison binds a number or a text, depending on how it is written. -/
theorem not_bound_alike :
    (library.compiled? (.condition (.map [(.text "pages", .text "7")]) (.list [.text "books"])
        .null)).map (·.params) = some [(.text ":qp0", .int 7)] ∧
      (library.compiled? (.condition (.list [.text "=", .text "pages", .text "7"])
        (.list [.text "books"]) .null)).map (·.params) = some [(.text ":qp0", .text "7")] :=
  ⟨rfl, rfl⟩

end Comparison

end SearchSql
