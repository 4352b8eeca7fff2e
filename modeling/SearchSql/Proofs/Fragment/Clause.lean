import SearchSql.Proofs.Layout.History
import SearchSql.Proofs.Layout.Infix

/-!
# Raw fragments in values and clauses

A raw fragment brings its parameters along. Wherever a value of a column, the value of an
option, a field, a column of a list, a direction or a part of a facet may stand, a fragment may
stand as well, and its parameters are bound with it.

## Main definitions

* `Fragment` — a raw fragment with its parameters.
* `Fragment.BoundIn` — a layout binds the parameters of a fragment.
* `Fragment.InValue`, `Fragment.InOption`, `Fragment.InFacet` — a fragment in a value of a
  column, in the value of an option and in a facet.

## Main statements

* `Fragment.BoundIn.mem_names` — what a layout binds is bound at the end.
* `Fragment.InValue.boundIn`, `Fragment.InOption.boundIn`, `Fragment.InFacet.boundIn` — the
  parameters of a fragment are bound.
-/
namespace SearchSql

namespace Layout

variable {stem : String}

/-- Names stay bound. -/
theorem names_subset_names_paramsAfter {l : Layout} {p : Params} {name : String}
    (h : .text name ∈ p.names) : .text name ∈ (l.paramsAfter stem p).names := by
  induction l generalizing p with
  | nil => exact h
  | cons piece l ih =>
    refine ih ?_
    cases piece with
    | bind v => exact Mapping.text_mem_keys_insert_iff.2 (Or.inr h)
    | merge params => exact Mapping.text_mem_keys_merge_iff.2 (Or.inr h)
    | text | indexes | fault => exact h

/-- Parameters that a layout binds under their own names are bound at the end. -/
theorem mem_names_of_merge_mem {l : Layout} {params : Mapping} (h : .merge params ∈ l)
    {name : String} (hname : .text name ∈ params.keys) (p : Params) :
    .text name ∈ (l.paramsAfter stem p).names := by
  obtain ⟨before, behind, rfl⟩ := List.append_of_mem h
  rw [paramsAfter_append, paramsAfter_cons]
  exact names_subset_names_paramsAfter (Mapping.text_mem_keys_merge_iff.2 (Or.inl hname))

theorem ofOptionItems_eq_map (items : List Value) : ofOptionItems items = items.map ofOption := by
  induction items with
  | nil => rfl
  | cons v rest ih => rw [ofOptionItems, ih, List.map_cons]

/-- Each part of an option that is a mapping stands behind its name, if it has one. -/
theorem exists_ofOptionPairs_mem {pairs : List (Value × Value)} {name v : Value}
    (h : (name, v) ∈ pairs) : ∃ l ∈ ofOptionPairs pairs, ofOption v <:+: l := by
  induction pairs with
  | nil => cases h
  | cons first rest ih =>
    rcases List.mem_cons.1 h with rfl | hrest
    · cases name with
      | text s => exact ⟨_, List.mem_cons_self .., List.infix_cons (List.infix_refl _)⟩
      | _ => exact ⟨_, List.mem_cons_self .., List.infix_refl _⟩
    · obtain ⟨l, hl, hin⟩ := ih hrest
      obtain ⟨key, u⟩ := first
      cases key with
      | text s => exact ⟨l, List.mem_cons_of_mem _ hl, hin⟩
      | _ => exact ⟨l, List.mem_cons_of_mem _ hl, hin⟩

end Layout

/-- A raw fragment: a text that is taken as it is, and the parameters that belong to it. -/
structure Fragment where
  /-- The text. -/
  sql : String
  /-- The parameters. -/
  params : Mapping

namespace Fragment

variable (f : Fragment)

/-- The fragment as a value. -/
def value : Value := .raw f.sql f.params

/-- A layout binds the parameters of a fragment. -/
def BoundIn (l : Layout) : Prop := .merge f.params ∈ l

variable {f}

namespace BoundIn

variable {l : Layout}

theorem of_isInfix {whole : Layout} (h : f.BoundIn l) (hl : l <:+: whole) : f.BoundIn whole :=
  hl.subset h

theorem cons (piece : Piece) (h : f.BoundIn l) : f.BoundIn (piece :: l) := List.mem_cons_of_mem _ h

/-- **The parameters of the fragment are bound at the end.** -/
theorem mem_names (h : f.BoundIn l) {name : String} (hname : .text name ∈ f.params.keys)
    (stem : String) (p : Params) : .text name ∈ (l.paramsAfter stem p).names :=
  Layout.mem_names_of_merge_mem h hname p

theorem join {ls : List Layout} (separator : String) (hl : l ∈ ls) (h : f.BoundIn l) :
    f.BoundIn (Layout.join separator ls) :=
  h.of_isInfix (Layout.infix_join separator hl)

theorem enclose (opening closing : String) (h : f.BoundIn l) :
    f.BoundIn (Layout.enclose opening l closing) :=
  h.of_isInfix (Layout.infix_enclose ..)

end BoundIn

/-- A fragment is laid out with its parameters. -/
theorem boundIn_ofRaw (f : Fragment) : f.BoundIn (Layout.ofRaw f.sql f.params) :=
  List.mem_cons_self ..

theorem boundIn_ofPlain (f : Fragment) : f.BoundIn (Layout.ofPlain f.value) := f.boundIn_ofRaw

theorem boundIn_ofPattern (f : Fragment) (table : Value) :
    f.BoundIn (Layout.ofPattern table f.value) :=
  f.boundIn_ofRaw

theorem boundIn_ofFulltext (f : Fragment) : f.BoundIn (Layout.ofFulltext f.value) :=
  List.mem_cons_self ..

theorem boundIn_ofRawLabeled (f : Fragment) (c : Connection) (separator : String)
    (label : Option String) :
    f.BoundIn (Layout.ofRawLabeled c separator f.sql f.params label) := by
  cases label <;> exact List.mem_cons_self ..

/-! ## Values -/

/-- A fragment is the value of a column, or one of several. A JSON column has several as one
value, of which nothing is written. -/
inductive InValue (f : Fragment) (column : Option Column) : Value → Prop where
  /-- It is the value. -/
  | alone : InValue f column f.value
  /-- It is one of several. -/
  | member {v : Value} {items : List Value} (hitems : v.members? = some items)
    (hf : f.value ∈ items) (hjson : ∀ name, column ≠ some ⟨name, .json⟩) : InValue f column v

theorem InValue.boundIn_ofMembers {column : Option Column} {items : List Value} (v : Value)
    (hf : f.value ∈ items) (hjson : ∀ name, column ≠ some ⟨name, .json⟩) :
    f.BoundIn (Layout.ofMembers column v items) := by
  have hitem : Layout.ofBound column f.value ∈ items.map (Layout.ofBound column) :=
    List.mem_map_of_mem hf
  rw [Layout.ofMembers]
  · exact (f.boundIn_ofRaw.join "," hitem).enclose "(" ")"
  · exact hjson

/-- **A fragment in a value of a column keeps its parameters.** -/
theorem InValue.boundIn {indexes : List Index} {column v : Value}
    (h : f.InValue (Layout.columnOf indexes column) v) :
    f.BoundIn (Layout.ofValue indexes column v) := by
  cases h with
  | alone => exact f.boundIn_ofRaw
  | member hitems hf hjson =>
    cases v with
    | list items | tuple items | set items =>
      obtain rfl := Option.some.inj hitems
      exact boundIn_ofMembers _ hf hjson
    | _ => cases hitems

/-- A fragment stands in the value of an option, which may be nested. -/
inductive InOption (f : Fragment) : Value → Prop where
  /-- It is the value. -/
  | alone : InOption f f.value
  /-- It stands in an item of a list. -/
  | item {v x : Value} {items : List Value} (hitems : v.sequence? = some items) (hx : x ∈ items)
    (h : InOption f x) : InOption f v
  /-- It stands in a part of a mapping. -/
  | entry {pairs : Mapping} {name x : Value} (hx : (name, x) ∈ pairs) (h : InOption f x) :
    InOption f (.map pairs)

/-- **A fragment in the value of an option keeps its parameters.** -/
theorem InOption.boundIn {v : Value} (h : f.InOption v) : f.BoundIn (Layout.ofOption v) := by
  induction h with
  | alone => exact f.boundIn_ofRaw
  | @item v x items hitems hx _ ih =>
    have hpart := List.mem_map_of_mem (f := Layout.ofOption) hx
    rw [← Layout.ofOptionItems_eq_map] at hpart
    have hjoined := (ih.join ", " hpart).enclose "(" ")"
    cases v with
    | list items | tuple items =>
      obtain rfl := Option.some.inj hitems
      exact hjoined
    | _ => cases hitems
  | entry hx _ ih =>
    obtain ⟨l, hl, hin⟩ := Layout.exists_ofOptionPairs_mem hx
    exact ((ih.of_isInfix hin).join ", " hl).enclose "(" ")"

theorem boundIn_ofOptions {options : List (String × Value)} {name : String} {v : Value}
    (hv : (name, v) ∈ options) (h : f.InOption v) : f.BoundIn (Layout.ofOptions options) := by
  rw [Layout.ofOptions, if_neg (not_isEmpty_of_mem hv)]
  have hpart := List.mem_map_of_mem
    (f := fun option => Piece.text (option.1 ++ " = ") :: Layout.ofOption option.2) hv
  exact ((h.boundIn.cons _).join ", " hpart).cons _

/-! ## Clauses -/

section

variable (c : Connection)

theorem boundIn_ofFields {entries : List Entry} {key : Option String}
    (h : (key, f.value) ∈ entries) :
    f.BoundIn (Layout.ofFields c (entries.map Field.ofEntry)) := by
  have hentry := List.mem_map_of_mem (f := Field.ofEntry) h
  have hfield := List.mem_map_of_mem (f := Layout.ofField c) hentry
  rw [Layout.ofFields, if_neg (not_isEmpty_of_mem hentry)]
  exact (f.boundIn_ofRawLabeled c " AS " (key.bind nonempty?)).join ", " hfield

theorem boundIn_ofColumns {items : List Value} (h : f.value ∈ items) :
    f.BoundIn (Layout.ofColumns c (items.map ListedColumn.ofValue)) := by
  have hcolumn := List.mem_map_of_mem (f := Layout.ofColumn c)
    (List.mem_map_of_mem (f := ListedColumn.ofValue) h)
  exact f.boundIn_ofRaw.join ", " hcolumn

theorem boundIn_ofOrdering {terms : List OrderTerm} (h : .raw f.sql f.params ∈ terms)
    (keyword : String) (spelled : Bool) :
    f.BoundIn (Layout.ofOrdering c keyword spelled terms) := by
  rw [Layout.ofOrdering, if_neg (not_isEmpty_of_mem h)]
  have hterm := List.mem_map_of_mem (f := Layout.ofOrderTerm c spelled) h
  exact (f.boundIn_ofRaw.join ", " hterm).cons _

end

/-- A fragment stands in a facet: as a field or as a direction. -/
inductive InFacet (f : Fragment) : Entry → Prop where
  /-- It is a field of a facet that is given by its fields. -/
  | field {v : Value} {key : Option String} (h : (key, f.value) ∈ Facet.fieldEntries v) :
    InFacet f (none, v)
  /-- It is a field of a facet that is given by a mapping. -/
  | select {name : String} {m : Mapping} {v : Value} {key : Option String}
    (hv : m.named? "select" = some v) (h : (key, f.value) ∈ Facet.fieldEntries v) :
    InFacet f (some name, .map m)
  /-- It is a direction. -/
  | order {name : String} {m pairs : Mapping} {column : Value}
    (hpairs : m.named? "order" = some (.map pairs)) (h : (column, f.value) ∈ pairs) :
    InFacet f (some name, .map m)

theorem boundIn_ofFacet_of_fields {c : Connection} {facet : Facet}
    (h : f.BoundIn (Layout.ofFields c facet.fields)) : f.BoundIn (Layout.ofFacet c (.ok facet)) :=
  (h.of_isInfix (Layout.infix_joinPresent " " (List.mem_cons_self ..))).cons _

theorem boundIn_ofFacet_of_order {c : Connection} {facet : Facet}
    (h : f.BoundIn (Layout.ofCheckedOrder c facet.order)) :
    f.BoundIn (Layout.ofFacet c (.ok facet)) :=
  (h.of_isInfix (Layout.infix_joinPresent " "
    (List.mem_cons_of_mem _ (List.mem_cons_self ..)))).cons _

/-- **A fragment in a facet keeps its parameters.** -/
theorem InFacet.boundIn {entry : Entry} (h : f.InFacet entry) (c : Connection) :
    f.BoundIn (Layout.ofFacet c (Facet.ofEntry entry)) := by
  cases h with
  | field h => exact boundIn_ofFacet_of_fields (boundIn_ofFields c h)
  | @select name m v key hv h =>
    refine boundIn_ofFacet_of_fields ?_
    simp only [Facet.ofMapping, hv, Option.getD_some]
    exact boundIn_ofFields c h
  | @order name m pairs column hpairs h =>
    refine boundIn_ofFacet_of_order ?_
    have hgiven : (Value.map pairs).truthy = true := by
      cases pairs with
      | nil => cases h
      | cons => rfl
    have hterm := List.mem_map_of_mem
      (f := fun term : Value × Value => OrderTerm.ofEntry term.1 term.2) h
    simp only [Facet.ofMapping, hpairs, Option.getD_some, OrderTerm.listOf, hgiven, Bool.not_true,
      Bool.false_eq_true, if_false]
    exact boundIn_ofOrdering c hterm _ _

end Fragment

end SearchSql
