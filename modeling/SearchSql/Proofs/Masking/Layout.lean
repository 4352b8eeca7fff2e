import SearchSql.Proofs.Masking.Basic
import SearchSql.Value.Role

/-!
# Layouts without the data that is bound

Hiding forgets the values in a layout: a place at which a value is bound, and one at
which the value cannot be bound, become the same. A request and the request without its
data have the same layout but for what is hidden, since the shape of a layout is decided
by the kinds of values and never by the scalars among them.

## Main definitions

* `Layout.hidden` — a layout without the values in it.

## Main statements

* `Layout.hidden_condition`, `Layout.hidden_selection` — masking changes only what is hidden.
-/
namespace SearchSql

/-- A piece without the value that is bound there or fails to be bound. -/
def Piece.hidden : Piece → Piece
  | .bind _ | .fault _ => .bind .null
  | piece => piece

namespace Layout

/-- A layout without the values in it. -/
def hidden (l : Layout) : Layout := l.map Piece.hidden

@[simp] theorem hidden_nil : hidden [] = [] := rfl

@[simp] theorem hidden_cons (piece : Piece) (l : Layout) :
    hidden (piece :: l) = piece.hidden :: hidden l := rfl

@[simp] theorem hidden_append (l r : Layout) : (l ++ r).hidden = l.hidden ++ r.hidden :=
  List.map_append

@[simp] theorem isEmpty_hidden (l : Layout) : l.hidden.isEmpty = l.isEmpty := by
  cases l <;> rfl

@[simp] theorem hidden_enclose (opening : String) (l : Layout) (closing : String) :
    (enclose opening l closing).hidden = enclose opening l.hidden closing := by
  simp [enclose, Piece.hidden]

@[simp] theorem hidden_after (opening : String) (l : Layout) :
    (after opening l).hidden = after opening l.hidden := by
  cases l <;> simp [after, Piece.hidden]

@[simp] theorem hidden_join (separator : String) (ls : List Layout) :
    (join separator ls).hidden = join separator (ls.map hidden) := by
  fun_induction join separator ls with
  | case1 => rfl
  | case2 l => rfl
  | case3 l rest hrest ih =>
    obtain ⟨next, others, rfl⟩ := List.exists_cons_of_ne_nil hrest
    simpa [Piece.hidden] using ih

@[simp] theorem filter_map_hidden (ls : List Layout) :
    (ls.map hidden).filter (!·.isEmpty) = (ls.filter (!·.isEmpty)).map hidden := by
  simp [List.filter_map, Function.comp_def]

@[simp] theorem hidden_joinPresent (separator : String) (ls : List Layout) :
    (joinPresent separator ls).hidden = joinPresent separator (ls.map hidden) := by
  simp [joinPresent]

@[simp] theorem hidden_connect (word : String) (ls : List Layout) :
    (connect word ls).hidden = connect word (ls.map hidden) := by
  unfold connect
  rw [filter_map_hidden]
  cases ls.filter (!·.isEmpty) <;> simp

/-! ## Values -/

/-- A value that is bound, or fails to be bound, is hidden as one piece. -/
theorem hidden_ofBound_eq (column : Option Column) {v : Value} (h : v.role ≠ .raw) :
    (ofBound column v).hidden = [.bind .null] := by
  cases v <;> simp only [Value.role, ne_eq, not_true_eq_false, reduceCtorEq] at h <;>
    simp only [ofBound] <;> split <;> rfl

@[simp] theorem role_masked (v : Value) : v.masked.role = v.role := by
  cases v <;> rfl

theorem masked_of_role_raw {v : Value} (h : v.role = .raw) : v.masked = v := by
  cases v <;> first | rfl | simp [Value.role] at h

@[simp] theorem hidden_ofBound_masked (column : Option Column) (v : Value) :
    (ofBound column v.masked).hidden = (ofBound column v).hidden := by
  by_cases h : v.role = .raw
  · rw [masked_of_role_raw h]
  · rw [hidden_ofBound_eq column h, hidden_ofBound_eq column (by simpa using h)]

theorem maskedAll_eq_map (items : List Value) : Value.maskedAll items = items.map Value.masked := by
  induction items with
  | nil => rfl
  | cons v rest ih => simp [Value.maskedAll, ih]

theorem maskedPairs_eq_map (pairs : List (Value × Value)) :
    Value.maskedPairs pairs = pairs.map fun (key, v) => (key, v.masked) := by
  induction pairs with
  | nil => rfl
  | cons pair rest ih => simp [Value.maskedPairs, ih]

theorem hidden_ofMembers (column : Option Column) {v w : Value} (hv : v.role ≠ .raw)
    (hw : w.role ≠ .raw) (items : List Value) :
    (ofMembers column v (items.map Value.masked)).hidden = (ofMembers column w items).hidden := by
  unfold ofMembers
  split
  · rw [hidden_ofBound_eq _ hv, hidden_ofBound_eq _ hw]
  · simp [Function.comp_def]

/-- One value is coerced to the column and bound. -/
theorem ofValue_of_scalar (indexes : List Index) (column : Value) {v : Value}
    (h : v.role = .scalar) :
    ofValue indexes column v = ofBound (columnOf indexes column) v := by
  cases v <;> first | rfl | simp [Value.role] at h

@[simp] theorem hidden_ofValue_masked (indexes : List Index) (column v : Value) :
    (ofValue indexes column v.masked).hidden = (ofValue indexes column v).hidden := by
  by_cases hscalar : v.role = .scalar
  · rw [ofValue_of_scalar indexes column hscalar,
      ofValue_of_scalar indexes column (by simpa using hscalar), hidden_ofBound_masked]
  · cases v with
    | null | raw sql params | query q => rfl
    | list items | tuple items | set items =>
      simp only [Value.masked, ofValue, maskedAll_eq_map]
      exact hidden_ofMembers _ (by simp [Value.role]) (by simp [Value.role]) items
    | _ => simp [Value.role] at hscalar

@[simp] theorem hidden_ofCell_masked (indexes : List Index) (column v : Value) :
    (ofCell indexes column v.masked).hidden = (ofCell indexes column v).hidden := by
  simp [ofCell]

@[simp] theorem hidden_ofPlain_masked (v : Value) :
    (ofPlain v.masked).hidden = (ofPlain v).hidden := by
  cases v <;> rfl

@[simp] theorem hidden_ofCompared_masked (v : Value) :
    (ofCompared v.masked).hidden = (ofCompared v).hidden := by
  cases v <;> rfl

/-- What is bound for the text of a value is hidden as one piece. -/
theorem hidden_ofShown_eq (v : Value) {layout : String → Layout}
    (h : ∀ s, (layout s).hidden = [.bind .null]) : (ofShown v layout).hidden = [.bind .null] := by
  rcases ofShown_eq_or v layout with heq | heq <;> rw [heq]
  · exact h _
  · rfl

@[simp] theorem hidden_ofFulltext_masked (v : Value) :
    (ofFulltext v.masked).hidden = (ofFulltext v).hidden := by
  have hshown (v : Value) :
      (ofShown v fun s => [.bind (.text (Match.escape s))]).hidden = [.bind .null] :=
    hidden_ofShown_eq v fun _ => rfl
  cases v <;> simp [-ofShown_text, ofFulltext, Value.masked, hshown]

/-- A pattern is hidden as one piece, unless it is a raw fragment. -/
theorem hidden_ofPattern_eq (table : Value) {v : Value} (h : v.role ≠ .raw) :
    (ofPattern table v).hidden = [.bind .null] := by
  cases v <;> simp only [Value.role, ne_eq, not_true_eq_false, reduceCtorEq] at h <;>
    simp only [ofPattern] <;> split <;> rfl

@[simp] theorem hidden_ofPattern_masked (table v : Value) :
    (ofPattern table v.masked).hidden = (ofPattern table v).hidden := by
  by_cases h : v.role = .raw
  · rw [masked_of_role_raw h]
  · rw [hidden_ofPattern_eq table h, hidden_ofPattern_eq table (by simpa using h)]

mutual

@[simp] theorem hidden_ofOption_masked (v : Value) :
    (ofOption v.masked).hidden = (ofOption v).hidden := by
  match v with
  | .map pairs => simp [Value.masked, ofOption, map_hidden_ofOptionPairs pairs]
  | .list items => simp [Value.masked, ofOption, map_hidden_ofOptionItems items]
  | .tuple items => simp [Value.masked, ofOption, map_hidden_ofOptionItems items]
  | .null | .bool _ | .int _ | .float _ | .text _ | .bytes _ | .buffer _ | .set _ | .raw _ _
  | .query _ => rfl

theorem map_hidden_ofOptionItems (items : List Value) :
    (ofOptionItems (Value.maskedAll items)).map hidden = (ofOptionItems items).map hidden := by
  match items with
  | [] => rfl
  | v :: rest =>
    simp [Value.maskedAll, ofOptionItems, hidden_ofOption_masked v, map_hidden_ofOptionItems rest]

theorem map_hidden_ofOptionPairs (pairs : List (Value × Value)) :
    (ofOptionPairs (Value.maskedPairs pairs)).map hidden = (ofOptionPairs pairs).map hidden := by
  match pairs with
  | [] => rfl
  | (key, v) :: rest =>
    cases key <;>
      simp [Value.maskedPairs, ofOptionPairs, hidden_ofOption_masked v,
        map_hidden_ofOptionPairs rest]

end

end Layout
end SearchSql
