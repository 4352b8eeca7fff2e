import Mathlib
import SearchSql.Layout.Selection

/-!
# Places in conditions

A place in a condition is given by the levels around it: the operands beside it under a
connective, or a denial. Whatever is put into the place, its layout stands in the layouts of
the levels around it.

## Main definitions

* `Condition.Frame`, `Condition.Context` — one level, and all levels around a place.
* `Condition.Context.fill` — the condition with something in the place.
* `Condition.Context.wrap` — the layouts around the layout of what is in the place.

## Main statements

* `Condition.Context.layout_fill` — the layout of a condition that has been filled.
-/
namespace SearchSql

/-- A text that is read as an operator. -/
structure Spelling (o : Operator) where
  /-- The text. -/
  token : String
  /-- It is the keyword but for blanks around it and the case of letters. -/
  normalize_eq : Operator.normalize token = o.keyword

/-- The operator that a connective is asked for by. -/
def Connective.operator : Connective → Operator
  | .and => .and
  | .or => .or

/-- A denied layout in parentheses, left out with the layout. -/
def Layout.negate (l : Layout) : Layout := if l.isEmpty then [] else Layout.enclose "NOT (" l ")"

/-- Operator form: a list or a tuple that starts with a token. -/
def Value.form (isTuple : Bool) (token : String) (operands : List Value) : Value :=
  if isTuple then .tuple (.text token :: operands) else .list (.text token :: operands)

namespace Condition

/-- The layout of the condition that a value describes. -/
def layoutOf (c : Connection) (indexes : List Index) (v : Value) : Layout :=
  (ofValue v).layout c indexes

theorem ofValue_form (isTuple : Bool) (token : String) (operands : List Value) :
    ofValue (.form isTuple token operands) = ofForm (.text token :: operands) := by
  cases isTuple
  · rw [Value.form, if_neg Bool.false_ne_true, ofValue]
  · rw [Value.form, if_pos rfl, ofValue]

theorem ofForm_spelling {o : Operator} (spelling : Spelling o) :
    Operator.ofKeyword? (Operator.normalize spelling.token) = some o := by
  rw [spelling.normalize_eq, Operator.ofKeyword?_keyword]

/-- Membership in operator form. -/
theorem ofValue_membership (negated : Bool)
    (spelling : Spelling (if negated then Operator.notAmong else Operator.among))
    (isTuple : Bool) {column : Value} (hcolumn : column.isNull = false) (values : Value)
    (rest : List Value) :
    ofValue (.form isTuple spelling.token (column :: values :: rest)) =
      ofMembers negated column values := by
  rw [ofValue_form, ofForm, ofForm_spelling]
  cases negated <;> simp [ofMembership, hcolumn]

/-- Bounds in operator form. -/
theorem ofValue_bounds (negated : Bool)
    (spelling : Spelling (if negated then Operator.notBetween else Operator.between))
    (isTuple : Bool) {column low high : Value} (hcolumn : column.isNull = false)
    (hlow : low.isNull = false) (hhigh : high.isNull = false) :
    ofValue (.form isTuple spelling.token [column, low, high]) =
      .between negated column low high := by
  rw [ofValue_form, ofForm, ofForm_spelling]
  cases negated <;> simp [ofBounds, hcolumn, hlow, hhigh]

theorem layouts_ofOperands (c : Connection) (indexes : List Index) (operands : List Value) :
    layouts c indexes (ofOperands operands) = operands.map (layoutOf c indexes) := by
  induction operands with
  | nil => rfl
  | cons v rest ih => simp [ofOperands, layouts, layoutOf, ih]

theorem ofOperands_eq_map (operands : List Value) : ofOperands operands = operands.map ofValue := by
  induction operands with
  | nil => rfl
  | cons v rest ih => rw [ofOperands, ih, List.map_cons]

/-- One level around a place in a condition. -/
inductive Frame where
  /-- The place is an operand of a connective, with others before it and behind it. -/
  | connected (connective : Connective) (spelling : Spelling connective.operator)
    (isTuple : Bool) (before behind : List Value)
  /-- The place is denied. -/
  | denied (spelling : Spelling .not) (isTuple : Bool)

namespace Frame

/-- The condition with something in the place. -/
def fill : Frame → Value → Value
  | .connected _ spelling isTuple before behind, v =>
    .form isTuple spelling.token (before ++ v :: behind)
  | .denied spelling isTuple, v => .form isTuple spelling.token [v]

/-- The operands beside the place. -/
def siblings : Frame → List Value
  | .connected _ _ _ before behind => before ++ behind
  | .denied _ _ => []

/-- Values that describe the same condition may be exchanged. -/
theorem ofValue_fill_congr (frame : Frame) {v w : Value} (h : ofValue v = ofValue w) :
    ofValue (frame.fill v) = ofValue (frame.fill w) := by
  cases frame with
  | connected connective spelling isTuple before behind =>
    have hoperands : ofOperands (before ++ v :: behind) = ofOperands (before ++ w :: behind) := by
      simp only [ofOperands_eq_map, List.map_append, List.map_cons, h]
    rw [fill, fill, ofValue_form, ofValue_form, ofForm, ofForm, ofForm_spelling]
    cases connective with
    | and => exact congrArg (Condition.connected .and) hoperands
    | or => exact congrArg (Condition.connected .or) hoperands
  | denied spelling isTuple =>
    rw [fill, fill, ofValue_form, ofValue_form, ofForm, ofForm, ofForm_spelling]
    exact congrArg Condition.negation h

variable (c : Connection) (indexes : List Index)

/-- The layout of the level around a layout in the place. -/
def wrap : Frame → Layout → Layout
  | .connected connective _ _ before behind, l =>
    Layout.connect connective.word
      (before.map (layoutOf c indexes) ++ l :: behind.map (layoutOf c indexes))
  | .denied _ _, l => l.negate

theorem layout_fill (frame : Frame) (v : Value) :
    layoutOf c indexes (frame.fill v) = frame.wrap c indexes (layoutOf c indexes v) := by
  cases frame with
  | connected connective spelling isTuple before behind =>
    have hoperands := layouts_ofOperands c indexes (before ++ v :: behind)
    rw [List.map_append, List.map_cons] at hoperands
    rw [fill, layoutOf, ofValue_form, ofForm, ofForm_spelling, wrap]
    cases connective with
    | and => exact congrArg (Layout.connect "AND") hoperands
    | or => exact congrArg (Layout.connect "OR") hoperands
  | denied spelling isTuple =>
    rw [fill, layoutOf, ofValue_form, ofForm, ofForm_spelling]
    rfl

end Frame

/-- The levels around a place in a condition, the closest first. -/
abbrev Context := List Frame

namespace Context

/-- The condition with something in the place. -/
def fill : Context → Value → Value
  | [], v => v
  | frame :: outer, v => fill outer (frame.fill v)

theorem ofValue_fill_congr (context : Context) {v w : Value} (h : ofValue v = ofValue w) :
    ofValue (context.fill v) = ofValue (context.fill w) := by
  induction context generalizing v w with
  | nil => exact h
  | cons frame outer ih => exact ih (frame.ofValue_fill_congr h)

variable (c : Connection) (indexes : List Index)

/-- The layouts of the levels around a layout in the place. -/
def wrap : Context → Layout → Layout
  | [], l => l
  | frame :: outer, l => wrap outer (frame.wrap c indexes l)

/-- **The layout of a condition that has been filled.** -/
theorem layout_fill (context : Context) (v : Value) :
    layoutOf c indexes (context.fill v) = context.wrap c indexes (layoutOf c indexes v) := by
  induction context generalizing v with
  | nil => rfl
  | cons frame outer ih => rw [fill, ih, frame.layout_fill, wrap]

end Context

end Condition

end SearchSql
