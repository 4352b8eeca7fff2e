import SearchSql.Proofs.Condition.Exchange
import SearchSql.Proofs.Connection.Statement

/-!
# Leaves that always hold

That a column is none of no values, or matches none of no patterns, always holds. Nothing is
written for it, as if it had not been given, so what it stands for depends on its place: true at
the outermost level and beside operands of AND, false beside operands of OR, and the contrary
under a denial. Written out as that, it may be exchanged without a change of the rows that are
accepted.

## Main definitions

* `Condition.Vacuous` — a leaf that always holds and is not written.
* `Grammar.accepts` — whether a condition accepts rows.
* `Condition.Equivalent` — layouts that accept the same rows.
* `Compiled.SameButCondition` — statements that differ in their conditions only.

## Main statements

* `Condition.vacuous_accepts_as_its_place` — the rows that are accepted, deleted and changed.
* `Condition.not_vacuous_accepts_as_true` — a denied leaf that does not stand for true.
-/
namespace SearchSql

/-- Whether rows are accepted of which predicates are assumed to hold. All rows are accepted
where no condition is written; a text that is no condition accepts none and denies none. -/
def Grammar.accepts (assumed : List Char → Bool) (cs : List Char) : Option Bool :=
  if cs = [] then some true else (parse cs).map (Expr.eval assumed)

namespace Condition

/-- A leaf that always holds: a column is none of no values, or matches none of no patterns. -/
structure Vacuous where
  /-- The operator. -/
  operator : Operator
  /-- It holds when nothing is listed. -/
  operator_mem : operator ∈ [Operator.notAmong, .notLike, .orNotLike]
  /-- How the operator is spelled. -/
  spelling : Spelling operator
  /-- Whether the leaf is a tuple. -/
  isTuple : Bool
  /-- The column. -/
  column : Value
  /-- There is a column. -/
  isNull_column : column.isNull = false
  /-- What is listed. -/
  nothing : Value
  /-- Nothing is listed. -/
  isEmptyList_nothing : nothing.isEmptyList = true
  /-- What is passed over. -/
  rest : List Value

namespace Vacuous

/-- The leaf as a value. -/
def value (leaf : Vacuous) : Value :=
  .form leaf.isTuple leaf.spelling.token (leaf.column :: leaf.nothing :: leaf.rest)

/-- It always holds and is not written. -/
theorem ofValue_value (leaf : Vacuous) : ofValue leaf.value = .always := by
  obtain ⟨operator, hoperator, spelling, isTuple, column, hcolumn, nothing, hnothing, rest⟩ := leaf
  rw [value, ofValue_form, ofForm, ofForm_spelling]
  simp only [List.mem_cons, List.not_mem_nil, or_false] at hoperator
  have hlisted : nothing = .list [] ∨ nothing = .tuple [] ∨ nothing = .set [] := by
    cases nothing <;> simp_all [Value.isEmptyList, Value.members?]
  have hnull : nothing.isNull = false := by rcases hlisted with rfl | rfl | rfl <;> rfl
  rcases hoperator with rfl | rfl | rfl <;> rcases hlisted with rfl | rfl | rfl <;>
    simp [ofMembership, ofMembers, ofPatterns, amongNothing, Value.isEmptyList, Value.members?,
      hnull, hcolumn]

end Vacuous

/-- A raw condition that holds or does not hold of any row. -/
def truth (b : Bool) : Value := .text (if b then "1=1" else "0=1")

open Grammar Layout

variable {assumed : List Char → Bool} {stem : String}

/-! ## Rows that are accepted -/

theorem isPredicate_truth : IsPredicate "1=1".toList :=
  ⟨[], .word ['1'], [.mark '=', .word ['1']], by decide, by simp, by decide, by decide⟩

/-- Where a leaf that always holds is left out, a raw condition is written. -/
theorem idle_truth (c : Connection) (indexes : List Index) (htrue : assumed "1=1".toList = true)
    (leaf : Vacuous) (b : Bool) :
    Idle assumed stem b (layoutOf c indexes leaf.value) (layoutOf c indexes (truth b)) := by
  have hlayout : layoutOf c indexes (truth b) = [.text (if b then "1=1" else "0=1")] := by
    cases b <;> simp [layoutOf, truth, ofValue, Condition.layout, Layout.ofText]
  rw [hlayout]
  constructor
  · rw [layoutOf, leaf.ofValue_value]
    rfl
  · intro p
    cases b with
    | true =>
      have hcondition : IsCondition assumed _ _ := isPredicate_truth.factor.term.condition
      have hholds : holds assumed (Text.trimChars Text.isBlank "1=1".toList) = true := htrue
      rw [hholds] at hcondition
      simpa [Params.written] using hcondition
    | false =>
      have hcondition : IsCondition assumed _ _ :=
        Formula.isPredicate_falsehood.factor.term.condition
      have hholds : holds assumed (Text.trimChars Text.isBlank "0=1".toList) = false := rfl
      rw [hholds] at hcondition
      simpa [Params.written] using hcondition
  · exact fun p => rfl
  · simp [Piece.isFault]

theorem accepts_of_isCondition {cs : List Char} {value : Bool} (h : IsCondition assumed cs value) :
    cs ≠ [] ∧ accepts assumed cs = some value := by
  have hne : cs ≠ [] := by
    rintro rfl
    have hparse := h.eval_parse
    simp [parse, Reader.start, Level.start, Level.factor?, Operand.expr?] at hparse
  rw [accepts, if_neg hne]
  exact ⟨hne, h.eval_parse⟩

variable (assumed stem) in
/-- Layouts that accept the same rows and bind the same parameters. Each is left out or has a
text. -/
structure Equivalent (l m : Layout) : Prop where
  accepts_eq : ∀ p, accepts assumed (l.charsAt stem p) = accepts assumed (m.charsAt stem p)
  after : ∀ p, l.paramsAfter stem p = m.paramsAfter stem p
  sound_iff : l.Sound ↔ m.Sound
  left_written : l = [] ∨ ∀ p, l.charsAt stem p ≠ []
  right_written : m = [] ∨ ∀ p, m.charsAt stem p ≠ []

theorem Idle.equivalent {l m : Layout} (h : Idle assumed stem true l m) :
    Equivalent assumed stem l m where
  accepts_eq p := by
    rw [(accepts_of_isCondition (h.reads p)).2, h.eq_nil]
    rfl
  after p := by
    rw [h.after, h.eq_nil]
    rfl
  sound_iff := by
    rw [h.eq_nil]
    exact iff_of_true sound_nil h.sound
  left_written := Or.inl h.eq_nil
  right_written := Or.inr fun p => (accepts_of_isCondition (h.reads p)).1

theorem Alike.equivalent {l m : Layout} (h : Alike assumed stem l m) :
    Equivalent assumed stem l m where
  accepts_eq p := by
    obtain ⟨value, hl, hm⟩ := h.reads p
    rw [(accepts_of_isCondition hl).2, (accepts_of_isCondition hm).2]
  after := h.after
  sound_iff := h.sound_iff
  left_written := Or.inr fun p => by
    obtain ⟨value, hl, -⟩ := h.reads p
    exact (accepts_of_isCondition hl).1
  right_written := Or.inr fun p => by
    obtain ⟨value, -, hm⟩ := h.reads p
    exact (accepts_of_isCondition hm).1

/-- Equivalent layouts are written together. -/
theorem Equivalent.rel_render {l m : Layout} (h : Equivalent assumed stem l m) (p : Params) :
    Option.Rel (fun x y => accepts assumed x.1.toList = accepts assumed y.1.toList ∧ x.2 = y.2)
      (l.render stem p).toOption (m.render stem p).toOption := by
  by_cases hl : l.Sound
  · rw [render_of_sound stem hl, render_of_sound stem (h.sound_iff.1 hl)]
    refine .some ⟨?_, h.after p⟩
    simpa using h.accepts_eq p
  · rw [toOption_render_of_not_sound stem hl,
      toOption_render_of_not_sound stem fun hm => hl (h.sound_iff.2 hm)]
    exact .none

/-- A leaf that always holds accepts the rows that what its place counts as accepts. -/
theorem equivalent_vacuous {c : Connection} {indexes : List Index} {context : Context}
    (htrue : assumed "1=1".toList = true) (hreadable : context.IsReadable assumed stem c indexes)
    (leaf : Vacuous) :
    Equivalent assumed stem (layoutOf c indexes (context.fill leaf.value))
      (layoutOf c indexes (context.fill (truth (context.countsAs c indexes)))) := by
  rw [context.layout_fill, context.layout_fill]
  rcases (idle_truth c indexes htrue leaf _).wrap hreadable with h | h
  · exact h.equivalent
  · exact h.equivalent

/-- What is read as a condition by itself may stand beside a place. -/
theorem readable_of_parse {l : Layout}
    (h : l = [] ∨ ∀ p, (parse (l.charsAt stem p)).isSome = true) : Readable assumed stem l := by
  refine h.imp_right fun hparse p => ?_
  obtain ⟨e, he⟩ := Option.isSome_iff_exists.1 (hparse p)
  exact ⟨e.eval assumed, isCondition_of_parse he⟩

end Condition

/-! ## Statements with a condition -/

namespace Layout

variable {stem : String}

/-- The clause of a condition behind something else, left out with the condition. -/
def whereClause (l : Layout) : Layout := if l.isEmpty then [] else .text " " :: .text "WHERE " :: l

theorem joinPresent_where {head : Layout} (h : head ≠ []) (l back : Layout) :
    joinPresent " " [head, after "WHERE " l, back] =
      head ++ (whereClause l ++ if back.isEmpty then [] else .text " " :: back) := by
  have hhead : head.isEmpty = false := by simpa using h
  cases l <;> cases back <;> simp [joinPresent, after, whereClause, hhead]

theorem sound_whereClause {l : Layout} : (whereClause l).Sound ↔ l.Sound := by
  cases l <;> simp [whereClause, Piece.isFault]

theorem paramsAfter_whereClause (l : Layout) (p : Params) :
    (whereClause l).paramsAfter stem p = l.paramsAfter stem p := by
  cases l <;> simp [whereClause, Params.after]

end Layout

/-- The text of a clause with a condition, left out with the condition. -/
def whereChars (cs : List Char) : List Char := if cs = [] then [] else " WHERE ".toList ++ cs

theorem Layout.charsAt_whereClause {stem : String} {l : Layout}
    (h : l = [] ∨ ∀ p, l.charsAt stem p ≠ []) (p : Params) :
    (whereClause l).charsAt stem p = whereChars (l.charsAt stem p) := by
  rcases h with rfl | h
  · rfl
  · cases l with
    | nil => exact absurd rfl (h p)
    | cons piece l =>
      rw [whereChars, if_neg (h p)]
      rfl

/-- Statements with the same parameters that are the same but for their conditions, which the
layouts are laid out for. -/
structure Compiled.SameButCondition (stem : String) (l m : Layout) (k k' : Compiled) : Prop where
  params_eq : k.params = k'.params
  dialect_eq : k.dialect = k'.dialect
  sql_eq : ∃ front p back, k.sql.toList = front ++ (whereChars (l.charsAt stem p) ++ back) ∧
    k'.sql.toList = front ++ (whereChars (m.charsAt stem p) ++ back)

namespace Connection

open Condition Layout

variable {c : Connection} {assumed : List Char → Bool}

/-- Statements with equivalent conditions succeed together. -/
theorem rel_compile {l m : Layout} (h : Equivalent assumed c.settings.paramStem l m)
    (params : Value) (front back : Layout) :
    Option.Rel (Compiled.SameButCondition c.settings.paramStem l m)
      (c.compile params (front ++ (whereClause l ++ back))).toOption
      (c.compile params (front ++ (whereClause m ++ back))).toOption := by
  have hsound : (Layout.ofCaller params ++ (front ++ (whereClause l ++ back))).Sound ↔
      (Layout.ofCaller params ++ (front ++ (whereClause m ++ back))).Sound := by
    simp only [sound_append, sound_whereClause, h.sound_iff]
  by_cases hl : (Layout.ofCaller params ++ (front ++ (whereClause l ++ back))).Sound
  · obtain ⟨k, hk⟩ := c.exists_compile_of_sound hl
    obtain ⟨k', hk'⟩ := c.exists_compile_of_sound (hsound.1 hl)
    obtain ⟨-, hsql, hparams, hdialect⟩ := c.compile_eq_ok_iff.1 hk
    obtain ⟨-, hsql', hparams', hdialect'⟩ := c.compile_eq_ok_iff.1 hk'
    simp only [charsAt_append, paramsAfter_append, paramsAfter_whereClause,
      charsAt_whereClause h.left_written, charsAt_whereClause h.right_written, ← h.after]
      at hsql hparams hsql' hparams'
    rw [hk, hk']
    refine .some ⟨hparams.trans hparams'.symm, hdialect.trans hdialect'.symm, ?_⟩
    exact ⟨_, _, _, by rw [hsql, ← List.append_assoc], by rw [hsql', ← List.append_assoc]⟩
  · rw [c.toOption_compile_of_not_sound hl,
      c.toOption_compile_of_not_sound fun hm => hl (hsound.2 hm)]
    exact .none

/-- The statement that deletes rows, around the layout of its condition. -/
theorem ofDelete_eq (target tree : Value) :
    ofDelete c target tree =
      (naming [target] ++ [.text ("DELETE FROM " ++ c.quoteValue target)]) ++
        (whereClause (layoutOf c (c.knownIndex target) tree) ++ []) := by
  have hhead : naming [target] ++ [.text ("DELETE FROM " ++ c.quoteValue target)] ≠ [] := by simp
  have hjoin := joinPresent_where hhead (layoutOf c (c.knownIndex target) tree) []
  rw [List.isEmpty_nil, if_pos rfl] at hjoin
  rw [← hjoin, ofDelete]
  simp only [joinPresent, List.filter_cons, List.filter_nil, List.isEmpty_nil]
  rfl

/-- The statement that changes rows, around the layout of its condition. -/
theorem exists_ofUpdate_eq (target options : Value) (cells : Mapping) :
    ∃ front back, ∀ tree, ofUpdate c target (.map cells) tree options =
      front ++ (whereClause (layoutOf c (c.knownIndex target) tree) ++ back) :=
  ⟨_, _, fun tree => joinPresent_where (List.cons_ne_nil _ _)
    (layoutOf c (c.knownIndex target) tree) (ofOptionMapping options)⟩

/-- Rows are deleted and changed by equivalent conditions alike. -/
theorem rel_delete_update {tree other target : Value}
    (h : Equivalent assumed c.settings.paramStem (layoutOf c (c.knownIndex target) tree)
      (layoutOf c (c.knownIndex target) other)) (params : Value) :
    Option.Rel (Compiled.SameButCondition c.settings.paramStem
        (layoutOf c (c.knownIndex target) tree) (layoutOf c (c.knownIndex target) other))
      (c.compiled? (.delete target tree params)) (c.compiled? (.delete target other params)) ∧
    ∀ cells options, Option.Rel (Compiled.SameButCondition c.settings.paramStem
        (layoutOf c (c.knownIndex target) tree) (layoutOf c (c.knownIndex target) other))
      (c.compiled? (.update target cells tree params options))
      (c.compiled? (.update target cells other params options)) := by
  constructor
  · rw [c.compiled?_eq_compile (r := .delete target tree params) rfl,
      c.compiled?_eq_compile (r := .delete target other params) rfl, ofDelete_eq, ofDelete_eq]
    exact rel_compile h params _ _
  · intro cells options
    rw [c.compiled?_eq_compile (r := .update target cells tree params options) rfl,
      c.compiled?_eq_compile (r := .update target cells other params options) rfl]
    cases cells with
    | map pairs =>
      obtain ⟨front, back, hlayout⟩ := exists_ofUpdate_eq (c := c) target options pairs
      rw [hlayout, hlayout]
      exact rel_compile h params front back
    | _ =>
      rw [toOption_compile_of_not_sound, toOption_compile_of_not_sound]
      · exact .none
      all_goals
        rw [sound_append]
        rintro ⟨-, hfault⟩
        simp [ofUpdate, Piece.isFault] at hfault

end Connection

namespace Condition

open Grammar Layout

/-- **A leaf that always holds accepts the rows that what its place counts as accepts.** In any
place under AND, OR and NOT, beside operands that are conditions by themselves, the leaf may be
exchanged for a raw condition that holds where the place counts as true, and does not hold
where it counts as false: the condition is written with the same parameters and accepts the
same rows, and so do the statements that delete and change rows by it. -/
theorem vacuous_accepts_as_its_place (c : Connection) {assumed : List Char → Bool}
    (htrue : assumed "1=1".toList = true) {indexes : List Index} {context : Context}
    (hreadable : ∀ frame ∈ context, ∀ v ∈ frame.siblings, layoutOf c indexes v = [] ∨
      ∀ p, (parse ((layoutOf c indexes v).charsAt c.settings.paramStem p)).isSome = true)
    (leaf : Vacuous) :
    let tree := context.fill leaf.value
    let other := context.fill (truth (context.countsAs c indexes))
    (∀ p, Option.Rel
        (fun x y => accepts assumed x.1.toList = accepts assumed y.1.toList ∧ x.2 = y.2)
        ((layoutOf c indexes tree).render c.settings.paramStem p).toOption
        ((layoutOf c indexes other).render c.settings.paramStem p).toOption) ∧
      ∀ target params, c.knownIndex target = indexes →
        Option.Rel (Compiled.SameButCondition c.settings.paramStem
            (layoutOf c indexes tree) (layoutOf c indexes other))
          (c.compiled? (.delete target tree params)) (c.compiled? (.delete target other params)) ∧
        ∀ cells options, Option.Rel (Compiled.SameButCondition c.settings.paramStem
            (layoutOf c indexes tree) (layoutOf c indexes other))
          (c.compiled? (.update target cells tree params options))
          (c.compiled? (.update target cells other params options)) := by
  intro tree other
  have hequivalent : Equivalent assumed c.settings.paramStem (layoutOf c indexes tree)
      (layoutOf c indexes other) :=
    equivalent_vacuous htrue
      (fun frame hframe v hv => readable_of_parse (hreadable frame hframe v hv)) leaf
  refine ⟨hequivalent.rel_render, ?_⟩
  rintro target params rfl
  exact Connection.rel_delete_update hequivalent params

/-- No identifier is listed that a row must not have. -/
def unlisted : Vacuous :=
  ⟨.notAmong, by decide, ⟨"not in", by decide⟩, false, .text "id", rfl, .list [], rfl, []⟩

/-- The place beside a raw condition under OR. -/
def besideStock : Context := [.connected .or ⟨"Or", by decide⟩ false [.text "stock=0"] []]

/-- Beside an operand of OR the leaf counts as false, and rows with stock are kept. -/
theorem vacuous_accepts_as_its_place_besideStock :
    besideStock.countsAs Connection.standard [] = false ∧
      (Connection.standard.compiled? (.delete (.text "rt") (besideStock.fill unlisted.value)
        .null)).map (·.sql) = some "DELETE FROM rt WHERE (stock=0)" ∧
      ∀ assumed, assumed "1=1".toList = true →
        ∀ p, Option.Rel
          (fun x y => accepts assumed x.1.toList = accepts assumed y.1.toList ∧ x.2 = y.2)
          ((layoutOf Connection.standard [] (besideStock.fill unlisted.value)).render ":qp"
            p).toOption
          ((layoutOf Connection.standard [] (besideStock.fill (truth false))).render ":qp"
            p).toOption := by
  have hreadable : ∀ frame ∈ besideStock, ∀ v ∈ frame.siblings,
      layoutOf Connection.standard [] v = [] ∨
        ∀ p, (parse ((layoutOf Connection.standard [] v).charsAt ":qp" p)).isSome = true := by
    intro frame hframe v hv
    obtain rfl := List.mem_singleton.1 hframe
    obtain rfl := List.mem_singleton.1 hv
    refine Or.inr fun p => ?_
    have htext : (layoutOf Connection.standard [] (.text "stock=0")).charsAt ":qp" p =
        "stock=0".toList := rfl
    rw [htext]
    decide +kernel
  refine ⟨by decide +kernel, by decide +kernel, fun assumed htrue => ?_⟩
  exact (vacuous_accepts_as_its_place Connection.standard htrue hreadable unlisted).1

/-- The place under a denial. -/
def underNot : Context := [.denied ⟨"NOT", by decide⟩ false]

/-- A leaf that always holds does not stand for true under a denial: all rows are deleted, where a
raw condition that always holds would keep them all. -/
theorem not_vacuous_accepts_as_true :
    (Connection.standard.compiled? (.delete (.text "rt") (underNot.fill unlisted.value)
        .null)).map (·.sql) = some "DELETE FROM rt" ∧
      (Connection.standard.compiled? (.delete (.text "rt") (underNot.fill (truth true))
        .null)).map (·.sql) = some "DELETE FROM rt WHERE NOT (1=1)" ∧
      accepts (fun _ => true) [] = some true ∧
      accepts (fun _ => true) "NOT (1=1)".toList = some false := by
  decide +kernel

end Condition

end SearchSql
