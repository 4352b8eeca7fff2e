import SearchSql.Proofs.Condition.Context
import SearchSql.Proofs.Formula.Composition
import SearchSql.Proofs.Grammar.Seating

/-!
# Exchanging operands

Two operands that are read as conditions of one value may be exchanged in any place. An operand
that is left out may be exchanged for one that is written if the value of that one is the one
that the place counts as: at the outermost level the place counts as true, a denial turns it
around, and beside other operands it counts as what the connective combines nothing to.

## Main definitions

* `Condition.Alike`, `Condition.Idle` — exchanged layouts that are both written, and of which one
  is left out.
* `Condition.Readable` — a layout that is left out or read as a condition.
* `Condition.Context.countsAs` — what a place counts as when nothing is written in it.

## Main statements

* `Condition.Alike.wrap` — an exchange of written operands.
* `Condition.Idle.wrap` — an exchange of an operand that is left out.
-/
namespace SearchSql

namespace Layout

variable {stem : String}

theorem textsAt_append (ls rs : List Layout) (p : Params) :
    textsAt stem (ls ++ rs) p =
      textsAt stem ls p ++ textsAt stem rs (paramsAfter stem ls.flatten p) := by
  induction ls generalizing p with
  | nil => rfl
  | cons l rest ih => simp [textsAt, ih]

/-- The texts of the layouts that are not left out. -/
theorem textsAt_filter_append (ls rs : List Layout) (p : Params) :
    textsAt stem ((ls ++ rs).filter (!·.isEmpty)) p =
      textsAt stem (ls.filter (!·.isEmpty)) p ++
        textsAt stem (rs.filter (!·.isEmpty)) (paramsAfter stem ls.flatten p) := by
  have hflatten : (ls.filter (!·.isEmpty)).flatten = ls.flatten := List.flatten_filter_not_isEmpty
  rw [List.filter_append, textsAt_append, hflatten]

theorem connect_of_ne_nil (word : String) {ls : List Layout}
    (h : ls.filter (!·.isEmpty) ≠ []) :
    connect word ls =
      enclose "(" (join (") " ++ word ++ " (") (ls.filter (!·.isEmpty))) ")" := by
  rw [connect]
  split
  · rename_i hnil
    exact absurd hnil h
  · rfl

theorem connect_of_eq_nil (word : String) {ls : List Layout}
    (h : ls.filter (!·.isEmpty) = []) : connect word ls = [] := by
  rw [connect, h]

/-- The parameters after layouts that are connected. -/
theorem paramsAfter_connect (word : String) (ls : List Layout) (p : Params) :
    (connect word ls).paramsAfter stem p = paramsAfter stem ls.flatten p := by
  have hflatten : (ls.filter (!·.isEmpty)).flatten = ls.flatten := List.flatten_filter_not_isEmpty
  by_cases h : ls.filter (!·.isEmpty) = []
  · rw [connect_of_eq_nil word h, ← hflatten, h]
    rfl
  · rw [connect_of_ne_nil word h, paramsAfter_enclose, paramsAfter_join, hflatten]

theorem sound_join_iff {separator : String} {ls : List Layout} :
    (join separator ls).Sound ↔ ∀ l ∈ ls, l.Sound := by
  refine ⟨sound_join, fun h => ?_⟩
  induction ls with
  | nil => exact sound_nil
  | cons l rest ih =>
    obtain ⟨hl, hrest⟩ := List.forall_mem_cons.1 h
    cases rest with
    | nil => exact hl
    | cons r others =>
      rw [join_cons_cons, sound_append, sound_cons]
      exact ⟨hl, rfl, ih hrest⟩

theorem sound_connect_iff {word : String} {ls : List Layout} :
    (connect word ls).Sound ↔ ∀ l ∈ ls, l.Sound := by
  refine ⟨sound_connect, fun h => ?_⟩
  by_cases hnil : ls.filter (!·.isEmpty) = []
  · rw [connect_of_eq_nil word hnil]
    exact sound_nil
  · rw [connect_of_ne_nil word hnil, sound_enclose, sound_join_iff]
    exact fun l hl => h l (List.mem_of_mem_filter hl)

theorem negate_of_ne_nil {l : Layout} (h : l ≠ []) : l.negate = enclose "NOT (" l ")" := by
  rw [negate, if_neg (by simpa using h)]

theorem paramsAfter_negate (l : Layout) (p : Params) :
    l.negate.paramsAfter stem p = l.paramsAfter stem p := by
  rw [negate]
  split
  · rename_i h
    rw [List.isEmpty_iff.1 h]
  · rw [paramsAfter_enclose]

theorem sound_negate_iff {l : Layout} : l.negate.Sound ↔ l.Sound := by
  rw [negate]
  split
  · rename_i h
    rw [List.isEmpty_iff.1 h]
  · exact sound_enclose

end Layout

namespace Condition

open Grammar Layout

variable (assumed : List Char → Bool) (stem : String)

/-- A layout that is left out, or read as a condition whatever the parameters before it are. -/
def Readable (l : Layout) : Prop :=
  l = [] ∨ ∀ p, ∃ value, IsCondition assumed (l.charsAt stem p) value

/-- Layouts that are read as conditions of one value and bind the same parameters. -/
structure Alike (l m : Layout) : Prop where
  reads : ∀ p, ∃ value, IsCondition assumed (l.charsAt stem p) value ∧
    IsCondition assumed (m.charsAt stem p) value
  after : ∀ p, l.paramsAfter stem p = m.paramsAfter stem p
  sound_iff : l.Sound ↔ m.Sound

/-- A layout that is left out, and one that is read as a condition of a value. Neither binds
anything. -/
structure Idle (value : Bool) (l m : Layout) : Prop where
  eq_nil : l = []
  reads : ∀ p, IsCondition assumed (m.charsAt stem p) value
  after : ∀ p, m.paramsAfter stem p = p
  sound : m.Sound

variable {assumed stem}

/-- What is read as a condition is written. -/
theorem ne_nil_of_isCondition {l : Layout} {p : Params} {value : Bool}
    (h : IsCondition assumed (l.charsAt stem p) value) : l ≠ [] := by
  rintro rfl
  obtain ⟨l, e, hrun, hfactor, -⟩ := h none []
  obtain rfl : _ = l := by simpa using hrun
  simp [Level.factor?, Operand.expr?] at hfactor

/-- The texts of layouts that are not left out are read as conditions. -/
theorem exists_values {ls : List Layout} (h : ∀ l ∈ ls, Readable assumed stem l) (p : Params) :
    ∃ values, List.Forall₂ (IsCondition assumed)
      (textsAt stem (ls.filter (!·.isEmpty)) p) values := by
  induction ls generalizing p with
  | nil => exact ⟨[], .nil⟩
  | cons l rest ih =>
    obtain ⟨hl, hrest⟩ := List.forall_mem_cons.1 h
    rcases hl with rfl | hl
    · exact ih hrest p
    · obtain ⟨value, hvalue⟩ := hl p
      obtain ⟨values, hvalues⟩ := ih hrest (l.paramsAfter stem p)
      have hfilter : (l :: rest).filter (!·.isEmpty) = l :: rest.filter (!·.isEmpty) := by
        simp [ne_nil_of_isCondition hvalue]
      rw [hfilter]
      exact ⟨value :: values, .cons hvalue hvalues⟩

/-- What a connective combines nothing to takes no part. -/
theorem value_insert_unit (connective : Connective) (before behind : List Bool) :
    connective.value (before ++ connective.value [] :: behind) =
      connective.value (before ++ behind) := by
  cases connective <;> simp [Connective.value]

section

variable (connective : Connective) {before behind : List Layout}

/-- Operands that are read as conditions are connected to a condition. -/
theorem isCondition_connect {ls : List Layout} (hne : ls.filter (!·.isEmpty) ≠ []) {p : Params}
    {values : List Bool} (h : List.Forall₂ (IsCondition assumed)
      (textsAt stem (ls.filter (!·.isEmpty)) p) values) :
    IsCondition assumed ((connect connective.word ls).charsAt stem p)
      (connective.value values) := by
  rw [connect_of_ne_nil _ hne, charsAt_enclose, charsAt_join]
  exact isCondition_connected connective h (textsAt_ne_nil hne p)

/-- An operand in its place among others. -/
theorem isCondition_connect_insert {m : Layout} {p : Params} {value : Bool} {front back : List Bool}
    (hfront : List.Forall₂ (IsCondition assumed)
      (textsAt stem (before.filter (!·.isEmpty)) p) front)
    (hm : IsCondition assumed (m.charsAt stem (paramsAfter stem before.flatten p)) value)
    (hback : List.Forall₂ (IsCondition assumed) (textsAt stem (behind.filter (!·.isEmpty))
      (m.paramsAfter stem (paramsAfter stem before.flatten p))) back) :
    IsCondition assumed ((connect connective.word (before ++ m :: behind)).charsAt stem p)
      (connective.value (front ++ value :: back)) := by
  have hfilter : (m :: behind).filter (!·.isEmpty) = m :: behind.filter (!·.isEmpty) := by
    simp [ne_nil_of_isCondition hm]
  refine isCondition_connect connective ?_ ?_
  · rw [List.filter_append, hfilter]
    simp
  · rw [textsAt_filter_append, hfilter]
    exact List.rel_append hfront (.cons hm hback)

variable (hbefore : ∀ l ∈ before, Readable assumed stem l)
  (hbehind : ∀ l ∈ behind, Readable assumed stem l)
include hbefore hbehind

theorem Alike.connected {l m : Layout} (h : Alike assumed stem l m) :
    Alike assumed stem (connect connective.word (before ++ l :: behind))
      (connect connective.word (before ++ m :: behind)) where
  reads p := by
    obtain ⟨value, hl, hm⟩ := h.reads (paramsAfter stem before.flatten p)
    obtain ⟨front, hfront⟩ := exists_values hbefore p
    obtain ⟨back, hback⟩ := exists_values hbehind
      (l.paramsAfter stem (paramsAfter stem before.flatten p))
    refine ⟨_, isCondition_connect_insert connective hfront hl hback, ?_⟩
    rw [h.after] at hback
    exact isCondition_connect_insert connective hfront hm hback
  after p := by
    simp only [paramsAfter_connect, List.flatten_append, List.flatten_cons, paramsAfter_append,
      h.after]
  sound_iff := by
    simp only [sound_connect_iff, List.forall_mem_append, List.forall_mem_cons, h.sound_iff]

/-- Beside other operands nothing counts as what the connective combines nothing to. -/
theorem Idle.connected {l m : Layout} (h : Idle assumed stem (connective.value []) l m)
    (hne : (before ++ behind).filter (!·.isEmpty) ≠ []) :
    Alike assumed stem (connect connective.word (before ++ l :: behind))
      (connect connective.word (before ++ m :: behind)) where
  reads p := by
    obtain rfl := h.eq_nil
    obtain ⟨front, hfront⟩ := exists_values hbefore p
    obtain ⟨back, hback⟩ := exists_values hbehind (paramsAfter stem before.flatten p)
    refine ⟨connective.value (front ++ back), isCondition_connect connective ?_ ?_, ?_⟩
    · simpa using hne
    · rw [textsAt_filter_append]
      exact List.rel_append hfront hback
    · rw [← value_insert_unit]
      exact isCondition_connect_insert connective hfront (h.reads _) (by rwa [h.after])
  after p := by
    obtain rfl := h.eq_nil
    simp only [paramsAfter_connect, List.flatten_append, List.flatten_cons, paramsAfter_append,
      h.after, paramsAfter_nil]
  sound_iff := by
    obtain rfl := h.eq_nil
    simp only [sound_connect_iff, List.forall_mem_append, List.forall_mem_cons, h.sound, sound_nil]

end

/-- An operand that stands alone under a connective. -/
theorem Idle.connected_alone {value : Bool} {l m : Layout} (h : Idle assumed stem value l m)
    (connective : Connective) {before behind : List Layout}
    (halone : (before ++ behind).filter (!·.isEmpty) = []) :
    Idle assumed stem value (connect connective.word (before ++ l :: behind))
      (connect connective.word (before ++ m :: behind)) := by
  rw [List.filter_append, List.append_eq_nil_iff] at halone
  have hafter (ls : List Layout) (hls : ls.filter (!·.isEmpty) = []) (p : Params) :
      paramsAfter stem ls.flatten p = p := by
    have hflatten : (ls.filter (!·.isEmpty)).flatten = ls.flatten :=
      List.flatten_filter_not_isEmpty
    rw [← hflatten, hls]
    rfl
  have hsound (ls : List Layout) (hls : ls.filter (!·.isEmpty) = []) : ∀ l ∈ ls, l.Sound := by
    intro l hl
    obtain rfl : l = [] := by simpa using List.filter_eq_nil_iff.1 hls l hl
    exact sound_nil
  constructor
  · refine connect_of_eq_nil _ ?_
    rw [h.eq_nil, List.filter_append, halone.1]
    simpa using halone.2
  · intro p
    have hfront : List.Forall₂ (IsCondition assumed)
        (textsAt stem (before.filter (!·.isEmpty)) p) [] := by
      rw [halone.1]
      exact .nil
    have hback : List.Forall₂ (IsCondition assumed) (textsAt stem (behind.filter (!·.isEmpty))
        (m.paramsAfter stem (paramsAfter stem before.flatten p))) [] := by
      rw [halone.2]
      exact .nil
    have hcondition := isCondition_connect_insert connective hfront (h.reads _) hback
    cases connective <;> simpa [Connective.value] using hcondition
  · intro p
    rw [paramsAfter_connect, List.flatten_append, List.flatten_cons, paramsAfter_append,
      paramsAfter_append, hafter before halone.1, h.after, hafter behind halone.2]
  · rw [sound_connect_iff, List.forall_mem_append, List.forall_mem_cons]
    exact ⟨hsound before halone.1, h.sound, hsound behind halone.2⟩

/-! ## Denials -/

theorem Alike.denied {l m : Layout} (h : Alike assumed stem l m) :
    Alike assumed stem l.negate m.negate where
  reads p := by
    obtain ⟨value, hl, hm⟩ := h.reads p
    rw [negate_of_ne_nil (ne_nil_of_isCondition hl), negate_of_ne_nil (ne_nil_of_isCondition hm),
      charsAt_enclose, charsAt_enclose]
    exact ⟨!value, hl.denied.term.condition, hm.denied.term.condition⟩
  after p := by rw [paramsAfter_negate, paramsAfter_negate, h.after]
  sound_iff := by rw [sound_negate_iff, sound_negate_iff, h.sound_iff]

theorem Idle.denied {value : Bool} {l m : Layout} (h : Idle assumed stem value l m) :
    Idle assumed stem (!value) l.negate m.negate where
  eq_nil := by
    rw [h.eq_nil]
    rfl
  reads p := by
    rw [negate_of_ne_nil (ne_nil_of_isCondition (h.reads p)), charsAt_enclose]
    exact (h.reads p).denied.term.condition
  after p := by rw [paramsAfter_negate, h.after]
  sound := sound_negate_iff.2 h.sound

/-! ## Places -/

section

variable (c : Connection) (indexes : List Index)

/-- Whether nothing is written beside the place. -/
def Frame.isAlone (frame : Frame) : Bool :=
  frame.siblings.all fun v => (layoutOf c indexes v).isEmpty

/-- Whether a place counts as true when nothing is written in it. -/
def Context.countsAs : Context → Bool
  | [] => true
  | .denied _ _ :: outer => !countsAs outer
  | frame@(.connected connective _ _ _ _) :: outer =>
    if frame.isAlone c indexes then countsAs outer else connective.value []

variable (assumed stem) in
/-- What stands beside the place is read as conditions, or left out. -/
def Context.IsReadable (context : Context) : Prop :=
  ∀ frame ∈ context, ∀ v ∈ frame.siblings, Readable assumed stem (layoutOf c indexes v)

variable {c indexes}

/-- **Operands that are read alike may be exchanged in any place.** -/
theorem Alike.wrap {context : Context} (hreadable : context.IsReadable assumed stem c indexes)
    {l m : Layout} (h : Alike assumed stem l m) :
    Alike assumed stem (context.wrap c indexes l) (context.wrap c indexes m) := by
  induction context generalizing l m with
  | nil => exact h
  | cons frame outer ih =>
    obtain ⟨hframe, houter⟩ := List.forall_mem_cons.1 hreadable
    refine ih houter ?_
    cases frame with
    | denied spelling isTuple => exact h.denied
    | connected connective spelling isTuple before behind =>
      obtain ⟨hbefore, hbehind⟩ := List.forall_mem_append.1 hframe
      exact h.connected connective (by simpa using hbefore) (by simpa using hbehind)

/-- **An operand that is left out may be exchanged for one that is written**, if that has the
value that the place counts as. -/
theorem Idle.wrap {context : Context} (hreadable : context.IsReadable assumed stem c indexes)
    {l m : Layout} (h : Idle assumed stem (context.countsAs c indexes) l m) :
    Idle assumed stem true (context.wrap c indexes l) (context.wrap c indexes m) ∨
      Alike assumed stem (context.wrap c indexes l) (context.wrap c indexes m) := by
  induction context generalizing l m with
  | nil => exact Or.inl h
  | cons frame outer ih =>
    obtain ⟨hframe, houter⟩ := List.forall_mem_cons.1 hreadable
    cases frame with
    | denied spelling isTuple =>
      refine ih houter ?_
      have hdenied := h.denied
      rwa [Context.countsAs, Bool.not_not] at hdenied
    | connected connective spelling isTuple before behind =>
      obtain ⟨hbefore, hbehind⟩ := List.forall_mem_append.1 hframe
      have hfilter : (before.map (layoutOf c indexes) ++ behind.map (layoutOf c indexes)).filter
          (!·.isEmpty) = [] ↔
            (Frame.connected connective spelling isTuple before behind).isAlone c indexes := by
        simp [List.filter_eq_nil_iff, Frame.isAlone, Frame.siblings]
      rw [Context.countsAs] at h
      split at h
      · rename_i halone
        exact ih houter (h.connected_alone connective (hfilter.2 halone))
      · rename_i hbeside
        refine Or.inr (Alike.wrap houter ?_)
        exact h.connected connective (by simpa using hbefore) (by simpa using hbehind)
          (fun hnil => hbeside (hfilter.1 hnil))

end

end Condition

end SearchSql
