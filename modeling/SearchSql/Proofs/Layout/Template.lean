import SearchSql.Proofs.Layout.Infix

/-!
# Layouts with places for a value

A template is a layout in which some places wait for a value. Once the places are filled, it is a
layout that binds the value there and is otherwise the same for all values. What surrounds a
layout that is written is the same for all of them, so a template stays one under the levels of a
condition.

## Main definitions

* `Layout.Template`, `Layout.Template.fill` — layouts with places for a value.
* `Layout.Surrounds` — what is put around a layout does not depend on the layout.
* `Layout.Binds` — a layout depends on a value only in what is bound for it.

## Main statements

* `Layout.exists_fill_join` — several templates next to each other.
* `Condition.Context.surrounds_wrap` — the levels around a place of a condition.
-/
namespace SearchSql

namespace Layout

/-- A layout with places for a value. -/
abbrev Template := List (Option Piece)

namespace Template

/-- The layout in which a value is bound at the places. -/
def fill (t : Template) (w : Value) : Layout := t.map (·.getD (.bind w))

@[simp] theorem fill_append (t u : Template) (w : Value) :
    (t ++ u).fill w = t.fill w ++ u.fill w :=
  List.map_append

@[simp] theorem fill_cons (piece : Option Piece) (t : Template) (w : Value) :
    fill (piece :: t) w = piece.getD (.bind w) :: t.fill w := rfl

/-- A layout without places is the same for all values. -/
@[simp] theorem fill_map_some (l : Layout) (w : Value) : fill (l.map some) w = l := by
  simp [fill, Function.comp_def]

theorem fill_ne_nil {t : Template} (h : none ∈ t) (w : Value) : t.fill w ≠ [] :=
  mt List.map_eq_nil_iff.1 (List.ne_nil_of_mem h)

end Template

/-- Templates with a text between them are a template with their places. -/
theorem exists_fill_join (separator : String) (ts : List Template) :
    ∃ t : Template, (∀ u ∈ ts, u ⊆ t) ∧ ∀ w, t.fill w = join separator (ts.map (·.fill w)) := by
  induction ts with
  | nil => exact ⟨[], nofun, fun _ => rfl⟩
  | cons first rest ih =>
    cases rest with
    | nil => exact ⟨first, by simp, fun _ => rfl⟩
    | cons second others =>
      obtain ⟨t, hsubset, hfill⟩ := ih
      refine ⟨first ++ some (.text separator) :: t, fun u hu => ?_, fun w => ?_⟩
      · rcases List.mem_cons.1 hu with rfl | hu
        · exact List.subset_append_left _ _
        · exact List.subset_append_of_subset_right _
            (List.subset_cons_of_subset _ (hsubset u hu))
      · rw [Template.fill_append, Template.fill_cons, hfill]
        rfl

/-! ## What surrounds a layout -/

/-- What is put around a layout that is written is the same for all of them. -/
def Surrounds (wrap : Layout → Layout) : Prop :=
  ∃ before behind : Layout, ∀ l : Layout, l ≠ [] → wrap l = before ++ l ++ behind

namespace Surrounds

theorem id : Surrounds fun l => l := ⟨[], [], fun l _ => by simp⟩

theorem comp {outer inner : Layout → Layout} (h : Surrounds outer) (hinner : Surrounds inner) :
    Surrounds fun l => outer (inner l) := by
  obtain ⟨before, behind, heq⟩ := h
  obtain ⟨first, last, hfill⟩ := hinner
  refine ⟨before ++ first, last ++ behind, fun l hl => ?_⟩
  calc outer (inner l) = outer (first ++ l ++ last) := by rw [hfill l hl]
    _ = before ++ (first ++ l ++ last) ++ behind := heq _ (by simp [hl])
    _ = before ++ first ++ l ++ (last ++ behind) := by simp only [List.append_assoc]

theorem between (before behind : Layout) : Surrounds fun l => before ++ l ++ behind :=
  ⟨before, behind, fun _ _ => rfl⟩

theorem cons (piece : Piece) : Surrounds fun l => piece :: l := ⟨[piece], [], fun l _ => by simp⟩

theorem append (behind : Layout) : Surrounds fun l => l ++ behind :=
  ⟨[], behind, fun _ _ => rfl⟩

theorem enclose (opening closing : String) : Surrounds fun l => Layout.enclose opening l closing :=
  ⟨[.text opening], [.text closing], fun _ _ => rfl⟩

theorem negate : Surrounds Layout.negate := by
  refine ⟨[.text "NOT ("], [.text ")"], fun l hl => ?_⟩
  rw [Layout.negate, if_neg (by simpa using hl)]
  rfl

theorem join (separator : String) (ls rs : List Layout) :
    Surrounds fun l => Layout.join separator (ls ++ l :: rs) := by
  induction ls with
  | nil =>
    cases rs with
    | nil => exact id
    | cons r rest =>
      exact ⟨[], .text separator :: Layout.join separator (r :: rest), fun _ _ => rfl⟩
  | cons first ls ih =>
    obtain ⟨before, behind, heq⟩ := ih
    refine ⟨first ++ .text separator :: before, behind, fun l hl => ?_⟩
    have hrest := heq l hl
    cases ls with
    | nil => simpa using hrest
    | cons second others => simpa using hrest

/-- The layouts beside it that are left out do not count. -/
theorem connect (word : String) (ls rs : List Layout) :
    Surrounds fun l => Layout.connect word (ls ++ l :: rs) := by
  have hjoin := (enclose "(" ")").comp
    (join (") " ++ word ++ " (") (ls.filter (!·.isEmpty)) (rs.filter (!·.isEmpty)))
  obtain ⟨before, behind, heq⟩ := hjoin
  refine ⟨before, behind, fun l hl => ?_⟩
  have hpresent : (ls ++ l :: rs).filter (!·.isEmpty) =
      ls.filter (!·.isEmpty) ++ l :: rs.filter (!·.isEmpty) := by
    rw [List.filter_append, List.filter_cons_of_pos (by simpa using hl)]
  simp only [← heq l hl, Layout.connect, hpresent]
  split
  · rename_i hnil
    simp at hnil
  · rfl

theorem ofRecord (ls rs : List Layout) : Surrounds fun l => Layout.ofRecord (ls ++ l :: rs) := by
  match ls, rs with
  | [], [] => exact id
  | [], r :: rest => exact connect "AND" [] (r :: rest)
  | [first], rs => exact connect "AND" [first] rs
  | first :: second :: others, rs => exact connect "AND" (first :: second :: others) rs

theorem ofMembership (c : Connection) (negated : Bool) (column : Value) (ls rs : List Layout) :
    Surrounds fun l => Layout.ofMembership c negated column (ls ++ l :: rs) := by
  match ls, rs with
  | [], [] => exact cons _
  | [], r :: rest => exact (enclose _ _).comp (join ", " [] (r :: rest))
  | [first], rs => exact (enclose _ _).comp (join ", " [first] rs)
  | first :: second :: others, rs =>
    exact (enclose _ _).comp (join ", " (first :: second :: others) rs)

theorem ofRows (c : Connection) (negated : Bool) (columns : List Value) (ls rs : List Layout) :
    Surrounds fun l => Layout.ofRows c negated columns (ls ++ l :: rs) :=
  (enclose _ _).comp (join ", " ls rs)

end Surrounds

/-! ## Layouts that bind a value -/

/-- A layout depends on a value only in what is bound for it. -/
def Binds (bound : Value → Value → Prop) (layout : Value → Layout) : Prop :=
  ∃ t : Template, none ∈ t ∧ ∀ v w, bound v w → layout v = t.fill w

namespace Binds

variable {bound : Value → Value → Prop} {layout : Value → Layout} {wrap : Layout → Layout}

theorem mono {bound' : Value → Value → Prop} (h : Binds bound layout)
    (hbound : ∀ v w, bound' v w → bound v w) : Binds bound' layout := by
  obtain ⟨t, ht, hfill⟩ := h
  exact ⟨t, ht, fun v w hw => hfill v w (hbound v w hw)⟩

/-- Layouts that are the same for the values in question. -/
theorem congr {layout' : Value → Layout} (h : Binds bound layout)
    (heq : ∀ v w, bound v w → layout' v = layout v) : Binds bound layout' := by
  obtain ⟨t, ht, hfill⟩ := h
  exact ⟨t, ht, fun v w hw => (heq v w hw).trans (hfill v w hw)⟩

theorem surround (h : Binds bound layout) (hwrap : Surrounds wrap) :
    Binds bound fun v => wrap (layout v) := by
  obtain ⟨t, ht, hfill⟩ := h
  obtain ⟨before, behind, heq⟩ := hwrap
  refine ⟨before.map some ++ t ++ behind.map some, by simp [ht], fun v w hw => ?_⟩
  change wrap (layout v) = _
  rw [hfill v w hw, heq _ (Template.fill_ne_nil ht w)]
  simp

/-- What is bound is surrounded by what does not depend on it. -/
theorem of_surrounds (hwrap : Surrounds wrap)
    (h : ∀ v w, bound v w → layout v = wrap [.bind w]) : Binds bound layout := by
  obtain ⟨before, behind, heq⟩ := hwrap
  refine ⟨before.map some ++ none :: behind.map some, by simp, fun v w hw => ?_⟩
  rw [h v w hw, heq _ (List.cons_ne_nil _ _)]
  simp

end Binds

end Layout

namespace Condition

variable (c : Connection) (indexes : List Index)

theorem Frame.surrounds_wrap (frame : Frame) : Layout.Surrounds (frame.wrap c indexes) := by
  cases frame with
  | connected => exact .connect _ _ _
  | denied => exact .negate

/-- **What surrounds a place of a condition is the same for all that is written in it.** -/
theorem Context.surrounds_wrap (context : Context) :
    Layout.Surrounds (context.wrap c indexes) := by
  induction context with
  | nil => exact .id
  | cons frame outer ih => exact ih.comp (frame.surrounds_wrap c indexes)

/-- What surrounds a condition for which a value is written out. -/
theorem surrounds_showing (v : Value) :
    ∃ wrap, Layout.Surrounds wrap ∧ ∀ condition : Condition,
      (showing v condition).layout c indexes = wrap (condition.layout c indexes) := by
  by_cases h : v.isWritable
  · exact ⟨_, .id, fun condition => by rw [showing, if_pos h]⟩
  · refine ⟨_, .ofRecord [[.fault (.misuse .meaningless)]] [], fun condition => ?_⟩
    rw [showing, if_neg h]
    rfl

theorem layouts_ofEntries (entries : Mapping) :
    layouts c indexes (ofEntries entries) =
      entries.map fun (key, v) =>
        (showing key (ofEntry (.text key.display) v)).layout c indexes := by
  induction entries with
  | nil => rfl
  | cons entry rest ih => rw [ofEntries, layouts, ih, List.map_cons]

/-- What surrounds the condition on one column of a mapping. -/
theorem surrounds_layoutOf_map (before behind : Mapping) (key : Value) :
    ∃ wrap, Layout.Surrounds wrap ∧ ∀ v,
      layoutOf c indexes (.map (before ++ (key, v) :: behind)) =
        wrap ((ofEntry (.text key.display) v).layout c indexes) := by
  obtain ⟨shown, hshown, heq⟩ := surrounds_showing c indexes key
  refine ⟨_, (Layout.Surrounds.ofRecord (layouts c indexes (ofEntries before))
    (layouts c indexes (ofEntries behind))).comp hshown, fun v => ?_⟩
  have hentries := layouts_ofEntries c indexes (before ++ (key, v) :: behind)
  rw [List.map_append, List.map_cons, ← layouts_ofEntries, ← layouts_ofEntries] at hentries
  rw [← heq, ← hentries, layoutOf, ofValue]
  · rfl
  · simp

end Condition

end SearchSql
