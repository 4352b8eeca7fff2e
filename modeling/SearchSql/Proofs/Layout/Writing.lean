import Mathlib
import SearchSql.Layout.Basic

/-!
# What writing a layout does

Writing ends at the first fault. Of a layout without faults the text and the
parameters are total functions of the parameters before it, and both go through
layouts side by side one after the other.

## Main definitions

* `Layout.Sound` — nothing is wrong in a layout.
* `Layout.paramsAfter`, `Layout.charsAt` — the parameters after a layout, and its text.

## Main statements

* `Layout.render_eq_ok_iff` — what writing gives, and when.
-/
namespace SearchSql

/-- Whether a piece is a fault. -/
def Piece.isFault : Piece → Bool
  | .fault _ => true
  | _ => false

/-- The parameters after a piece. -/
def Params.after (stem : String) (p : Params) : Piece → Params
  | .bind v => p.bind stem v
  | .merge params => p.merge params
  | _ => p

/-- What is written for a piece. -/
def Params.written (stem : String) (p : Params) : Piece → List Char
  | .text s => s.toList
  | .bind _ => (p.nextName stem).toList
  | _ => []

namespace Layout

variable (stem : String)

/-- Nothing is wrong in a layout. -/
def Sound (l : Layout) : Prop := ∀ piece ∈ l, piece.isFault = false

/-- The parameters after a layout; faults are passed over. -/
def paramsAfter (l : Layout) (p : Params) : Params := l.foldl (Params.after stem) p

/-- The characters of a layout that is written after some parameters; faults are passed
over. -/
def charsAt : Layout → Params → List Char
  | [], _ => []
  | piece :: rest, p => p.written stem piece ++ charsAt rest (p.after stem piece)

@[simp] theorem sound_nil : Sound [] := by simp [Sound]

@[simp] theorem sound_cons {piece : Piece} {l : Layout} :
    Sound (piece :: l) ↔ piece.isFault = false ∧ l.Sound := by
  simp [Sound]

@[simp] theorem sound_append {l r : Layout} : (l ++ r).Sound ↔ l.Sound ∧ r.Sound := by
  simp [Sound, or_imp, forall_and]

/-- Where nothing is wrong with names, nothing is laid out for them. -/
@[simp] theorem charsAt_naming (names : List Value) (p : Params) :
    (naming names).charsAt stem p = [] := by
  rcases naming_eq_nil_or names with h | h <;> rw [h] <;> rfl

theorem Sound.naming_eq_nil {names : List Value} (h : (naming names).Sound) :
    naming names = [] := by
  rcases naming_eq_nil_or names with heq | heq
  · exact heq
  · simp [heq, Piece.isFault] at h

theorem Sound.naming_append_eq {names : List Value} {l : Layout}
    (h : (naming names ++ l).Sound) : naming names ++ l = l := by
  rw [(sound_append.1 h).1.naming_eq_nil, List.nil_append]

theorem Sound.append_naming_eq {l : Layout} {names : List Value}
    (h : (l ++ naming names).Sound) : l ++ naming names = l := by
  rw [(sound_append.1 h).2.naming_eq_nil, List.append_nil]

@[simp] theorem paramsAfter_nil (p : Params) : paramsAfter stem [] p = p := rfl

@[simp] theorem paramsAfter_cons (piece : Piece) (l : Layout) (p : Params) :
    paramsAfter stem (piece :: l) p = l.paramsAfter stem (p.after stem piece) := rfl

@[simp] theorem paramsAfter_append (l r : Layout) (p : Params) :
    paramsAfter stem (l ++ r) p = r.paramsAfter stem (l.paramsAfter stem p) :=
  List.foldl_append

@[simp] theorem charsAt_nil (p : Params) : charsAt stem [] p = [] := rfl

@[simp] theorem charsAt_cons (piece : Piece) (l : Layout) (p : Params) :
    charsAt stem (piece :: l) p = p.written stem piece ++ l.charsAt stem (p.after stem piece) := rfl

@[simp] theorem charsAt_append (l r : Layout) (p : Params) :
    charsAt stem (l ++ r) p = l.charsAt stem p ++ r.charsAt stem (l.paramsAfter stem p) := by
  induction l generalizing p with
  | nil => simp
  | cons piece l ih => simp [ih]

/-- Where nothing is wrong, the parts that are written make up the text. -/
theorem renderParts_of_sound {l : Layout} (h : l.Sound) (p : Params) :
    ∃ parts, renderParts stem l p = .ok (parts, l.paramsAfter stem p) ∧
      parts.flatMap String.toList = l.charsAt stem p := by
  induction l generalizing p with
  | nil => exact ⟨[], rfl, rfl⟩
  | cons piece l ih =>
    obtain ⟨hpiece, hl⟩ := sound_cons.1 h
    obtain ⟨parts, hparts, htext⟩ := ih hl (p.after stem piece)
    cases piece with
    | text s =>
      refine ⟨s :: parts, ?_, by simp [htext, Params.written]⟩
      simp only [Params.after] at hparts
      simp only [renderParts, hparts]
      rfl
    | bind v =>
      refine ⟨p.nextName stem :: parts, ?_, by simp [htext, Params.written]⟩
      simp only [Params.after] at hparts
      simp only [renderParts, hparts]
      rfl
    | merge params => exact ⟨parts, hparts, by simp [htext, Params.written]⟩
    | indexes names => exact ⟨parts, hparts, by simp [htext, Params.written]⟩
    | fault f => simp [Piece.isFault] at hpiece

/-- A fault ends the writing. -/
theorem sound_of_renderParts {l : Layout} {p : Params} {r : List String × Params}
    (h : renderParts stem l p = .ok r) : l.Sound := by
  induction l generalizing p r with
  | nil => exact sound_nil
  | cons piece l ih =>
    cases piece with
    | text s =>
      simp only [renderParts] at h
      cases hrest : renderParts stem l p with
      | error f => simp [hrest, bind, Except.bind] at h
      | ok found => exact sound_cons.2 ⟨rfl, ih hrest⟩
    | bind v =>
      simp only [renderParts] at h
      cases hrest : renderParts stem l (p.bind stem v) with
      | error f => simp [hrest, bind, Except.bind] at h
      | ok found => exact sound_cons.2 ⟨rfl, ih hrest⟩
    | merge params => exact sound_cons.2 ⟨rfl, ih h⟩
    | indexes names => exact sound_cons.2 ⟨rfl, ih h⟩
    | fault f => simp [renderParts] at h

/-- Writing succeeds just when nothing is wrong, and then gives the text and the parameters. -/
theorem render_eq_ok_iff {l : Layout} {p q : Params} {s : String} :
    l.render stem p = .ok (s, q) ↔
      l.Sound ∧ s.toList = l.charsAt stem p ∧ q = l.paramsAfter stem p := by
  constructor
  · intro h
    have hsound : l.Sound := by
      cases hparts : renderParts stem l p with
      | error f => simp [render, hparts, bind, Except.bind] at h
      | ok found => exact sound_of_renderParts stem hparts
    obtain ⟨parts, hparts, htext⟩ := renderParts_of_sound stem hsound p
    simp only [render, hparts, bind, Except.bind, pure, Except.pure, Except.ok.injEq,
      Prod.mk.injEq] at h
    obtain ⟨rfl, rfl⟩ := h
    exact ⟨hsound, by simpa using htext, rfl⟩
  · rintro ⟨hsound, hs, rfl⟩
    obtain ⟨parts, hparts, htext⟩ := renderParts_of_sound stem hsound p
    have hjoin : String.join parts = s := String.toList_inj.1 (by simp [htext, hs])
    simp [render, hparts, bind, Except.bind, pure, Except.pure, hjoin]

theorem render_of_sound {l : Layout} (h : l.Sound) (p : Params) :
    l.render stem p = .ok (String.ofList (l.charsAt stem p), l.paramsAfter stem p) :=
  (render_eq_ok_iff stem).2 ⟨h, String.toList_ofList, rfl⟩

theorem toOption_render_of_not_sound {l : Layout} (h : ¬ l.Sound) {p : Params} :
    (l.render stem p).toOption = none := by
  cases hwritten : l.render stem p with
  | error f => rfl
  | ok found => exact absurd ((render_eq_ok_iff stem).1 hwritten).1 h

/-! ## Faults -/

variable {stem}

/-- Writing fails with the first fault. -/
theorem exists_fault_of_renderParts_eq_error {l : Layout} {p : Params} {f : Fault}
    (h : l.renderParts stem p = .error f) :
    ∃ front behind : Layout, l = front ++ .fault f :: behind ∧ front.Sound := by
  induction l generalizing p with
  | nil => simp at h
  | cons piece l ih =>
    have hlater : ∀ q : Params, piece.isFault = false → renderParts stem l q = .error f →
        ∃ front behind : Layout, piece :: l = front ++ .fault f :: behind ∧ front.Sound := by
      intro q hpiece hq
      obtain ⟨front, behind, rfl, hfront⟩ := ih hq
      exact ⟨piece :: front, behind, rfl, sound_cons.2 ⟨hpiece, hfront⟩⟩
    cases piece with
    | text s =>
      simp only [renderParts] at h
      cases hl : renderParts stem l p with
      | error g =>
        obtain rfl : g = f := by simpa [hl, bind, Except.bind] using h
        exact hlater p rfl hl
      | ok found => simp [hl, bind, Except.bind, pure, Except.pure] at h
    | bind v =>
      simp only [renderParts] at h
      cases hl : renderParts stem l (p.bind stem v) with
      | error g =>
        obtain rfl : g = f := by simpa [hl, bind, Except.bind] using h
        exact hlater _ rfl hl
      | ok found => simp [hl, bind, Except.bind, pure, Except.pure] at h
    | merge params => exact hlater _ rfl h
    | indexes names => exact hlater _ rfl h
    | fault g =>
      obtain rfl : g = f := by simpa [renderParts] using h
      exact ⟨[], l, rfl, sound_nil⟩

theorem exists_fault_of_render_eq_error {l : Layout} {p : Params} {f : Fault}
    (h : l.render stem p = .error f) :
    ∃ front behind : Layout, l = front ++ .fault f :: behind ∧ front.Sound := by
  cases hparts : renderParts stem l p with
  | error g =>
    obtain rfl : g = f := by simpa [render, hparts, bind, Except.bind] using h
    exact exists_fault_of_renderParts_eq_error hparts
  | ok found => simp [render, hparts, bind, Except.bind, pure, Except.pure] at h

/-- No index is met behind a fault. -/
theorem indexes_append_fault {front : Layout} (h : front.Sound) (f : Fault) (behind : Layout) :
    (front ++ .fault f :: behind).indexes = front.indexes := by
  induction front with
  | nil => rfl
  | cons piece front ih =>
    obtain ⟨hpiece, hfront⟩ := sound_cons.1 h
    cases piece with
    | fault g => simp [Piece.isFault] at hpiece
    | _ => simp [indexes, ih hfront]

end Layout

end SearchSql
