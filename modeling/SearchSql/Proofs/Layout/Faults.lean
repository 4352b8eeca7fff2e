import SearchSql.Proofs.Connection.Statement

/-!
# The first fault of a layout

Writing ends at the first fault, and fails with just that one, whatever is written in front of
it. So statements that differ in a text fail alike.

## Main definitions

* `Layout.fault?` — the first fault.
* `Connection.writtenAt` — a layout as a statement.
* `Layout.ofTexts` — a layout of texts.

## Main statements

* `Layout.render_eq_error_iff` — when writing fails, and with what.
* `Connection.compile_eq_error_iff` — the same behind the parameters of a caller.
* `Connection.compile_eq` — what a statement is, in all cases.
* `Connection.compile_exchange` — statements that differ in a text.
-/
namespace SearchSql

/-- What is wrong at a piece. -/
def Piece.fault? : Piece → Option Fault
  | .fault f => some f
  | _ => none

namespace Layout

/-- The first fault of a layout. -/
def fault? (l : Layout) : Option Fault := l.findSome? Piece.fault?

theorem fault?_append (l r : Layout) : (l ++ r).fault? = l.fault?.or r.fault? :=
  List.findSome?_append

/-- What is wrong first with joined layouts. -/
theorem fault?_join (separator : String) (ls : List Layout) :
    (join separator ls).fault? = ls.findSome? fault? := by
  induction ls with
  | nil => rfl
  | cons l rest ih =>
    have hcons : (l :: rest).findSome? fault? = l.fault?.or (rest.findSome? fault?) := by
      rw [List.findSome?_cons]
      cases l.fault? <;> rfl
    cases rest with
    | nil => rw [hcons, List.findSome?_nil, Option.or_none, join_singleton]
    | cons r others =>
      rw [hcons, ← ih, join_cons_cons, fault?_append]
      rfl

theorem fault?_eq_none_iff {l : Layout} : l.fault? = none ↔ l.Sound := by
  rw [fault?, List.findSome?_eq_none_iff]
  refine forall₂_congr fun piece _ => ?_
  cases piece <;> simp [Piece.fault?, Piece.isFault]

/-- **Writing fails with the first fault**, and only then. -/
theorem render_eq_error_iff (stem : String) {l : Layout} {p : Params} {f : Fault} :
    l.render stem p = .error f ↔ l.fault? = some f := by
  have hfirst {g : Fault} (h : l.render stem p = .error g) : l.fault? = some g := by
    obtain ⟨front, behind, rfl, hfront⟩ := exists_fault_of_render_eq_error h
    rw [fault?_append, fault?_eq_none_iff.2 hfront]
    rfl
  constructor
  · exact hfirst
  · intro h
    cases hwritten : l.render stem p with
    | error g => rw [Option.some.inj ((hfirst hwritten).symm.trans h)]
    | ok found =>
      have hsound := ((render_eq_ok_iff stem).1 hwritten).1
      rw [fault?_eq_none_iff.2 hsound] at h
      cases h

end Layout

/-- A statement fails with the first fault. -/
theorem Connection.compile_eq_error_iff (c : Connection) {params : Value} {l : Layout} {f : Fault} :
    c.compile params l = .error f ↔ (Layout.ofCaller params ++ l).fault? = some f := by
  rw [← Layout.render_eq_error_iff c.settings.paramStem (p := .empty), compile]
  cases Layout.render c.settings.paramStem (Layout.ofCaller params ++ l) .empty with
  | error g => simp [bind, Except.bind]
  | ok found => simp [bind, Except.bind, pure, Except.pure]

/-! ## Behind the parameters of a caller -/

namespace Connection

variable (c : Connection)

/-- The parameters that a statement begins with. -/
def startOf (params : Value) : Params :=
  (Layout.ofCaller params).paramsAfter c.settings.paramStem .empty

/-- The statement that a layout without faults is behind some parameters. -/
def writtenAt (l : Layout) (p : Params) : Compiled :=
  ⟨String.ofList (l.charsAt c.settings.paramStem p),
    (l.paramsAfter c.settings.paramStem p).entries, c.dialect.name⟩

/-- **A statement as a function of its layout**: the first fault, or else what is written. -/
theorem compile_eq (params : Value) (l : Layout) :
    c.compile params l = ((Layout.ofCaller params).fault?.or l.fault?).elim
      (.ok (c.writtenAt l (c.startOf params))) .error := by
  rw [← Layout.fault?_append]
  cases hfault : (Layout.ofCaller params ++ l).fault? with
  | some f => exact c.compile_eq_error_iff.2 hfault
  | none =>
    rw [Option.elim_none, compile_eq_ok_iff, Layout.charsAt_append, Layout.charsAt_ofCaller,
      List.nil_append, Layout.paramsAfter_append]
    exact ⟨Layout.fault?_eq_none_iff.1 hfault, String.toList_ofList, rfl, rfl⟩

/-- **A clause by itself as a function of its layout**: the first fault, or else what is written. -/
theorem clause_eq (l : Layout) : c.clause l =
    l.fault?.elim (.ok (String.ofList (l.charsAt c.settings.paramStem .empty))) .error := by
  rw [clause]
  cases hfault : l.fault? with
  | some f =>
    rw [(Layout.render_eq_error_iff _).2 hfault]
    rfl
  | none =>
    rw [Layout.render_of_sound _ (Layout.fault?_eq_none_iff.1 hfault)]
    rfl

end Connection

/-! ## Texts that are exchanged -/

namespace Layout

variable {stem : String}

/-- A layout of texts. -/
def ofTexts (texts : List String) : Layout := texts.map .text

theorem fault?_ofTexts (texts : List String) : (ofTexts texts).fault? = none := by
  simp [fault?, ofTexts, List.findSome?_eq_none_iff, Piece.fault?]

theorem sound_ofTexts (texts : List String) : (ofTexts texts).Sound :=
  fault?_eq_none_iff.1 (fault?_ofTexts texts)

theorem paramsAfter_ofTexts (texts : List String) (p : Params) :
    (ofTexts texts).paramsAfter stem p = p := by
  induction texts with
  | nil => rfl
  | cons s rest ih => exact ih

theorem charsAt_ofTexts (texts : List String) (p : Params) :
    (ofTexts texts).charsAt stem p = (String.join texts).toList := by
  induction texts with
  | nil => rfl
  | cons s rest ih =>
    have hcons : (ofTexts (s :: rest)).charsAt stem p = s.toList ++ (ofTexts rest).charsAt stem p :=
      rfl
    rw [hcons, ih]
    simp

end Layout

theorem Checked.map_eq_error_iff {α β : Type} {f : α → β} {found : Checked α} {e : Fault} :
    found.map f = .error e ↔ found = .error e := by
  cases found <;> simp [Except.map]

theorem Checked.exists_eq_ok_of_map {α β : Type} {f : α → β} {found : Checked α} {b : β}
    (h : found.map f = .ok b) : ∃ a, found = .ok a ∧ f a = b := by
  cases found with
  | error e => cases h
  | ok a => exact ⟨a, rfl, Except.ok.inj h⟩

/-- Statements that differ in a text fail alike, and else they differ in that text only. -/
theorem Connection.compile_exchange (c : Connection) (params : Value) (before behind : Layout)
    (texts others : List String) :
    (∀ f, c.compile params (before ++ Layout.ofTexts texts ++ behind) = .error f ↔
        c.compile params (before ++ Layout.ofTexts others ++ behind) = .error f) ∧
      ∀ k, c.compile params (before ++ Layout.ofTexts texts ++ behind) = .ok k →
        ∃ front back, k.sql = front ++ String.join texts ++ back ∧
          c.compile params (before ++ Layout.ofTexts others ++ behind) =
            .ok { k with sql := front ++ String.join others ++ back } := by
  constructor
  · intro f
    simp only [compile_eq_error_iff, Layout.fault?_append, Layout.fault?_ofTexts]
  · intro k hk
    let start := (Layout.ofCaller params).paramsAfter c.settings.paramStem .empty
    let middle := before.paramsAfter c.settings.paramStem start
    let front := String.ofList ((Layout.ofCaller params).charsAt c.settings.paramStem .empty ++
      before.charsAt c.settings.paramStem start)
    let back := String.ofList (behind.charsAt c.settings.paramStem middle)
    have hwritten (given : List String) (k : Compiled) :
        c.compile params (before ++ Layout.ofTexts given ++ behind) = .ok k ↔
          (Layout.ofCaller params ++ before ++ behind).Sound ∧
            k.sql = front ++ String.join given ++ back ∧
            k.params = (behind.paramsAfter c.settings.paramStem middle).entries ∧
            k.dialect = c.dialect.name := by
      rw [compile_eq_ok_iff, ← @String.toList_inj k.sql]
      simp [Layout.paramsAfter_ofTexts, Layout.charsAt_ofTexts, Layout.sound_ofTexts, start,
        middle, front, back, and_assoc]
    obtain ⟨hsound, hsql, hparams, hdialect⟩ := (hwritten texts k).1 hk
    exact ⟨front, back, hsql, (hwritten others _).2 ⟨hsound, rfl, hparams, hdialect⟩⟩

end SearchSql
