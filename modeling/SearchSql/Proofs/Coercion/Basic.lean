import SearchSql.Layout.Selection
import SearchSql.Proofs.Layout.Numbers
import SearchSql.Proofs.Params.Names

/-!
# Runs that differ in coerced values

What is known of an index is used for one thing: a value of a column is bound as the value
that stands for it in the column. Two layouts that differ in this way only are written with
the same text, the same names of parameters and the same indexes; the parameters differ in
coerced values, each in the column that its own value belongs to.

## Main definitions

* `Slot`, `Slot.CastIn` — a value of a column, and the value that stands for it.
* `Layout.Recast` — layouts that differ in coerced values.
* `Layout.named`, `Mapping.Recast` — the generated names with their slots, and parameters that
  differ in coerced values.

## Main statements

* `Layout.Recast.join`, `Layout.Recast.connect` — layouts that are put together.
* `Layout.Recast.written` — what is written.
-/
namespace SearchSql

namespace Connection

variable (c : Connection)

/-- The connection when nothing is known of the indexes. -/
def withoutSchema : Connection := { c with snapshot := none }

/-- No column of a known index holds documents. -/
def NoJson : Prop :=
  ∀ snapshot ∈ c.snapshot, ∀ index ∈ snapshot.indexes, ∀ column ∈ index.columns,
    column.type ≠ .json

variable {c}

/-- A column that is found is one of a known index. -/
theorem NoJson.type_ne (h : c.NoJson) {names : List String} {name : Value} {column : Column}
    (hcolumn : Layout.columnOf (c.known names) name = some column) : column.type ≠ .json := by
  obtain ⟨s, -, hs⟩ := Option.bind_eq_some_iff.1 hcolumn
  obtain ⟨index, hindex, hfound⟩ := List.exists_of_findSome?_eq_some hs
  cases hsnapshot : c.snapshot with
  | none => simp [known, Snapshot.known, hsnapshot] at hindex
  | some snapshot =>
    rw [known, hsnapshot, Snapshot.known] at hindex
    obtain ⟨indexName, -, hname⟩ := List.mem_filterMap.1 hindex
    exact h snapshot hsnapshot index (List.mem_of_find?_eq_some hname) column
      (List.mem_of_find?_eq_some hfound)

end Connection

/-- A value that is bound, and the column that it belongs to, where the columns of some indexes
may be known. -/
structure Slot where
  /-- The names of the indexes; there are none for a value that belongs to no column. -/
  names : List String
  /-- The column, whose text is its name. -/
  column : Value
  /-- The value. -/
  value : Value

/-- The value that stands for another in the column of its name, in the first of the indexes that
has one. -/
def Slot.CastIn (c : Connection) (slot : Slot) (w : Value) : Prop :=
  ∃ column, Layout.columnOf (c.known slot.names) slot.column = some column ∧
    column.type.coerce slot.value = .ok w

/-- The values that a layout binds, if they belong to no column. -/
def Slot.plain (l : Layout) : List Slot := l.binds.map fun v => ⟨[], .null, v⟩

/-- Layouts that differ in coerced values: the slots are those of the values that are bound, in
their order. A value that nothing stands for is a fault. -/
inductive Layout.Recast (c : Connection) : List Slot → Layout → Layout → Prop where
  | nil : Recast c [] [] []
  /-- A piece that binds no value. -/
  | keep {slots : List Slot} {piece : Piece} {l l' : Layout} (hpiece : piece.bind? = none)
    (h : Recast c slots l l') : Recast c slots (piece :: l) (piece :: l')
  /-- The value of a slot, or what stands for it. -/
  | bind {slots : List Slot} (slot : Slot) {w : Value} {l l' : Layout}
    (hw : w = slot.value ∨ slot.CastIn c w) (h : Recast c slots l l') :
    Recast c (slot :: slots) (.bind w :: l) (.bind slot.value :: l')
  /-- Nothing stands for the value of a slot. -/
  | fault {slots : List Slot} {l l' : Layout} (slot : Slot) (f : Fault) (h : Recast c slots l l') :
    Recast c (slot :: slots) (.fault f :: l) (.bind slot.value :: l')

/-- The names that are generated for values, each with the slot of its value. -/
def Layout.named (stem : String) (l : Layout) (p : Params) (slots : List Slot) :
    List (Value × Slot) :=
  ((l.numbers stem p).map fun n => .text (Params.numbered stem n)).zip slots

/-- A value, and the one that is bound under a name: the same one, or what stands for it in a
slot of that name. -/
def Value.Recast (c : Connection) (named : List (Value × Slot)) (key w v : Value) : Prop :=
  w = v ∨ ∃ slot, (key, slot) ∈ named ∧ v = slot.value ∧ slot.CastIn c w

/-- Parameters that differ in coerced values. -/
def Mapping.Recast (c : Connection) (named : List (Value × Slot)) (m m' : Mapping) : Prop :=
  List.Forall₂
    (fun entry entry' => entry.1 = entry'.1 ∧ Value.Recast c named entry.1 entry.2 entry'.2) m m'

variable {c : Connection} {slots : List Slot} {named : List (Value × Slot)}

@[simp] theorem Value.Recast.rfl {key v : Value} : Value.Recast c named key v v :=
  Or.inl (Eq.refl v)

namespace Mapping.Recast

theorem refl (m : Mapping) : Mapping.Recast c named m m :=
  List.forall₂_same.2 fun _ _ => ⟨Eq.refl _, .rfl⟩

theorem keys_eq {m m' : Mapping} (h : Mapping.Recast c named m m') : m.keys = m'.keys := by
  induction h with
  | nil => exact Eq.refl _
  | cons hentry _ ih => exact congrArg₂ List.cons hentry.1 ih

/-- A value is put under the key that is there already, if there is one. -/
theorem insert {m m' : Mapping} (h : Mapping.Recast c named m m') {key w v : Value}
    (hv : ∀ k, k = key ∨ k.sameKey key = true → Value.Recast c named k w v) :
    Mapping.Recast c named (m.insert key w) (m'.insert key v) := by
  induction h with
  | nil => exact .cons ⟨Eq.refl _, hv key (Or.inl (Eq.refl _))⟩ .nil
  | @cons entry entry' m m' hentry hrest ih =>
    obtain ⟨k, u⟩ := entry
    obtain ⟨k', u'⟩ := entry'
    obtain ⟨rfl : k = k', hu⟩ := hentry
    simp only [Mapping.insert]
    split
    · rename_i hsame
      exact .cons ⟨Eq.refl _, hv k (Or.inr hsame)⟩ hrest
    · exact .cons ⟨Eq.refl _, hu⟩ ih

theorem insert_text {m m' : Mapping} (h : Mapping.Recast c named m m') {name : String}
    {w v : Value} (hv : Value.Recast c named (.text name) w v) :
    Mapping.Recast c named (m.insert (.text name) w) (m'.insert (.text name) v) := by
  refine h.insert fun k hk => ?_
  have heq : k = .text name := hk.elim id Value.sameKey_text_iff.1
  rwa [heq]

theorem merge {m m' : Mapping} (h : Mapping.Recast c named m m') (params : Mapping) :
    Mapping.Recast c named (m.merge params) (m'.merge params) := by
  induction params generalizing m m' with
  | nil => exact h
  | cons pair rest ih => exact ih (h.insert fun _ _ => .rfl)

end Mapping.Recast

namespace Layout.Recast

/-- Values that belong to no column. -/
theorem refl (l : Layout) : Layout.Recast c (Slot.plain l) l l := by
  induction l with
  | nil => exact nil
  | cons piece l ih =>
    cases piece with
    | bind v => exact bind ⟨[], .null, v⟩ (Or.inl rfl) ih
    | text | merge | indexes | fault => exact keep rfl ih

theorem text (s : String) {l l' : Layout} (h : Layout.Recast c slots l l') :
    Layout.Recast c slots (.text s :: l) (.text s :: l') :=
  keep rfl h

theorem append {slots' : List Slot} {l l' r r' : Layout} (hl : Layout.Recast c slots l l')
    (hr : Layout.Recast c slots' r r') : Layout.Recast c (slots ++ slots') (l ++ r) (l' ++ r') := by
  induction hl with
  | nil => exact hr
  | keep hpiece _ ih => exact keep hpiece ih
  | bind slot hw _ ih => exact bind slot hw ih
  | fault slot f _ ih => exact fault slot f ih

theorem isEmpty_eq {l l' : Layout} (h : Layout.Recast c slots l l') : l.isEmpty = l'.isEmpty := by
  cases h <;> rfl

/-- Where nothing is written, there are no slots. -/
theorem slots_eq_nil {l l' : Layout} (h : Layout.Recast c slots l l') (hl : l.isEmpty = true) :
    slots = [] := by
  cases h with
  | nil => rfl
  | keep | bind | fault => simp at hl

/-! ## Layouts that are put together -/

/-- Layouts that differ in coerced values, one by one. -/
inductive Each (c : Connection) : List (List Slot) → List Layout → List Layout → Prop where
  | nil : Each c [] [] []
  | cons {slots : List Slot} {others : List (List Slot)} {l l' : Layout} {ls ls' : List Layout}
    (hl : Layout.Recast c slots l l') (h : Each c others ls ls') :
    Each c (slots :: others) (l :: ls) (l' :: ls')

variable {others : List (List Slot)}

theorem each_map {α : Type} {slotsOf : α → List Slot} {f g : α → Layout} {items : List α}
    (h : ∀ item ∈ items, Layout.Recast c (slotsOf item) (f item) (g item)) :
    Each c (items.map slotsOf) (items.map f) (items.map g) := by
  induction items with
  | nil => exact .nil
  | cons item items ih =>
    exact .cons (h item (List.mem_cons_self ..))
      (ih fun other hother => h other (List.mem_cons_of_mem _ hother))

theorem join (separator : String) {ls ls' : List Layout} (h : Each c others ls ls') :
    Layout.Recast c others.flatten (Layout.join separator ls) (Layout.join separator ls') := by
  induction h with
  | nil => exact nil
  | cons hl hrest ih =>
    cases hrest with
    | nil => simpa using hl
    | cons hr hothers => exact hl.append (keep rfl ih)

/-- Layouts that are left out have no slots. -/
theorem exists_present {ls ls' : List Layout} (h : Each c others ls ls') :
    ∃ present : List (List Slot), present.flatten = others.flatten ∧
      Each c present (ls.filter (!·.isEmpty)) (ls'.filter (!·.isEmpty)) := by
  induction h with
  | nil => exact ⟨[], rfl, .nil⟩
  | @cons slots _ l l' _ _ hl _ ih =>
    obtain ⟨present, heq, hpresent⟩ := ih
    rw [List.filter_cons, List.filter_cons, ← hl.isEmpty_eq]
    cases hempty : l.isEmpty with
    | true =>
      refine ⟨present, ?_, hpresent⟩
      rw [List.flatten_cons, hl.slots_eq_nil hempty, heq, List.nil_append]
    | false =>
      refine ⟨slots :: present, ?_, .cons hl hpresent⟩
      rw [List.flatten_cons, List.flatten_cons, heq]

theorem joinPresent (separator : String) {ls ls' : List Layout} (h : Each c others ls ls') :
    Layout.Recast c others.flatten (Layout.joinPresent separator ls)
      (Layout.joinPresent separator ls') := by
  obtain ⟨present, heq, hpresent⟩ := exists_present h
  rw [← heq]
  exact join separator hpresent

theorem enclose (opening closing : String) {l l' : Layout} (h : Layout.Recast c slots l l') :
    Layout.Recast c slots (Layout.enclose opening l closing)
      (Layout.enclose opening l' closing) := by
  have hclosed := h.append (text closing nil)
  rw [List.append_nil] at hclosed
  exact text opening hclosed

theorem after (opening : String) {l l' : Layout} (h : Layout.Recast c slots l l') :
    Layout.Recast c slots (Layout.after opening l) (Layout.after opening l') := by
  simp only [Layout.after, ← h.isEmpty_eq]
  split
  · rename_i hempty
    rw [h.slots_eq_nil hempty]
    exact nil
  · exact keep rfl h

theorem connect (word : String) {ls ls' : List Layout} (h : Each c others ls ls') :
    Layout.Recast c others.flatten (Layout.connect word ls) (Layout.connect word ls') := by
  obtain ⟨present, heq, hpresent⟩ := exists_present h
  rw [← heq, Layout.connect, Layout.connect]
  generalize ls.filter (!·.isEmpty) = parts at hpresent
  generalize ls'.filter (!·.isEmpty) = parts' at hpresent
  cases hpresent with
  | nil => exact nil
  | cons hl hrest => exact enclose _ _ (join _ (.cons hl hrest))

/-! ## What is written -/

theorem sound {l l' : Layout} (h : Layout.Recast c slots l l') (hl : l.Sound) : l'.Sound := by
  induction h with
  | nil => exact sound_nil
  | keep _ _ ih => exact sound_cons.2 ⟨(sound_cons.1 hl).1, ih (sound_cons.1 hl).2⟩
  | bind _ _ _ ih | fault _ _ _ ih => exact sound_cons.2 ⟨rfl, ih (sound_cons.1 hl).2⟩

theorem indexes_eq {l l' : Layout} (h : Layout.Recast c slots l l') (hl : l.Sound) :
    l.indexes = l'.indexes := by
  induction h with
  | nil => rfl
  | @keep _ piece _ _ _ _ ih => cases piece <;> simp [Layout.indexes, ih (sound_cons.1 hl).2]
  | bind _ _ _ ih => exact ih (sound_cons.1 hl).2
  | fault => simp [Piece.isFault] at hl

/-- There is a slot for each name that is generated. -/
theorem length_numbers (stem : String) {l l' : Layout} (h : Layout.Recast c slots l l')
    (hl : l.Sound) (p : Params) : (l.numbers stem p).length = slots.length := by
  induction h generalizing p with
  | nil => rfl
  | @keep _ piece _ _ hpiece _ ih =>
    cases piece with
    | bind v => simp [Piece.bind?] at hpiece
    | text | merge | indexes | fault => exact ih (sound_cons.1 hl).2 _
  | bind _ _ _ ih => exact congrArg Nat.succ (ih (sound_cons.1 hl).2 _)
  | fault => simp [Piece.isFault] at hl

/-- **Layouts that differ in coerced values are written with the same text**, and leave
parameters that differ in coerced values. -/
theorem written (stem : String) {l l' : Layout} (h : Layout.Recast c slots l l') (hl : l.Sound)
    {p p' : Params} (hp : Mapping.Recast c named p.entries p'.entries)
    (hnamed : l.named stem p slots ⊆ named) :
    l.charsAt stem p = l'.charsAt stem p' ∧
      Mapping.Recast c named (l.paramsAfter stem p).entries (l'.paramsAfter stem p').entries := by
  induction h generalizing p p' with
  | nil => exact ⟨rfl, hp⟩
  | @keep _ piece _ _ hpiece _ ih =>
    have hrest := (sound_cons.1 hl).2
    cases piece with
    | bind v => simp [Piece.bind?] at hpiece
    | merge params => exact ih hrest (hp.merge params) hnamed
    | text s =>
      obtain ⟨hchars, hparams⟩ := ih hrest hp hnamed
      exact ⟨congrArg (s.toList ++ ·) hchars, hparams⟩
    | indexes | fault => exact ih hrest hp hnamed
  | @bind _ slot w _ _ hw _ ih =>
    -- the same keys are bound so far, so the same name is generated
    have hname : p.nextName stem = p'.nextName stem := Params.nextName_congr hp.keys_eq stem
    obtain ⟨hslot, hothers⟩ := List.cons_subset.1 hnamed
    have hvalue : Value.Recast c named (.text (p.nextName stem)) w slot.value :=
      hw.imp id fun hcast => ⟨slot, hslot, rfl, hcast⟩
    have hafter : Mapping.Recast c named (p.bind stem w).entries
        (p'.bind stem slot.value).entries := by
      simp only [Params.bind, ← hname]
      exact hp.insert_text hvalue
    obtain ⟨hchars, hparams⟩ := ih (sound_cons.1 hl).2 hafter hothers
    exact ⟨congrArg₂ (· ++ ·) (congrArg String.toList hname) hchars, hparams⟩
  | fault => simp [Piece.isFault] at hl

end Layout.Recast

end SearchSql
