import SearchSql.Proofs.Number.Range
import SearchSql.Schema.Column

/-!
# Values of a column

A value is coerced in one of four ways, which exclude each other. From them follows when there is
a result, when it is the value itself, and what it is otherwise: a value of the kind that the
column holds, or no value. What is coerced once is not changed by coercing it again.

## Main definitions

* `ColumnType.IsAbsent` — the values that stand for no value.
* `ColumnType.OutOfRange` — the values that are a fault.
* `ColumnType.Lacks` — the values that no value of the type stands for.

## Main statements

* `ColumnType.coerces_unless_outOfRange` — when there is a result, and when nothing is changed.
* `ColumnType.coerce_settles` — what the result is, and that it is stable.
-/
namespace SearchSql

/-- The text of a text or of a string of octets, if it has one. -/
def Value.written? : Value → Option String
  | .text s => some s
  | .bytes octets | .buffer octets => Held.ascii? octets
  | _ => none

namespace Held

/-- The number of a kind that a text denotes. -/
def numeral? : Held → String → Option Value
  | .integer, s => (Numeral.integer? s).map .int
  | .number, s => (Numeral.decimal? s).map .float
  | _, _ => none

/-- Values out of the range of a kind: infinity among integers, integers beyond the largest
number, and what holds an integer too long to be written. -/
inductive OutOfRange : Held → Value → Prop where
  | infinite {x : Float} (hx : x.isInf = true) : OutOfRange .integer (.float x)
  | large {n : Int} (hn : Number.tooLarge ≤ n.natAbs) : OutOfRange .number (.int n)
  | long {v : Value} (hv : v.isWritable = false) : OutOfRange .text v

/-- Values that no value of a kind stands for. -/
inductive Lacks : Held → Value → Prop where
  /-- What is no number. -/
  | noNumber {x : Float} (hx : x.isNaN = true) : Lacks .integer (.float x)
  /-- A text or octets that are no numeral, a collection, a raw fragment, or a query. -/
  | unread {kind : Held} {v : Value} (hkind : kind = .integer ∨ kind = .number)
    (hnumber : v.number? = none) (hread : v.written?.bind kind.numeral? = none) : Lacks kind v
  /-- Octets are not turned into text. -/
  | octets {v : Value} (hv : v.isOctets = true) : Lacks .text v

variable {kind : Held} {v w : Value}

/-! ## Conversion -/

theorem isWritable_of_isOctets (hv : v.isOctets = true) : v.isWritable = true := by
  cases v with
  | bytes | buffer => rfl
  | _ => simp [Value.isOctets] at hv

theorem OutOfRange.isMet_eq_false (h : kind.OutOfRange v) : kind.isMet v = false := by
  cases h with
  | infinite | large => rfl
  | long hv =>
    cases v with
    | text s => simp [Value.isWritable, Value.hasLiteral] at hv
    | _ => rfl

theorem toInteger_of_isInf {x : Float} (hx : x.isInf = true) :
    toInteger (.float x) = .error (.misuse .overflow) := by
  obtain ⟨negative, hdecode⟩ := (Number.isInf_iff x).1 hx
  have hnan : ¬ x.isNaN = true := by
    rw [Number.isNaN_iff, hdecode]
    exact Number.Decoded.noConfusion
  simp only [toInteger, (Number.truncate_eq_none_iff x).2 (Or.inr hx), if_neg hnan]

theorem toInteger_of_isNaN {x : Float} (hx : x.isNaN = true) :
    toInteger (.float x) = .ok (.float x) := by
  simp only [toInteger, (Number.truncate_eq_none_iff x).2 (Or.inl hx), if_pos hx]

theorem exists_toInteger_eq {x : Float} (hinf : ¬ x.isInf = true) (hnan : ¬ x.isNaN = true) :
    ∃ n, toInteger (.float x) = .ok (.int n) := by
  obtain ⟨n, hn⟩ := Option.ne_none_iff_exists'.1
    (mt (Number.truncate_eq_none_iff x).1 (not_or.2 ⟨hnan, hinf⟩))
  exact ⟨n, by simp only [toInteger, hn]⟩

theorem toNumber_int (n : Int) :
    toNumber (.int n) = if Number.tooLarge ≤ n.natAbs then .error (.misuse .overflow)
      else .ok (.float (Float.ofInt n)) := by
  rw [toNumber, Number.ofInt?]
  by_cases hn : Number.tooLarge ≤ n.natAbs
  · rw [if_pos hn, if_pos hn]
  · rw [if_neg hn, if_neg hn]

theorem toText_eq (hv : v.isOctets = false) :
    toText v = if v.isWritable then .ok (.text v.display) else .error (.misuse .meaningless) := by
  cases v with
  | bytes | buffer => simp [Value.isOctets] at hv
  | _ => rfl

/-- What is no number yet is read as one if it can be, and is left as it is otherwise. -/
theorem convert_eq_of_number?_eq_none (hkind : kind = .integer ∨ kind = .number)
    (hv : v.number? = none) :
    kind.convert v = .ok ((v.written?.bind kind.numeral?).getD v) := by
  have helim {α : Type} (found : Option α) (f : α → Value) (u : Value) :
      found.elim u f = (found.map f).getD u := by cases found <;> rfl
  rcases hkind with rfl | rfl
  all_goals
    cases v with
    | bool | int | float => simp [Value.number?] at hv
    | text | bytes | buffer =>
      simp only [convert, toInteger, toNumber, Value.written?, helim, Option.map_bind,
        Option.bind_some]
      rfl
    | _ => rfl

theorem isMet_of_numeral?_eq_some {s : String} (h : kind.numeral? s = some w) :
    kind.isMet w = true := by
  cases kind with
  | integer | number =>
    obtain ⟨_, -, rfl⟩ := Option.map_eq_some_iff.1 h
    rfl
  | flag | text => simp [numeral?] at h

theorem OutOfRange.convert_eq (h : kind.OutOfRange v) : ∃ f, kind.convert v = .error f := by
  cases h with
  | infinite hx => exact ⟨_, toInteger_of_isInf hx⟩
  | large hn => exact ⟨_, (toNumber_int _).trans (if_pos hn)⟩
  | long hv =>
    cases hoctets : v.isOctets with
    | true => simp [isWritable_of_isOctets hoctets] at hv
    | false => exact ⟨_, (toText_eq hoctets).trans (if_neg (Bool.eq_false_iff.1 hv))⟩

/-- What has no counterpart is left as it is. -/
theorem Lacks.convert_eq (h : kind.Lacks v) : kind.convert v = .ok v := by
  cases h with
  | noNumber hx => exact toInteger_of_isNaN hx
  | unread hkind hnumber hread =>
    rw [convert_eq_of_number?_eq_none hkind hnumber, hread, Option.getD_none]
  | octets hv =>
    cases v with
    | bytes | buffer => rfl
    | _ => simp [Value.isOctets] at hv

/-- **What is in range and has a counterpart is converted.** -/
theorem exists_convert_eq (hrange : ¬ kind.OutOfRange v) (hlacks : ¬ kind.Lacks v)
    (hmet : kind.isMet v = false) : ∃ w, kind.convert v = .ok w ∧ kind.isMet w = true := by
  have hread (hkind : kind = .integer ∨ kind = .number) (hnumber : v.number? = none) :
      ∃ w, kind.convert v = .ok w ∧ kind.isMet w = true := by
    obtain ⟨w, hw⟩ := Option.ne_none_iff_exists'.1 fun h => hlacks (.unread hkind hnumber h)
    obtain ⟨s, -, hs⟩ := Option.bind_eq_some_iff.1 hw
    refine ⟨w, ?_, isMet_of_numeral?_eq_some hs⟩
    rw [convert_eq_of_number?_eq_none hkind hnumber, hw, Option.getD_some]
  cases kind with
  | integer =>
    cases v with
    | bool => exact ⟨_, rfl, rfl⟩
    | int => simp [isMet] at hmet
    | float x =>
      obtain ⟨n, hn⟩ := exists_toInteger_eq (fun h => hrange (.infinite h))
        (fun h => hlacks (.noNumber h))
      exact ⟨_, hn, rfl⟩
    | _ => exact hread (Or.inl rfl) rfl
  | number =>
    cases v with
    | bool => exact ⟨_, rfl, rfl⟩
    | float => simp [isMet] at hmet
    | int n => exact ⟨_, (toNumber_int n).trans (if_neg fun h => hrange (.large h)), rfl⟩
    | _ => exact hread (Or.inr rfl) rfl
  | flag => exact ⟨_, rfl, rfl⟩
  | text =>
    have hwritable : v.isWritable = true :=
      Bool.not_eq_false _ ▸ fun h => hrange (.long h)
    have hoctets : v.isOctets = false := Bool.eq_false_iff.2 fun h => hlacks (.octets h)
    exact ⟨_, (toText_eq hoctets).trans (if_pos hwritable), rfl⟩

end Held

namespace ColumnType

/-- Values that stand for no value: none, and the empty text where texts are not held. -/
def IsAbsent (t : ColumnType) (v : Value) : Prop :=
  v = .null ∨ v = .text "" ∧ t ≠ .field ∧ t ≠ .string ∧ t ≠ .json

/-- Values out of the range of a type. A document takes any value. -/
def OutOfRange (t : ColumnType) (v : Value) : Prop :=
  t ≠ .json ∧ t.holds.OutOfRange v

/-- Values that are given, but no value of a type stands for them: in a document, what has no
serialization. -/
def Lacks (t : ColumnType) (v : Value) : Prop :=
  ¬ t.IsAbsent v ∧ if t = .json then v.json? = none else t.holds.Lacks v

/-- The ways in which a value is coerced. -/
inductive Coerces (t : ColumnType) (v : Value) : Checked Value → Prop where
  /-- There is no value. -/
  | absent (h : t.IsAbsent v) : Coerces t v (.ok .null)
  /-- The value is of the kind already. -/
  | met (habsent : ¬ t.IsAbsent v) (h : t.holds.isMet v = true) : Coerces t v (.ok v)
  /-- The value is serialized. -/
  | serialized (habsent : ¬ t.IsAbsent v) (hmet : t.holds.isMet v = false) (ht : t = .json)
    (hoctets : v.isOctets = false) : Coerces t v (.ok (v.json?.elim v .text))
  /-- The value is converted. -/
  | converted (habsent : ¬ t.IsAbsent v) (hmet : t.holds.isMet v = false)
    (ht : t = .json → v.isOctets = true) : Coerces t v (t.holds.convert v)

variable {t : ColumnType} {v w : Value}

theorem holds_ne_text_iff : t.holds ≠ .text ↔ t ≠ .field ∧ t ≠ .string ∧ t ≠ .json := by
  cases t <;> decide

theorem json?_eq_none_of_isOctets (hv : v.isOctets = true) : v.json? = none := by
  cases v with
  | bytes | buffer => rfl
  | _ => simp [Value.isOctets] at hv

theorem isAbsent_iff : t.IsAbsent v ↔ v = .null ∨ v.isEmptyText = true ∧ t.holds ≠ .text := by
  rw [IsAbsent, holds_ne_text_iff]
  cases v <;> simp [Value.isEmptyText]

theorem coerce_eq (t : ColumnType) (hv : v ≠ .null) :
    t.coerce v = if v.isEmptyText ∧ t.holds ≠ .text then .ok .null
      else if t.holds.isMet v then .ok v
      else if t = .json ∧ ¬ v.isOctets then .ok (v.json?.elim v .text)
      else t.holds.convert v := by
  cases v with
  | null => exact absurd rfl hv
  | _ => rfl

/-- **A value is coerced in one of four ways.** -/
theorem coerces (t : ColumnType) (v : Value) : t.Coerces v (t.coerce v) := by
  by_cases hv : v = .null
  · subst hv
    rw [coerce_null]
    exact .absent (Or.inl rfl)
  · rw [coerce_eq t hv]
    split
    · rename_i hempty
      exact .absent (isAbsent_iff.2 (Or.inr hempty))
    · rename_i hempty
      have habsent : ¬ t.IsAbsent v := fun h => (isAbsent_iff.1 h).elim hv hempty
      split
      · rename_i hmet
        exact .met habsent hmet
      · rename_i hmet
        have hmet : t.holds.isMet v = false := Bool.eq_false_iff.2 hmet
        split
        · rename_i hjson
          exact .serialized habsent hmet hjson.1 (Bool.eq_false_iff.2 hjson.2)
        · rename_i hjson
          exact .converted habsent hmet fun ht => by simpa [ht] using hjson

/-! ## Results -/

theorem coerce_of_isAbsent (h : t.IsAbsent v) : t.coerce v = .ok .null := by
  rcases isAbsent_iff.1 h with rfl | hempty
  · exact coerce_null t
  · have hv : v ≠ .null := by
      rintro rfl
      simp [Value.isEmptyText] at hempty
    rw [coerce_eq t hv, if_pos hempty]

theorem isMet_eq_false_of_isAbsent (h : t.IsAbsent v) : t.holds.isMet v = false := by
  rcases h with rfl | ⟨rfl, h⟩
  · cases t <;> rfl
  · have ht := holds_ne_text_iff.2 h
    generalize t.holds = kind at ht
    cases kind with
    | text => exact absurd rfl ht
    | _ => rfl

theorem coerce_of_isMet (h : t.holds.isMet v = true) : t.coerce v = .ok v := by
  have hway := t.coerces v
  generalize t.coerce v = result at hway
  cases hway with
  | absent habsent => simp [isMet_eq_false_of_isAbsent habsent] at h
  | met => rfl
  | serialized _ hmet | converted _ hmet => simp [hmet] at h

theorem not_isAbsent_of_outOfRange (h : t.holds.OutOfRange v) : ¬ t.IsAbsent v := by
  rintro (rfl | ⟨rfl, -⟩)
  all_goals
    generalize t.holds = kind at h
    cases h with
    | long hv => simp [Value.isWritable, Value.hasLiteral] at hv

/-- What is out of range is a fault. -/
theorem OutOfRange.coerce_eq (h : t.OutOfRange v) : ∃ f, t.coerce v = .error f := by
  obtain ⟨ht, hrange⟩ := h
  have hway := t.coerces v
  generalize t.coerce v = result at hway
  cases hway with
  | absent h => exact absurd h (not_isAbsent_of_outOfRange hrange)
  | met _ h => exact absurd h (Bool.eq_false_iff.1 hrange.isMet_eq_false)
  | serialized _ _ hjson _ => exact absurd hjson ht
  | converted => exact hrange.convert_eq

/-- What has no counterpart is left as it is. -/
theorem Lacks.coerce_eq (h : t.Lacks v) : t.coerce v = .ok v := by
  obtain ⟨habsent, hlacks⟩ := h
  have hway := t.coerces v
  generalize t.coerce v = result at hway
  cases hway with
  | absent h => exact absurd h habsent
  | met => rfl
  | serialized _ _ ht =>
    rw [if_pos ht] at hlacks
    rw [hlacks, Option.elim_none]
  | converted _ _ hjson =>
    split at hlacks
    · rename_i ht
      subst ht
      exact (Held.Lacks.octets (hjson rfl)).convert_eq
    · exact hlacks.convert_eq

/-- What is in range and has a counterpart is turned into a value of the kind. -/
theorem exists_coerce_eq (habsent : ¬ t.IsAbsent v) (hrange : ¬ t.OutOfRange v)
    (hlacks : ¬ t.Lacks v) : ∃ w, t.coerce v = .ok w ∧ t.holds.isMet w = true := by
  have hway := t.coerces v
  generalize t.coerce v = result at hway
  cases hway with
  | absent h => exact absurd h habsent
  | met _ h => exact ⟨v, rfl, h⟩
  | serialized _ _ ht =>
    subst ht
    obtain ⟨s, hs⟩ := Option.ne_none_iff_exists'.1 fun h => hlacks ⟨habsent, by rwa [if_pos rfl]⟩
    exact ⟨.text s, by rw [hs, Option.elim_some], rfl⟩
  | converted _ hmet hjson =>
    have ht : t ≠ .json := fun h => hlacks ⟨habsent, by
      rw [if_pos h]
      exact json?_eq_none_of_isOctets (hjson h)⟩
    exact Held.exists_convert_eq (fun h => hrange ⟨ht, h⟩)
      (fun h => hlacks ⟨habsent, by rwa [if_neg ht]⟩) hmet

theorem not_outOfRange_of_coerce_eq (h : t.coerce v = .ok w) : ¬ t.OutOfRange v := fun hrange => by
  obtain ⟨f, hf⟩ := hrange.coerce_eq
  simp [h] at hf

theorem exists_coerce_eq_iff : (∃ w, t.coerce v = .ok w) ↔ ¬ t.OutOfRange v := by
  refine ⟨fun ⟨w, hw⟩ => not_outOfRange_of_coerce_eq hw, fun hrange => ?_⟩
  by_cases habsent : t.IsAbsent v
  · exact ⟨_, coerce_of_isAbsent habsent⟩
  by_cases hlacks : t.Lacks v
  · exact ⟨v, hlacks.coerce_eq⟩
  · exact (exists_coerce_eq habsent hrange hlacks).imp fun _ hw => hw.1

theorem coerce_eq_self_iff :
    t.coerce v = .ok v ↔ v = .null ∨ t.holds.isMet v = true ∨ t.Lacks v := by
  constructor
  · intro h
    by_cases habsent : t.IsAbsent v
    · exact Or.inl (Except.ok.inj (h.symm.trans (coerce_of_isAbsent habsent)))
    by_cases hlacks : t.Lacks v
    · exact Or.inr (Or.inr hlacks)
    obtain ⟨w, hw, hmet⟩ := exists_coerce_eq habsent (not_outOfRange_of_coerce_eq h) hlacks
    obtain rfl : v = w := Except.ok.inj (h.symm.trans hw)
    exact Or.inr (Or.inl hmet)
  · rintro (rfl | hmet | hlacks)
    · exact coerce_null t
    · exact coerce_of_isMet hmet
    · exact hlacks.coerce_eq

/-- **There is a result unless the value is out of range, and it is the value itself if there is
none, if the type holds it already, or if the type has no counterpart of it.** -/
theorem coerces_unless_outOfRange (t : ColumnType) (v : Value) :
    ((∃ w, t.coerce v = .ok w) ↔ ¬ t.OutOfRange v) ∧
      (t.coerce v = .ok v ↔ v = .null ∨ t.holds.isMet v = true ∨ t.Lacks v) :=
  ⟨exists_coerce_eq_iff, coerce_eq_self_iff⟩

/-- There are values with no result: a column of integers takes no infinity. -/
theorem not_coerce_total : ¬ ∀ (t : ColumnType) (v : Value), ∃ w, t.coerce v = .ok w := by
  intro h
  refine exists_coerce_eq_iff.1 (h .uint (.float (1.0 / 0.0))) ⟨by decide, .infinite ?_⟩
  rfl

/-- What a value is coerced to: no value, a value of the kind that is held, or the value itself. -/
theorem coerce_result (h : t.coerce v = .ok w) :
    t.IsAbsent v ∧ w = .null ∨ ¬ t.IsAbsent v ∧ (t.holds.isMet w = true ∨ w = v) := by
  by_cases habsent : t.IsAbsent v
  · exact Or.inl ⟨habsent, Except.ok.inj (h.symm.trans (coerce_of_isAbsent habsent))⟩
  refine Or.inr ⟨habsent, ?_⟩
  by_cases hlacks : t.Lacks v
  · exact Or.inr (Except.ok.inj (h.symm.trans hlacks.coerce_eq))
  obtain ⟨u, hu, hmet⟩ := exists_coerce_eq habsent (not_outOfRange_of_coerce_eq h) hlacks
  exact Or.inl (Except.ok.inj (h.symm.trans hu) ▸ hmet)

/-- **The result is no value, a value of the kind that is held, or the value itself; it is no
value only for what stands for none; and it is not changed by coercing it again.** -/
theorem coerce_settles (h : t.coerce v = .ok w) :
    (w = .null ∨ t.holds.isMet w = true ∨ w = v) ∧
      (w = .null ↔ v = .null ∨ v = .text "" ∧ t ≠ .field ∧ t ≠ .string ∧ t ≠ .json) ∧
      t.coerce w = .ok w := by
  change _ ∧ (_ ↔ t.IsAbsent v) ∧ _
  rcases coerce_result h with ⟨habsent, rfl⟩ | ⟨habsent, hmet | rfl⟩
  · exact ⟨Or.inl rfl, iff_of_true rfl habsent, coerce_null t⟩
  · refine ⟨Or.inr (Or.inl hmet), iff_of_false ?_ habsent, coerce_of_isMet hmet⟩
    rintro rfl
    simp [isMet_eq_false_of_isAbsent (t := t) (Or.inl rfl)] at hmet
  · exact ⟨Or.inr (Or.inr rfl), iff_of_false (fun hnull => habsent (Or.inl hnull)) habsent, h⟩

/-- The octets of a numeral are coerced to its number, and then to themselves. -/
theorem coerce_settles_numeral :
    ColumnType.bigint.coerce (.bytes [0x20, 0x2D, 0x31, 0x5F, 0x37]) = .ok (.int (-17)) ∧
      ColumnType.bigint.coerce (.int (-17)) = .ok (.int (-17)) := by
  have h : ColumnType.bigint.coerce (.bytes [0x20, 0x2D, 0x31, 0x5F, 0x37]) = .ok (.int (-17)) := by
    rfl
  exact ⟨h, (coerce_settles h).2.2⟩

end ColumnType

end SearchSql
