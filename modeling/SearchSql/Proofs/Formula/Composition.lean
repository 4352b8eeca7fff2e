import SearchSql.Layout.Selection
import SearchSql.Proofs.Formula.Basic
import SearchSql.Proofs.Layout.Writing

/-!
# Layouts that say what formulas say

A layout says what a formula says if the text that is written for it is read as a condition that
holds just when the formula does, whatever the parameters before it are. Layouts in parentheses
with a connective between them say what the connective combines; those that are left out belong
to formulas that say nothing.

## Main definitions

* `Formula.Describes` — a layout says what a formula says.

## Main statements

* `Formula.describes_atom` — a predicate.
* `Formula.describes_connect`, `Formula.describes_negation`, `Formula.describes_record`,
  `Formula.describes_join` — what is put together.
-/
namespace SearchSql

namespace Layout

variable (stem : String)

/-- The texts of layouts that are written one after the other. -/
def textsAt : List Layout → Params → List (List Char)
  | [], _ => []
  | l :: rest, p => l.charsAt stem p :: textsAt rest (l.paramsAfter stem p)

variable {stem}

theorem paramsAfter_join (separator : String) (ls : List Layout) (p : Params) :
    (join separator ls).paramsAfter stem p = paramsAfter stem ls.flatten p := by
  induction ls generalizing p with
  | nil => rfl
  | cons l rest ih =>
    cases rest with
    | nil => simp
    | cons r others =>
      rw [join_cons_cons, paramsAfter_append, paramsAfter_cons, List.flatten_cons,
        paramsAfter_append]
      exact ih _

/-- Layouts with a text between them are written with the text between them. -/
theorem charsAt_join (separator : String) (ls : List Layout) (p : Params) :
    (join separator ls).charsAt stem p = separator.toList.intercalate (textsAt stem ls p) := by
  induction ls generalizing p with
  | nil => rfl
  | cons l rest ih =>
    cases rest with
    | nil => simp [textsAt, List.intercalate_singleton]
    | cons r others =>
      have hrest := ih (l.paramsAfter stem p)
      rw [join_cons_cons, charsAt_append, charsAt_cons]
      simp only [textsAt, Params.written, Params.after] at hrest ⊢
      rw [hrest, List.intercalate_cons_cons, List.append_assoc]

theorem paramsAfter_enclose (opening closing : String) (l : Layout) (p : Params) :
    (enclose opening l closing).paramsAfter stem p = l.paramsAfter stem p := by
  simp [enclose, Params.after]

theorem charsAt_enclose (opening closing : String) (l : Layout) (p : Params) :
    (enclose opening l closing).charsAt stem p =
      opening.toList ++ (l.charsAt stem p ++ closing.toList) := by
  simp [enclose, Params.written, Params.after]

theorem textsAt_ne_nil {ls : List Layout} (h : ls ≠ []) (p : Params) :
    textsAt stem ls p ≠ [] := by
  cases ls with
  | nil => exact absurd rfl h
  | cons l rest => simp [textsAt]

theorem join_ne_nil {separator : String} {l : Layout} (h : l ≠ []) (rest : List Layout) :
    join separator (l :: rest) ≠ [] := by
  cases rest with
  | nil => simpa using h
  | cons r others => simp [h]

/-! ## Faults in what is put together -/

theorem sound_join {separator : String} {ls : List Layout} (h : (join separator ls).Sound) :
    ∀ l ∈ ls, l.Sound := by
  induction ls with
  | nil => simp
  | cons l rest ih =>
    cases rest with
    | nil => simpa using h
    | cons r others =>
      rw [join_cons_cons, sound_append, sound_cons] at h
      exact List.forall_mem_cons.2 ⟨h.1, ih h.2.2⟩

theorem sound_enclose {opening closing : String} {l : Layout} :
    (enclose opening l closing).Sound ↔ l.Sound := by
  simp [enclose, Piece.isFault]

theorem sound_connect {word : String} {ls : List Layout} (h : (connect word ls).Sound) :
    ∀ l ∈ ls, l.Sound := by
  intro l hl
  by_cases hempty : l = []
  · rw [hempty]
    exact sound_nil
  · have hmem : l ∈ ls.filter (!·.isEmpty) := by
      simp [hl, hempty]
    rw [connect] at h
    split at h
    · rename_i hnil
      rw [hnil] at hmem
      exact absurd hmem (List.not_mem_nil)
    · rename_i parts hparts
      exact sound_join (sound_enclose.1 h) l hmem

theorem sound_ofRecord {ls : List Layout} (h : (ofRecord ls).Sound) : ∀ l ∈ ls, l.Sound := by
  unfold ofRecord at h
  split at h
  · simpa using h
  · exact sound_connect h

/-! ## Layouts and what is written for them -/

variable (stem) in
/-- A layout is written as the text that something else gives, with the same parameters after
it. -/
structure IsWrittenAs (l : Layout) (write : Params → String × Params) : Prop where
  /-- The text is the same. -/
  chars : ∀ p, l.charsAt stem p = (write p).1.toList
  /-- The parameters are the same. -/
  after : ∀ p, l.paramsAfter stem p = (write p).2

end Layout

namespace Formula

variable {assumed : List Char → Bool} {stem : String}

open Grammar Layout

variable (assumed stem) in
/-- A layout says what a formula says. -/
structure Describes (f : Formula) (l : Layout) : Prop where
  /-- The same parameters are bound. -/
  after : ∀ p, (f.valueAt assumed stem p).2 = l.paramsAfter stem p
  /-- What says nothing is left out. -/
  absent : ∀ p, (f.valueAt assumed stem p).1 = none → l = []
  /-- What is written is read as a condition that holds just when the formula does. -/
  present : ∀ p value, (f.valueAt assumed stem p).1 = some value →
    l ≠ [] ∧ IsCondition assumed (l.charsAt stem p) value

/-! ## Single formulas -/

theorem describes_absent : Describes assumed stem .absent [] where
  after := fun _ => rfl
  absent := fun _ _ => rfl
  present := nofun

theorem ne_nil_of_isPredicate {l : Layout} {p : Params} (h : IsPredicate (l.charsAt stem p)) :
    l ≠ [] := by
  rintro rfl
  obtain ⟨front, t, rest, hlex, -⟩ := h
  simp at hlex

theorem valueAt_atom (predicate : Predicate) (p : Params) :
    valueAt assumed stem (.atom predicate) p =
      (some (holds assumed (Text.trimChars Text.isBlank (predicate.write stem p).1.toList)),
        (predicate.write stem p).2) := rfl

/-- A layout that is always written as a predicate. -/
theorem describes_atom {predicate : Predicate} {l : Layout}
    (hwritten : l.IsWrittenAs stem (predicate.write stem))
    (h : ∀ p, IsPredicate (l.charsAt stem p)) : Describes assumed stem (.atom predicate) l where
  after := fun p => (hwritten.after p).symm
  absent := nofun
  present := by
    rintro p value hvalue
    rw [valueAt_atom, ← hwritten.chars p] at hvalue
    rw [← Option.some.inj hvalue]
    exact ⟨ne_nil_of_isPredicate (h p), (h p).factor.term.condition⟩

theorem isPredicate_falsehood : IsPredicate "0=1".toList :=
  ⟨[], .word ['0'], [.mark '=', .word ['1']], by decide, by simp, by decide, by decide⟩

/-- What never holds is written as a predicate that does not hold. -/
theorem describes_never : Describes assumed stem .never [.text "0=1"] where
  after := fun _ => rfl
  absent := nofun
  present := by
    rintro p value h
    obtain rfl := Option.some.inj h
    exact ⟨nofun, isPredicate_falsehood.factor.term.condition⟩

/-! ## Formulas that are combined -/

theorem valuesAt_cons (f : Formula) (fs : List Formula) (p : Params) :
    valuesAt assumed stem (f :: fs) p =
      ((f.valueAt assumed stem p).1.toList ++
        (valuesAt assumed stem fs (f.valueAt assumed stem p).2).1,
      (valuesAt assumed stem fs (f.valueAt assumed stem p).2).2) := by
  rw [valuesAt]

/-- The layouts that are not left out say what the formulas that say something say. -/
theorem describes_present {fs : List Formula} {ls : List Layout}
    (h : List.Forall₂ (Describes assumed stem) fs ls) (p : Params) :
    (valuesAt assumed stem fs p).2 = paramsAfter stem ls.flatten p ∧
      List.Forall₂ (IsCondition assumed) (textsAt stem (ls.filter (!·.isEmpty)) p)
        (valuesAt assumed stem fs p).1 := by
  induction h generalizing p with
  | nil => exact ⟨rfl, .nil⟩
  | @cons f l fs ls hfirst hrest ih =>
    have hafter := hfirst.after p
    obtain ⟨hlast, hothers⟩ := ih (l.paramsAfter stem p)
    rw [valuesAt_cons, hafter, List.flatten_cons, paramsAfter_append]
    refine ⟨hlast, ?_⟩
    cases hvalue : (f.valueAt assumed stem p).1 with
    | none =>
      obtain rfl := hfirst.absent p hvalue
      exact hothers
    | some value =>
      obtain ⟨hne, hcondition⟩ := hfirst.present p value hvalue
      have hfilter : (l :: ls).filter (!·.isEmpty) = l :: ls.filter (!·.isEmpty) := by
        simp [hne]
      rw [hfilter]
      exact .cons hcondition hothers

theorem valueAt_connected (connective : Connective) (fs : List Formula) (p : Params) :
    valueAt assumed stem (.connected connective fs) p =
      (if (valuesAt assumed stem fs p).1.isEmpty then none
        else some (connective.value (valuesAt assumed stem fs p).1),
      (valuesAt assumed stem fs p).2) := by
  rw [valueAt]

/-- What is connected, given the texts of all that is connected. -/
theorem describes_connected (connective : Connective) {fs : List Formula} {l : Layout}
    (parts : List Layout)
    (hafter : ∀ p, (valuesAt assumed stem fs p).2 = l.paramsAfter stem p)
    (hlength : ∀ p, (valuesAt assumed stem fs p).1.length = parts.length)
    (hnil : parts = [] → l = [])
    (hpresent : parts ≠ [] → l ≠ [] ∧ ∀ p, IsCondition assumed (l.charsAt stem p)
      (connective.value (valuesAt assumed stem fs p).1)) :
    Describes assumed stem (.connected connective fs) l where
  after := by
    intro p
    rw [valueAt_connected, hafter]
  absent := by
    intro p h
    rw [valueAt_connected] at h
    refine hnil (List.length_eq_zero_iff.1 ?_)
    rw [← hlength p, List.length_eq_zero_iff]
    simpa using h
  present := by
    intro p value h
    rw [valueAt_connected] at h
    have hvalues : (valuesAt assumed stem fs p).1 ≠ [] := by
      intro hvalues
      simp [hvalues] at h
    have hparts : parts ≠ [] := by
      intro hparts
      refine hvalues (List.length_eq_zero_iff.1 ?_)
      rw [hlength p, hparts]
      rfl
    obtain rfl : connective.value (valuesAt assumed stem fs p).1 = value := by
      simpa [hvalues] using h
    exact ⟨(hpresent hparts).1, (hpresent hparts).2 p⟩

theorem textsAt_length (ls : List Layout) (p : Params) : (textsAt stem ls p).length = ls.length := by
  induction ls generalizing p with
  | nil => rfl
  | cons l rest ih => simp [textsAt, ih]

/-- Layouts in parentheses with a connective between them. -/
theorem describes_connect (connective : Connective) {fs : List Formula} {ls : List Layout}
    (h : List.Forall₂ (Describes assumed stem) fs ls) :
    Describes assumed stem (.connected connective fs) (connect connective.word ls) := by
  -- what is left out binds nothing
  have hflatten : (ls.filter (!·.isEmpty)).flatten = ls.flatten := List.flatten_filter_not_isEmpty
  refine describes_connected connective (ls.filter (!·.isEmpty)) ?_ ?_ ?_ ?_
  · intro p
    rw [(describes_present h p).1, ← hflatten]
    rw [connect]
    split
    · rename_i hnil
      rw [hnil]
      rfl
    · rw [paramsAfter_enclose, paramsAfter_join]
  · intro p
    rw [← (describes_present h p).2.length_eq, textsAt_length]
  · intro hnil
    simp only [connect, hnil]
  · intro hne
    have hconnect : connect connective.word ls =
        enclose "(" (join (") " ++ connective.word ++ " (") (ls.filter (!·.isEmpty))) ")" := by
      rw [connect]
      split
      · rename_i hnil
        exact absurd hnil hne
      · rfl
    rw [hconnect]
    refine ⟨nofun, fun p => ?_⟩
    rw [charsAt_enclose, charsAt_join]
    exact isCondition_connected connective (describes_present h p).2 (textsAt_ne_nil hne p)

/-- A denied layout in parentheses. -/
theorem describes_negation {f : Formula} {l : Layout} (h : Describes assumed stem f l) :
    Describes assumed stem (.negation f)
      (if l.isEmpty then [] else enclose "NOT (" l ")") where
  after := by
    intro p
    rw [valueAt, h.after p]
    split
    · rename_i hempty
      rw [List.isEmpty_iff.1 hempty]
    · rw [paramsAfter_enclose]
  absent := by
    intro p hvalue
    rw [valueAt] at hvalue
    have hl := h.absent p (Option.map_eq_none_iff.1 hvalue)
    simp [hl]
  present := by
    intro p value hvalue
    rw [valueAt] at hvalue
    obtain ⟨inner, hinner, rfl⟩ := Option.map_eq_some_iff.1 hvalue
    obtain ⟨hne, hcondition⟩ := h.present p inner hinner
    have hempty : l.isEmpty = false := by simpa using hne
    rw [hempty, if_neg Bool.false_ne_true, charsAt_enclose]
    exact ⟨nofun, hcondition.denied.term.condition⟩

/-- The entries of a mapping; a single one stands without parentheses. -/
theorem describes_record {fs : List Formula} {ls : List Layout}
    (h : List.Forall₂ (Describes assumed stem) fs ls) :
    Describes assumed stem (.connected .and fs) (ofRecord ls) := by
  unfold ofRecord
  split
  · rename_i l
    obtain ⟨f, hf, rfl⟩ : ∃ f, Describes assumed stem f l ∧ fs = [f] := by
      cases h with
      | cons hfirst hrest =>
        cases hrest
        exact ⟨_, hfirst, rfl⟩
    have hvalues (p : Params) : valuesAt assumed stem [f] p =
        ((f.valueAt assumed stem p).1.toList, (f.valueAt assumed stem p).2) := by
      rw [valuesAt_cons, valuesAt]
      simp
    constructor
    · intro p
      rw [valueAt_connected, hvalues]
      exact hf.after p
    · intro p hnone
      rw [valueAt_connected, hvalues] at hnone
      refine hf.absent p ?_
      cases hvalue : (f.valueAt assumed stem p).1 with
      | none => rfl
      | some value => simp [hvalue] at hnone
    · intro p value hsome
      rw [valueAt_connected, hvalues] at hsome
      refine hf.present p value ?_
      cases hvalue : (f.valueAt assumed stem p).1 with
      | none => simp [hvalue] at hsome
      | some found => simpa [hvalue, Connective.value] using hsome
  · exact describes_connect .and h

/-- Predicates with a connective between them. -/
theorem describes_join (connective : Connective) {predicates : List Predicate} {ls : List Layout}
    (hne : ls ≠ [])
    (hwritten : List.Forall₂ (fun predicate l => l.IsWrittenAs stem (predicate.write stem))
      predicates ls)
    (h : ∀ l ∈ ls, ∀ p, IsPredicate (l.charsAt stem p)) :
    Describes assumed stem (.connected connective (predicates.map .atom))
      (join (" " ++ connective.word ++ " ") ls) := by
  have hfactors : ∀ p, (valuesAt assumed stem (predicates.map .atom) p).2 =
      paramsAfter stem ls.flatten p ∧
        List.Forall₂ (IsFactor assumed) (textsAt stem ls p)
          (valuesAt assumed stem (predicates.map .atom) p).1 := by
    clear hne
    induction hwritten with
    | nil => exact fun p => ⟨rfl, .nil⟩
    | @cons predicate l predicates ls hfirst hothers ih =>
      intro p
      obtain ⟨hl, hrest⟩ := List.forall_mem_cons.1 h
      obtain ⟨hlast, hvalues⟩ := ih hrest (l.paramsAfter stem p)
      rw [List.map_cons, valuesAt_cons, valueAt_atom, ← hfirst.chars p, ← hfirst.after p,
        List.flatten_cons, paramsAfter_append]
      exact ⟨hlast, .cons (hl p).factor hvalues⟩
  refine describes_connected connective ls ?_ ?_ ?_ ?_
  · intro p
    rw [(hfactors p).1, paramsAfter_join]
  · intro p
    rw [← (hfactors p).2.length_eq, textsAt_length]
  · exact fun hnil => absurd hnil hne
  · intro _
    refine ⟨?_, fun p => ?_⟩
    · obtain ⟨l, rest, rfl⟩ := List.exists_cons_of_ne_nil hne
      exact join_ne_nil (ne_nil_of_isPredicate (h l (List.mem_cons_self ..) .empty)) rest
    · rw [charsAt_join]
      exact isCondition_intercalate connective (hfactors p).2 (textsAt_ne_nil hne p)

end Formula

end SearchSql
