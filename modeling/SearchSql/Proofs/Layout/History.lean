import SearchSql.Proofs.Layout.Numbers

/-!
# Bindings that are overwritten

A generated name is made of the number of the parameters that are bound, whatever their
names are. It may have been supplied before, and then the supplied value is lost; and a name
that is supplied later may take the place of a generated one. These two are the only ways:
generated names never meet each other unless a supplied name came between.

## Main definitions

* `History` — the parameters, with what was supplied and what was generated so far.
* `History.Keeps` — a step that overwrites nothing.
* `History.Apart` — a step at which no supplied name meets a generated one.
* `Layout.Throughout` — what holds of every step that is taken.

## Main statements

* `History.keeps_iff_apart` — one step.
* `Layout.throughout_keeps_iff` — a whole run.
-/
namespace SearchSql

namespace Mapping

theorem named?_insert (key : Value) (v : Value) (m : Mapping) (name : String) :
    (m.insert key v).named? name =
      if key.sameKey (.text name) then some v else m.named? name := by
  by_cases h : key = .text name
  · rw [h, named?_insert_self, if_pos (by simp)]
  · rw [named?_insert_of_key_ne h, if_neg (by simpa using h)]

/-- Of two mappings that are put together the second one counts. -/
theorem named?_merge (m params : Mapping) (name : String) :
    (m.merge params).named? name = ((ofPairs params).named? name).or (m.named? name) := by
  induction params using List.reverseRecOn with
  | nil => rfl
  | append_singleton params pair ih =>
    obtain ⟨key, v⟩ := pair
    rw [ofPairs] at ih ⊢
    rw [merge_append, merge_append]
    change (insert key v (m.merge params)).named? name =
      ((insert key v (merge [] params)).named? name).or (m.named? name)
    rw [named?_insert, named?_insert]
    split
    · rfl
    · exact ih

theorem text_mem_keys_insert_iff {key v : Value} {m : Mapping} {name : String} :
    .text name ∈ (m.insert key v).keys ↔ .text name = key ∨ .text name ∈ m.keys := by
  rw [← isSome_named?_iff, ← isSome_named?_iff, named?_insert]
  by_cases h : key = .text name
  · simp [h]
  · have hne : ¬ .text name = key := fun heq => h heq.symm
    simp [h, hne]

/-- A mapping has the names that were put into it. -/
theorem text_mem_keys_merge_iff {m params : Mapping} {name : String} :
    .text name ∈ (m.merge params).keys ↔ .text name ∈ params.keys ∨ .text name ∈ m.keys := by
  induction params generalizing m with
  | nil => simp [keys]
  | cons pair rest ih =>
    obtain ⟨key, v⟩ := pair
    rw [merge, ih, text_mem_keys_insert_iff, mem_keys_cons, or_left_comm, or_assoc]

end Mapping

/-- What has happened so far. -/
structure History where
  /-- The parameters. -/
  params : Params
  /-- The names that came with parameters of their own. -/
  supplied : List Value
  /-- The numbers of the names that were generated, with the values that were bound. -/
  generated : List (Nat × Value)

namespace History

variable (stem : String)

/-- Nothing has happened. -/
def start : History := ⟨.empty, [], []⟩

/-- What has happened after a piece. -/
def after (h : History) : Piece → History
  | .bind v => ⟨h.params.bind stem v, h.supplied, (h.params.size, v) :: h.generated⟩
  | .merge params => ⟨h.params.merge params, params.keys ++ h.supplied, h.generated⟩
  | _ => h

/-- A step that overwrites nothing: the next name is a new one, and parameters with their own
names leave the values under generated names as they are. -/
def Keeps (h : History) : Piece → Prop
  | .bind _ => .text (h.params.nextName stem) ∉ h.params.names
  | .merge params => ∀ entry ∈ h.generated,
    (h.params.merge params).entries.named? (Params.numbered stem entry.1) =
      h.params.entries.named? (Params.numbered stem entry.1)
  | _ => True

/-- A step at which no supplied name meets a generated one: the next name was not supplied, and
parameters with their own names have no other value for a generated one. -/
def Apart (h : History) : Piece → Prop
  | .bind _ => .text (h.params.nextName stem) ∉ h.supplied
  | .merge params => ∀ entry ∈ h.generated, ∀ w,
    (Mapping.ofPairs params).named? (Params.numbered stem entry.1) = some w → w = entry.2
  | _ => True

/-- Names are bound because they were supplied or generated, and the generated ones to their
values, with numbers below the number of parameters. -/
structure Faithful (h : History) : Prop where
  mem_names_iff : ∀ name, .text name ∈ h.params.names ↔
    .text name ∈ h.supplied ∨ ∃ entry ∈ h.generated, name = Params.numbered stem entry.1
  lt_size : ∀ entry ∈ h.generated, entry.1 < h.params.size
  named?_eq : ∀ entry ∈ h.generated,
    h.params.entries.named? (Params.numbered stem entry.1) = some entry.2

variable {stem}

theorem faithful_start : Faithful stem start where
  mem_names_iff := by simp [start, Params.names, Params.empty, Mapping.keys]
  lt_size := by simp [start]
  named?_eq := by simp [start]

/-- **A step overwrites nothing just when no supplied name meets a generated one.** -/
theorem keeps_iff_apart {h : History} (hf : h.Faithful stem) (piece : Piece) :
    h.Keeps stem piece ↔ h.Apart stem piece := by
  cases piece with
  | bind v =>
    -- the numbers in use are below the next one
    have hnumber : ¬ ∃ entry ∈ h.generated,
        h.params.nextName stem = Params.numbered stem entry.1 := by
      rintro ⟨entry, hentry, heq⟩
      have hlt := hf.lt_size entry hentry
      have hsize : h.params.size = entry.1 := Params.numbered_injective stem heq
      omega
    simp only [Keeps, Apart, hf.mem_names_iff, hnumber, or_false]
  | merge params =>
    refine forall₂_congr fun entry hentry => ?_
    change (h.params.entries.merge params).named? _ = _ ↔ _
    rw [Mapping.named?_merge, hf.named?_eq entry hentry]
    cases (Mapping.ofPairs params).named? (Params.numbered stem entry.1) <;> simp
  | text | indexes | fault => exact Iff.rfl

/-- A step that overwrites nothing keeps the history faithful. -/
theorem Faithful.after {h : History} (hf : h.Faithful stem) {piece : Piece}
    (hkeeps : h.Keeps stem piece) : (h.after stem piece).Faithful stem := by
  cases piece with
  | bind v =>
    have hsize : (h.params.bind stem v).size = h.params.size + 1 :=
      Mapping.length_insert_of_notMem hkeeps v
    refine ⟨fun name => ?_, fun entry hentry => ?_, fun entry hentry => ?_⟩
    · have hname := hf.mem_names_iff name
      simp only [Params.names] at hname
      simp only [History.after, Params.names, Params.bind, Mapping.text_mem_keys_insert_iff, hname,
        List.exists_mem_cons_iff, Value.text.injEq, Params.nextName_eq]
      exact or_left_comm
    · simp only [History.after] at hentry ⊢
      rw [hsize]
      rcases List.mem_cons.1 hentry with rfl | hentry
      · exact Nat.lt_succ_self _
      · exact Nat.lt_succ_of_lt (hf.lt_size entry hentry)
    · rcases List.mem_cons.1 hentry with rfl | hentry
      · exact Params.named?_bind_nextName stem h.params v
      · exact (Params.named?_bind_numbered v (hf.lt_size entry hentry)).trans
          (hf.named?_eq entry hentry)
  | merge params =>
    refine ⟨fun name => ?_, fun entry hentry => ?_, fun entry hentry => ?_⟩
    · have hname := hf.mem_names_iff name
      simp only [Params.names] at hname
      simp only [History.after, Params.names, Params.merge, Mapping.text_mem_keys_merge_iff, hname,
        List.mem_append, or_assoc]
    · exact Nat.lt_of_lt_of_le (hf.lt_size entry hentry) (h.params.size_le_size_merge params)
    · exact (hkeeps entry hentry).trans (hf.named?_eq entry hentry)
  | text | indexes | fault => exact hf

end History

namespace Layout

variable (stem : String)

/-- What holds of every step that is taken; a fault ends the run. -/
def Throughout (P : History → Piece → Prop) : Layout → History → Prop
  | [], _ => True
  | .fault _ :: _, _ => True
  | piece :: rest, h => P h piece ∧ Throughout P rest (h.after stem piece)

variable {stem}

/-- **A run overwrites nothing just when no supplied name meets a generated one.** -/
theorem throughout_keeps_iff {l : Layout} {h : History} (hf : h.Faithful stem) :
    l.Throughout stem (History.Keeps stem) h ↔ l.Throughout stem (History.Apart stem) h := by
  induction l generalizing h with
  | nil => exact Iff.rfl
  | cons piece l ih =>
    have hstep := History.keeps_iff_apart hf piece
    cases piece with
    | fault f => exact Iff.rfl
    | text | bind | merge | indexes =>
      simp only [Throughout, ← hstep]
      exact and_congr_right fun hkeeps => ih (hf.after hkeeps)

end Layout

end SearchSql
