import Mathlib.Data.List.Forall2
import Mathlib.Data.List.Nodup
import Mathlib.Data.List.Perm.Basic
import SearchSql.Schema.Description

/-!
# Columns that are listed more than once

A server lists a column once for each of its roles. However the rows of one column stand among
those of others, it becomes one column, in the place of its first row. It is full-text content if
all of its rows say so, and otherwise it has the type of the last row that says something else. So
the order of the rows does not matter for the types as long as no column is listed as two
attributes.

## Main definitions

* `Description.Means` — the type that a server's word stands for.
* `Description.Describes` — the name and the type that a row gives.
* `Description.Merged` — the type of a column that some rows describe together.

## Main statements

* `Description.exists_step` — one row, with what was found before it.
* `Description.exists_foldlM_step` — any number of rows, by induction on them.
* `Description.ofDescription_merges` — the index that some rows describe.
-/
namespace SearchSql.Description

/-! ## Words for types -/

/-- The words that servers use, with the types that they stand for. -/
def words : List (String × ColumnType) := [
  ("field", .field), ("text", .field),
  ("string", .string), ("ordinal", .string),
  ("json", .json),
  ("integer", .integer), ("int", .integer),
  ("uint", .uint),
  ("bigint", .bigint),
  ("timestamp", .timestamp),
  ("bool", .bool),
  ("float", .float),
  ("mva", .mva), ("multi", .mva),
  ("mva64", .mva64), ("multi64", .mva64),
  ("uint_set", .uintSet),
  ("bigint_set", .bigintSet)]

/-- The type that a server's word stands for, whatever the case of its letters. -/
inductive Means (word : String) : ColumnType → Prop where
  /-- The word is one of those that servers use. -/
  | known {type : ColumnType} (h : (Text.lowerAscii word, type) ∈ words) : Means word type
  /-- Any other word stands for texts. -/
  | unknown (h : ∀ type, (Text.lowerAscii word, type) ∉ words) : Means word .string

/-- The types that are found are those of the words that servers use. -/
theorem found_eq_some_iff {word : String} {type : ColumnType} :
    (ColumnType.ofWord? word).or (synonyms.lookup word) = some type ↔ (word, type) ∈ words := by
  have htypes : ∀ t ∈ ColumnType.all, (t.word, t) ∈ words := by decide
  have hsynonyms : ∀ entry ∈ synonyms, entry ∈ words := by decide
  have hwords : ∀ entry ∈ words,
      (ColumnType.ofWord? entry.1).or (synonyms.lookup entry.1) = some entry.2 := by
    decide
  constructor
  · intro h
    cases hword : ColumnType.ofWord? word with
    | some t =>
      rw [hword, Option.some_or, Option.some.injEq] at h
      subst h
      rw [← ColumnType.word_eq_of_ofWord? hword]
      exact htypes t (by cases t <;> decide)
    | none =>
      rw [hword, Option.none_or, List.lookup_eq_some_iff] at h
      obtain ⟨before, behind, heq, -⟩ := h
      exact hsynonyms _ (heq ▸ List.mem_append_right _ (List.mem_cons_self ..))
  · exact hwords (word, type)

/-- **Every word stands for one type.** -/
theorem means_iff {word : String} {type : ColumnType} :
    Means word type ↔ typeOf word = type := by
  constructor
  · rintro (h | h)
    · simp [typeOf, found_eq_some_iff.2 h]
    · have hnone : (ColumnType.ofWord? (Text.lowerAscii word)).or
          (synonyms.lookup (Text.lowerAscii word)) = none :=
        Option.eq_none_iff_forall_ne_some.2 fun t ht => h t (found_eq_some_iff.1 ht)
      simp [typeOf, hnone]
  · rintro rfl
    cases hfound : (ColumnType.ofWord? (Text.lowerAscii word)).or
        (synonyms.lookup (Text.lowerAscii word)) with
    | some t =>
      have htype : typeOf word = t := by simp [typeOf, hfound]
      rw [htype]
      exact .known (found_eq_some_iff.1 hfound)
    | none =>
      have htype : typeOf word = .string := by simp [typeOf, hfound]
      rw [htype]
      refine .unknown fun t ht => ?_
      rw [found_eq_some_iff.2 ht] at hfound
      cases hfound

/-! ## Rows -/

/-- A row gives a name and a value that tells the type: under two keys, or as the first two items
of a sequence, which may be a text. The value is one that can be written out. -/
inductive Gives : Value → String → Value → Prop where
  /-- A mapping. -/
  | mapping {data : Mapping} {name : String} {word : Value}
    (hname : data.named? "Field" = some (.text name)) (hword : data.named? "Type" = some word)
    (hwritable : word.isWritable = true) : Gives (.map data) name word
  /-- A list. -/
  | list (name : String) (word : Value) (rest : List Value) (hwritable : word.isWritable = true) :
    Gives (.list (.text name :: word :: rest)) name word
  /-- A sequence of fixed length. -/
  | tuple (name : String) (word : Value) (rest : List Value) (hwritable : word.isWritable = true) :
    Gives (.tuple (.text name :: word :: rest)) name word
  /-- The characters of a text. -/
  | characters (name word : Char) (rest : List Char) :
    Gives (.text (String.ofList (name :: word :: rest))) (String.singleton name)
      (.text (String.singleton word))

/-- A row gives a column a name and a type. -/
def Describes (row : Value) (entry : String × ColumnType) : Prop :=
  ∃ word, Gives row entry.1 word ∧ Means word.display entry.2

/-- A row that gives a name and a value has them as its cells. -/
theorem Gives.cells_eq {row : Value} {name : String} {word : Value} (h : Gives row name word) :
    cells row = .ok (.text name, word) := by
  cases h with
  | mapping hname hword => simp [cells, cell, hname, hword]; rfl
  | list => rfl
  | tuple => rfl
  | characters => simp [cells, item, item.fromItems]; rfl

theorem Gives.shown_eq {row : Value} {name : String} {word : Value} (h : Gives row name word) :
    word.shown = .ok word.display := by
  cases h with
  | mapping _ _ hwritable | list _ _ _ hwritable | tuple _ _ _ hwritable =>
    exact if_pos hwritable
  | characters => rfl

theorem Gives.exists_describes {row : Value} {name : String} {word : Value}
    (h : Gives row name word) : ∃ entry, Describes row entry :=
  ⟨(name, typeOf word.display), word, h, means_iff.2 rfl⟩

/-! ## The columns found so far -/

variable {found : Found} {name : String} {column : Column}

namespace Found

theorem isSome_get?_iff :
    (get? (.text name) found).isSome = true ↔ .text name ∈ found.map Prod.fst := by
  induction found with
  | nil => simp [get?]
  | cons pair rest ih =>
    obtain ⟨key, other⟩ := pair
    by_cases hkey : key = .text name
    · simp [get?, hkey]
    · simp [get?, hkey, Ne.symm hkey, ih]

/-- A new name is put at the end. -/
theorem put_of_notMem (h : .text name ∉ found.map Prod.fst) (column : Column) :
    found.put (.text name) column = found ++ [(.text name, column)] := by
  induction found with
  | nil => rfl
  | cons pair rest ih =>
    obtain ⟨key, other⟩ := pair
    simp only [List.map_cons, List.mem_cons, not_or] at h
    have hkey : key ≠ .text name := Ne.symm h.1
    simp [put, hkey, ih h.2]

/-- A known name keeps its place. -/
theorem map_fst_put (h : .text name ∈ found.map Prod.fst) (column : Column) :
    (found.put (.text name) column).map Prod.fst = found.map Prod.fst := by
  induction found with
  | nil => cases h
  | cons pair rest ih =>
    obtain ⟨key, other⟩ := pair
    by_cases hkey : key = .text name
    · simp [put, hkey]
    · have hrest : .text name ∈ rest.map Prod.fst := by simpa [Ne.symm hkey] using h
      simp [put, hkey, ih hrest]

/-- What is found after a column is put in: the column, and the columns with other names. -/
theorem mem_put (hnodup : (found.map Prod.fst).Nodup) {pair : Value × Column}
    (h : pair ∈ found.put (.text name) column) :
    pair = (.text name, column) ∨ pair ∈ found ∧ pair.1 ≠ .text name := by
  induction found with
  | nil => exact .inl (List.mem_singleton.1 h)
  | cons first rest ih =>
    obtain ⟨key, other⟩ := first
    rw [List.map_cons, List.nodup_cons] at hnodup
    by_cases hkey : key = .text name
    · subst hkey
      simp only [put, Value.sameKey_text_iff, if_true, List.mem_cons] at h
      rcases h with rfl | hrest
      · exact .inl rfl
      · refine .inr ⟨List.mem_cons_of_mem _ hrest, fun heq => ?_⟩
        have hfst := List.mem_map_of_mem (f := Prod.fst) hrest
        rw [heq] at hfst
        exact hnodup.1 hfst
    · simp only [put, Value.sameKey_text_iff, hkey, if_false, List.mem_cons] at h
      rcases h with rfl | hrest
      · exact .inr ⟨List.mem_cons_self .., hkey⟩
      · exact (ih hnodup.2 hrest).imp_right fun hold => ⟨List.mem_cons_of_mem _ hold.1, hold.2⟩

end Found

/-! ## One column from several rows -/

/-- The type of the column of a name that some rows describe. -/
inductive Merged (entries : List (String × ColumnType)) (name : String) : ColumnType → Prop where
  /-- All rows of the name say that it is full-text content. -/
  | content (hmem : (name, .field) ∈ entries)
    (hall : ∀ type, (name, type) ∈ entries → type = .field) : Merged entries name .field
  /-- The last row of the name that says something else. -/
  | stored {type : ColumnType} (before behind : List (String × ColumnType))
    (heq : entries = before ++ (name, type) :: behind) (hne : type ≠ .field)
    (hlast : ∀ other, (name, other) ∈ behind → other = .field) : Merged entries name type

namespace Merged

variable {entries : List (String × ColumnType)} {type : ColumnType}

theorem mem (h : Merged entries name type) : (name, type) ∈ entries := by
  cases h with
  | content hmem => exact hmem
  | stored before behind heq => exact heq ▸ List.mem_append_right _ (List.mem_cons_self ..)

/-- A row of another name does not matter, and neither does one that adds full-text content. -/
theorem snoc (h : Merged entries name type) {entry : String × ColumnType}
    (hentry : entry.1 = name → entry.2 = .field) : Merged (entries ++ [entry]) name type := by
  have hnew : ∀ other, (name, other) = entry → other = .field := by
    rintro other rfl
    exact hentry rfl
  cases h with
  | content hmem hall =>
    refine .content (List.mem_append_left _ hmem) fun other hother => ?_
    rcases List.mem_append.1 hother with hold | hlast
    · exact hall other hold
    · exact hnew other (List.mem_singleton.1 hlast)
  | stored before behind heq hne hlast =>
    refine .stored before (behind ++ [entry]) (by simp [heq]) hne fun other hother => ?_
    rcases List.mem_append.1 hother with hold | hadded
    · exact hlast other hold
    · exact hnew other (List.mem_singleton.1 hadded)

/-- An attribute that is added last counts. -/
theorem last (entries : List (String × ColumnType)) (hne : type ≠ .field) :
    Merged (entries ++ [(name, type)]) name type :=
  .stored entries [] rfl hne fun _ h => nomatch h

/-- The first row of a name tells its type. -/
theorem first (h : name ∉ entries.map Prod.fst) (type : ColumnType) :
    Merged (entries ++ [(name, type)]) name type := by
  by_cases hfield : type = .field
  · subst hfield
    refine .content (by simp) fun other hother => ?_
    rcases List.mem_append.1 hother with hold | hlast
    · exact absurd (List.mem_map_of_mem (f := Prod.fst) hold) h
    · simpa using hlast
  · exact last entries hfield

end Merged

/-- No name is listed as two attributes. -/
def OneAttributeEach (entries : List (String × ColumnType)) : Prop :=
  ∀ name, (entries.filter fun entry => entry.1 == name && entry.2 != .field).length ≤ 1

theorem OneAttributeEach.eq {entries : List (String × ColumnType)} (h : OneAttributeEach entries)
    {type other : ColumnType} (htype : (name, type) ∈ entries) (hother : (name, other) ∈ entries)
    (hne : type ≠ .field) (hne' : other ≠ .field) : other = type := by
  have hlength := h name
  have hin := List.mem_filter (p := fun e => e.1 == name && e.2 != .field) |>.2
    ⟨htype, by simpa using hne⟩
  have hin' := List.mem_filter (p := fun e => e.1 == name && e.2 != .field) |>.2
    ⟨hother, by simpa using hne'⟩
  generalize (entries.filter fun e => e.1 == name && e.2 != .field) = rows at hlength hin hin'
  match rows, hlength with
  | [entry], _ =>
    have heq := (List.mem_singleton.1 hin').trans (List.mem_singleton.1 hin).symm
    exact congrArg Prod.snd heq

/-- **The order does not matter if no name is listed as two attributes.** -/
theorem Merged.eq_of_perm {entries others : List (String × ColumnType)} {type other : ColumnType}
    (hone : OneAttributeEach entries) (hperm : others.Perm entries) (h : Merged entries name type)
    (hother : Merged others name other) : other = type := by
  have hmem := hperm.mem_iff.2 h.mem
  have hmem' := hperm.mem_iff.1 hother.mem
  cases h with
  | content _ hall => exact hall other hmem'
  | stored _ _ _ hne =>
    cases hother with
    | content _ hall => exact (hall type hmem).symm
    | stored _ _ _ hne' => exact hone.eq (hperm.mem_iff.1 hmem) hmem' hne hne'

/-! ## What a row adds -/

/-- What is found in some rows: a column for each name, in the order in which the names come
first, with the type that the rows of the name describe. -/
structure Holds (entries : List (String × ColumnType)) (found : Found) : Prop where
  /-- The names. -/
  names : found.map Prod.fst = (entries.map Prod.fst).eraseDups.map Value.text
  /-- The columns. -/
  columns : ∀ pair ∈ found,
    pair.1 = .text pair.2.name ∧ Merged entries pair.2.name pair.2.type

/-- A list of which each item is kept once has no item twice. -/
theorem nodup_eraseDups : ∀ names : List String, names.eraseDups.Nodup
  | [] => by simp
  | name :: rest => by
    rw [List.eraseDups_cons, List.nodup_cons]
    exact ⟨by simp, nodup_eraseDups _⟩
termination_by names => names.length
decreasing_by exact Nat.lt_succ_of_le (List.length_filter_le ..)

namespace Holds

variable {entries : List (String × ColumnType)}

theorem nil : Holds [] [] := ⟨rfl, fun _ h => nomatch h⟩

theorem mem_iff (h : Holds entries found) (name : String) :
    .text name ∈ found.map Prod.fst ↔ name ∈ entries.map Prod.fst := by
  rw [h.names, List.mem_map_of_injective fun _ _ => Value.text.inj, List.mem_eraseDups]

theorem nodup (h : Holds entries found) : (found.map Prod.fst).Nodup := by
  rw [h.names]
  exact List.Nodup.map (fun _ _ => Value.text.inj) (nodup_eraseDups _)

/-- A row of a known name that changes nothing. -/
theorem keep (h : Holds entries found) {entry : String × ColumnType}
    (hknown : entry.1 ∈ entries.map Prod.fst) (hfield : entry.2 = .field) :
    Holds (entries ++ [entry]) found := by
  constructor
  · rw [h.names, List.map_append, List.eraseDups_append]
    simp [List.removeAll, hknown]
  · intro pair hpair
    obtain ⟨heq, hmerged⟩ := h.columns pair hpair
    exact ⟨heq, hmerged.snoc fun _ => hfield⟩

/-- A row that tells the type of a column. -/
theorem put (h : Holds entries found) {type : ColumnType}
    (hnew : name ∈ entries.map Prod.fst → type ≠ .field) :
    Holds (entries ++ [(name, type)]) (found.put (.text name) ⟨name, type⟩) := by
  constructor
  · rw [List.map_append, List.eraseDups_append]
    by_cases hknown : name ∈ entries.map Prod.fst
    · rw [Found.map_fst_put ((h.mem_iff name).2 hknown), h.names]
      simp [List.removeAll, hknown]
    · rw [Found.put_of_notMem (mt (h.mem_iff name).1 hknown), List.map_append, h.names]
      simp [List.removeAll, List.eraseDups_cons, hknown]
  · intro pair hpair
    rcases Found.mem_put h.nodup hpair with rfl | ⟨hold, hne⟩
    · refine ⟨rfl, ?_⟩
      by_cases hknown : name ∈ entries.map Prod.fst
      · exact .last entries (hnew hknown)
      · exact .first hknown type
    · obtain ⟨heq, hmerged⟩ := h.columns pair hold
      exact ⟨heq, hmerged.snoc fun hname => absurd (heq.trans (congrArg Value.text hname.symm)) hne⟩

end Holds

/-- **One row**: it adds a column, replaces the type of one, or changes nothing. -/
theorem exists_step {entries : List (String × ColumnType)} (h : Holds entries found) {row : Value}
    {entry : String × ColumnType} (hrow : Describes row entry) :
    ∃ next, step found row = .ok next ∧ Holds (entries ++ [entry]) next := by
  obtain ⟨name, type⟩ := entry
  obtain ⟨word, hgives, hmeans⟩ := hrow
  have hstep : step found row =
      if (found.get? (.text name)).isSome && type == .field then .ok found
      else .ok (found.put (.text name) ⟨name, type⟩) := by
    obtain rfl : typeOf word.display = type := means_iff.1 hmeans
    simp only [step, hgives.cells_eq, hgives.shown_eq, bind, Except.bind]
    rfl
  rw [hstep]
  by_cases hkeep : name ∈ entries.map Prod.fst ∧ type = .field
  · refine ⟨found, if_pos ?_, h.keep hkeep.1 hkeep.2⟩
    simpa [hkeep.2] using Found.isSome_get?_iff.2 ((h.mem_iff name).2 hkeep.1)
  · refine ⟨found.put (.text name) ⟨name, type⟩, if_neg fun hboth => hkeep ?_,
      h.put fun hknown => not_and.1 hkeep hknown⟩
    rw [Bool.and_eq_true, Found.isSome_get?_iff, h.mem_iff, beq_iff_eq] at hboth
    exact hboth

/-- **Any number of rows**, by induction on them: what they describe together is found. -/
theorem exists_foldlM_step {rows : List Value} {entries : List (String × ColumnType)}
    (h : List.Forall₂ Describes rows entries) {before : List (String × ColumnType)} {found : Found}
    (hfound : Holds before found) :
    ∃ all, rows.foldlM step found = .ok all ∧ Holds (before ++ entries) all := by
  induction h generalizing before found with
  | nil => exact ⟨found, rfl, by rwa [List.append_nil]⟩
  | cons hrow _ ih =>
    obtain ⟨next, hstep, hnext⟩ := exists_step hfound hrow
    obtain ⟨all, hrun, hall⟩ := ih hnext
    refine ⟨all, ?_, by rwa [List.append_cons]⟩
    rw [List.foldlM_cons, hstep]
    exact hrun

/-! ## The index -/

/-- An index has the columns that some rows describe. -/
structure Summarizes (index : Index) (entries : List (String × ColumnType)) : Prop where
  /-- Each name is there once, in the order in which the names come first. -/
  names : index.columnNames = (entries.map Prod.fst).eraseDups
  /-- A column has the type that its rows describe together. -/
  types : ∀ column ∈ index.columns, Merged entries column.name column.type

namespace Summarizes

variable {index other : Index} {entries others : List (String × ColumnType)}

/-- A name that some row gives is found, with the type that the rows describe together. -/
theorem exists_column? (h : Summarizes index entries) (hname : name ∈ entries.map Prod.fst) :
    ∃ type, index.column? name = some ⟨name, type⟩ ∧ Merged entries name type := by
  rw [← List.mem_eraseDups, ← h.names] at hname
  obtain ⟨listed, hlisted, hlistedName⟩ := List.mem_map.1 hname
  have hsome : (index.column? name).isSome = true :=
    List.find?_isSome.2 ⟨listed, hlisted, beq_iff_eq.2 hlistedName⟩
  obtain ⟨⟨found, type⟩, hfound⟩ := Option.isSome_iff_exists.1 hsome
  have hfoundName := List.find?_some (p := fun column : Column => column.name == name) hfound
  obtain rfl : found = name := beq_iff_eq.1 hfoundName
  exact ⟨type, hfound, h.types _ (List.mem_of_find?_eq_some hfound)⟩

/-- Any other name is not found. -/
theorem column?_eq_none (h : Summarizes index entries) (hname : name ∉ entries.map Prod.fst) :
    index.column? name = none := by
  rw [← List.mem_eraseDups, ← h.names] at hname
  refine List.find?_eq_none.2 fun column hcolumn heq => hname ?_
  exact List.mem_map.2 ⟨column, hcolumn, beq_iff_eq.1 heq⟩

/-- Indexes agree if they have columns from the same rows, with one attribute for each name. -/
theorem column?_congr (h : Summarizes index entries) (hother : Summarizes other others)
    (hone : OneAttributeEach entries) (hperm : others.Perm entries) (name : String) :
    other.column? name = index.column? name := by
  by_cases hname : name ∈ entries.map Prod.fst
  · obtain ⟨type, hfound, hmerged⟩ := h.exists_column? hname
    obtain ⟨type', hfound', hmerged'⟩ :=
      hother.exists_column? ((hperm.map Prod.fst).mem_iff.2 hname)
    rw [hfound, hfound', hmerged.eq_of_perm hone hperm hmerged']
  · rw [h.column?_eq_none hname,
      hother.column?_eq_none (mt (hperm.map Prod.fst).mem_iff.1 hname)]

end Summarizes

/-- The index that some rows describe. -/
theorem exists_ofDescription (label : String) {rows : List Value}
    {entries : List (String × ColumnType)} (h : List.Forall₂ Describes rows entries) :
    ∃ index, Index.ofDescription (.text label) (.list rows) = .ok index ∧ index.name = label ∧
      Summarizes index entries := by
  obtain ⟨found, hrun, hfound⟩ := exists_foldlM_step h Holds.nil
  refine ⟨⟨label, found.map Prod.snd⟩, ?_, rfl, ?_, ?_⟩
  · simp only [Index.ofDescription, Value.elements?, hrun, bind, Except.bind]
    rfl
  · refine List.map_injective_iff.2 (fun _ _ => Value.text.inj) ?_
    refine Eq.trans ?_ hfound.names
    rw [Index.columnNames, List.map_map, List.map_map]
    exact List.map_congr_left fun pair hpair => (hfound.columns pair hpair).1.symm
  · intro column hcolumn
    obtain ⟨pair, hpair, rfl⟩ := List.mem_map.1 hcolumn
    exact (hfound.columns pair hpair).2

/-- **Rows become columns**: rows that give names describe an index in which each name is there
once, in the order in which the names come first. A column is full-text content if all of its rows
say so, and has the type of the last row that says something else otherwise. If no name is listed
as two attributes, the rows may come in any order. -/
theorem ofDescription_merges (label : String) {rows : List Value}
    (h : ∀ row ∈ rows, ∃ name word, Gives row name word) :
    ∃ index entries, Index.ofDescription (.text label) (.list rows) = .ok index ∧
      List.Forall₂ Describes rows entries ∧ index.name = label ∧
      index.columnNames = (entries.map Prod.fst).eraseDups ∧ index.columnNames.Nodup ∧
      (∀ column ∈ index.columns, Merged entries column.name column.type) ∧
      (OneAttributeEach entries → ∀ others : List Value, others.Perm rows →
        ∃ other, Index.ofDescription (.text label) (.list others) = .ok other ∧
          ∀ name, other.column? name = index.column? name) := by
  obtain ⟨entries, hentries⟩ : ∃ entries, List.Forall₂ Describes rows entries := by
    induction rows with
    | nil => exact ⟨[], .nil⟩
    | cons row rest ih =>
      obtain ⟨name, word, hgives⟩ := h row (List.mem_cons_self ..)
      obtain ⟨entry, hentry⟩ := hgives.exists_describes
      obtain ⟨entries, hentries⟩ := ih fun other hother => h other (List.mem_cons_of_mem _ hother)
      exact ⟨entry :: entries, .cons hentry hentries⟩
  obtain ⟨index, hindex, hname, hsummary⟩ := exists_ofDescription label hentries
  refine ⟨index, entries, hindex, hentries, hname, hsummary.names, ?_, hsummary.types, ?_⟩
  · exact hsummary.names ▸ nodup_eraseDups _
  · intro hone others hperm
    obtain ⟨moved, hmoved, hentriesPerm⟩ := List.perm_comp_forall₂ hperm hentries
    obtain ⟨other, hother, -, hsame⟩ := exists_ofDescription label hmoved
    exact ⟨other, hother, hsummary.column?_congr hsame hone hentriesPerm⟩

/-- Rows of all forms: a title that is both content and a text to show, and two more columns. -/
def shelfRows : List Value := [
  .map [(.text "Field", .text "title"), (.text "Type", .text "Text")],
  .tuple [.text "title", .text "STRING"],
  .list [.text "id", .text "BigInt", .text ""],
  .tuple [.text "title", .text "field"],
  .text "xy"]

theorem ofDescription_merges_shelfRows :
    (∀ row ∈ shelfRows, ∃ name word, Gives row name word) ∧
    ∃ index entries, Index.ofDescription (.text "shelf") (.list shelfRows) = .ok index ∧
      List.Forall₂ Describes shelfRows entries ∧ index.name = "shelf" ∧
      index.columnNames = (entries.map Prod.fst).eraseDups ∧ index.columnNames.Nodup ∧
      (∀ column ∈ index.columns, Merged entries column.name column.type) ∧
      (OneAttributeEach entries → ∀ others : List Value, others.Perm shelfRows →
        ∃ other, Index.ofDescription (.text "shelf") (.list others) = .ok other ∧
          ∀ name, other.column? name = index.column? name) :=
  have hrows : ∀ row ∈ shelfRows, ∃ name word, Gives row name word := by
    intro row hrow
    simp only [shelfRows, List.mem_cons, List.not_mem_nil, or_false] at hrow
    rcases hrow with rfl | rfl | rfl | rfl | rfl
    · exact ⟨"title", .text "Text", .mapping rfl rfl rfl⟩
    · exact ⟨_, _, .tuple _ _ _ rfl⟩
    · exact ⟨_, _, .list _ _ _ rfl⟩
    · exact ⟨_, _, .tuple _ _ _ rfl⟩
    · exact ⟨_, _, .characters 'x' 'y' []⟩
  ⟨hrows, ofDescription_merges "shelf" hrows⟩

/-- The title keeps the type of the text. -/
example : Index.ofDescription (.text "shelf") (.list shelfRows) =
    .ok ⟨"shelf", [⟨"title", .string⟩, ⟨"id", .bigint⟩, ⟨"x", .string⟩]⟩ := by
  decide

end SearchSql.Description
