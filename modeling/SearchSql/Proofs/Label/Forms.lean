import SearchSql.Proofs.Condition.Clause
import SearchSql.Proofs.Grammar.Capitals
import SearchSql.Proofs.Layout.Infix

/-!
# Labels in all their forms

A name has a label behind it, after blanks or after the word AS, or it stands under the label in a
mapping. A name without blanks can be split off in one way only, also if the name or the label is
the word AS itself. So all forms are read alike, and queries that differ in them only have the same
answer.

## Main definitions

* `Label.Gives` — the entries that give a name a label.
* `Query.LabelsAlike` — queries that differ in the forms of their labels.

## Main statements

* `Label.split?_append` — a name without blanks is split off as a whole.
* `Label.Gives.sourceOfEntry`, `Label.Gives.fieldOfEntry` — how an entry with a label is read.
* `Connection.answers_alike_of_labels` — the forms are written alike, and queries answered alike.
-/
namespace SearchSql

open Text

/-- Blanks between two words. -/
def Text.IsGap (s : String) : Prop := s ≠ "" ∧ ∀ a ∈ s.toList, isBlank a = true

namespace Label

/-- The word AS, each letter of it capital or small. -/
def IsAs (s : String) : Prop := s ∈ ["as", "aS", "As", "AS"]

instance (s : String) : Decidable (IsAs s) := inferInstanceAs (Decidable (_ ∈ _))

/-- An entry gives a name a label. -/
inductive Gives (name label : String) : Entry → Prop where
  /-- The label is behind the name. -/
  | behind {gap : String} (hgap : IsGap gap) :
    Gives name label (none, .text (name ++ gap ++ label))
  /-- The word AS stands between them. -/
  | behindAs {front as back : String} (hfront : IsGap front) (has : IsAs as)
    (hback : IsGap back) : Gives name label (none, .text (name ++ front ++ as ++ back ++ label))
  /-- The name is under the label. -/
  | under : Gives name label (some label, .text name)

/-! ## Names and blanks are passed over -/

section

variable {α : Type} {next : List Char → Option α} {label? : List Char → Option (List Char)}
  {gap cs : List Char}

theorem afterBlanks_cons_of_not_isBlank {a : Char} (h : isBlank a = false) (rest : List Char) :
    afterBlanks next (a :: rest) = none := by
  simp [afterBlanks, h]

/-- What is found behind all blanks is found. -/
theorem afterBlanks_gap_eq_some (hne : gap ≠ []) (hgap : ∀ a ∈ gap, isBlank a = true)
    (hcs : afterBlanks next cs = none) {found : α} (h : next cs = some found) :
    afterBlanks next (gap ++ cs) = some found := by
  induction gap with
  | nil => exact absurd rfl hne
  | cons a gap ih =>
    obtain ⟨ha, hgap⟩ := List.forall_mem_cons.1 hgap
    rw [List.cons_append, afterBlanks, if_pos ha]
    by_cases hlast : gap = []
    · rw [hlast, List.nil_append, hcs, Option.none_or, h]
    · rw [ih hlast hgap, Option.some_or]

/-- Nothing is found if it is found neither behind all blanks nor in front of one of them. -/
theorem afterBlanks_gap_eq_none (hgap : ∀ a ∈ gap, isBlank a = true)
    (hcs : afterBlanks next cs = none) (h : next cs = none)
    (hblank : ∀ a rest, isBlank a = true → next (a :: rest) = none) :
    afterBlanks next (gap ++ cs) = none := by
  induction gap with
  | nil => exact hcs
  | cons a gap ih =>
    obtain ⟨ha, hgap⟩ := List.forall_mem_cons.1 hgap
    rw [List.cons_append, afterBlanks, if_pos ha, ih hgap, Option.none_or]
    cases gap with
    | nil => exact h
    | cons b gap => exact hblank b _ (List.forall_mem_cons.1 hgap).1

/-- No blank begins the word AS. -/
theorem afterAs_cons_of_isBlank {a : Char} (h : isBlank a = true) (rest : List Char) :
    afterAs next (a :: rest) = none := by
  have ha : ¬ (a = 'a' ∨ a = 'A') := by
    rintro (rfl | rfl) <;> exact absurd h (by decide)
  cases rest <;> simp [afterAs, ha]

/-- In a text without blanks the word AS has nothing behind it. -/
theorem afterAs_eq_none (h : ∀ a ∈ cs, isBlank a = false) : afterAs next cs = none := by
  match cs with
  | [] | [_] => rfl
  | a :: s :: [] => simp [afterAs, afterBlanks]
  | a :: s :: b :: rest => simp [afterAs, afterBlanks_cons_of_not_isBlank (h b (by simp))]

/-- A name without blanks is split off as a whole. -/
theorem split?_append {name : List Char} (h : ∀ a ∈ name, isBlank a = false)
    {found : List Char} (hcs : tail? label? cs = some found) :
    split? (tail? label?) (name ++ cs) = some (name, found) := by
  induction name with
  | nil => cases cs <;> simp [split?, hcs]
  | cons a name ih =>
    obtain ⟨ha, hname⟩ := List.forall_mem_cons.1 h
    have htail : tail? label? (a :: (name ++ cs)) = none := by
      simp [tail?, afterBlanks_cons_of_not_isBlank ha]
    have hline : a ≠ '\n' := by
      rintro rfl
      exact absurd ha (by decide)
    simp [split?, htail, hline, ih hname]

end

/-! ## Labels behind names -/

/-- A word: it has no blanks, and it is no expression. -/
structure IsWord (s : String) : Prop where
  /-- No blank divides it. -/
  notBlank : ∀ a ∈ s.toList, isBlank a = false
  /-- No parenthesis opens in it. -/
  plain : hasParenthesis s = false

/-- A word that is a label as a whole. -/
structure IsLabel (label? : List Char → Option (List Char)) (label : String) : Prop
    extends IsWord label where
  /-- It is a label. -/
  found : label? label.toList = some label.toList

namespace IsLabel

variable {label? : List Char → Option (List Char)} {label : String}

/-- A label behind blanks. -/
theorem tail?_gap (h : IsLabel label? label) {gap : String} (hgap : IsGap gap) :
    tail? label? (gap.toList ++ label.toList) = some label.toList := by
  have hnone : afterBlanks (afterAs label?) (gap.toList ++ label.toList) = none :=
    afterBlanks_gap_eq_none hgap.2 (afterBlanks_eq_none _ h.notBlank)
      (afterAs_eq_none h.notBlank) fun a rest ha => afterAs_cons_of_isBlank ha rest
  have hne : gap.toList ≠ [] := by simpa using hgap.1
  rw [tail?, hnone, Option.none_or,
    afterBlanks_gap_eq_some hne hgap.2 (afterBlanks_eq_none _ h.notBlank) h.found]

/-- A label behind the word AS. -/
theorem tail?_as (h : IsLabel label? label) {front as back : String} (hfront : IsGap front)
    (has : IsAs as) (hback : IsGap back) :
    tail? label? (front.toList ++ (as.toList ++ (back.toList ++ label.toList))) =
      some label.toList := by
  have hbehind : afterBlanks label? (back.toList ++ label.toList) = some label.toList :=
    afterBlanks_gap_eq_some (by simpa using hback.1) hback.2 (afterBlanks_eq_none _ h.notBlank)
      h.found
  have hword : afterAs label? (as.toList ++ (back.toList ++ label.toList)) = some label.toList ∧
      afterBlanks (afterAs label?) (as.toList ++ (back.toList ++ label.toList)) = none := by
    simp only [IsAs, List.mem_cons, List.not_mem_nil, or_false] at has
    rcases has with rfl | rfl | rfl | rfl <;>
      exact ⟨by simpa [afterAs] using hbehind, afterBlanks_cons_of_not_isBlank (by decide) _⟩
  rw [tail?, afterBlanks_gap_eq_some (by simpa using hfront.1) hfront.2 hword.2 hword.1,
    Option.some_or]

end IsLabel

/-- A name and a label that an index may have. -/
structure OfSource (name label : String) : Prop where
  /-- The name is a word. -/
  isWord_name : IsWord name
  /-- The label is a word. -/
  isWord_label : IsWord label
  /-- There is a label. -/
  label_ne : label ≠ ""

/-- A name and a label that a field may have. -/
structure OfField (name label : String) : Prop where
  /-- The name is a word. -/
  isWord_name : IsWord name
  /-- The characters of the label may stand in one. -/
  label_chars : ∀ a ∈ label.toList, isLabelChar a = true
  /-- There is a label. -/
  label_ne : label ≠ ""

set_option maxRecDepth 2000 in
/-- No blank stands in the label of a field. -/
theorem isBlank_of_isLabelChar {a : Char} (h : isLabelChar a = true) : isBlank a = false := by
  by_cases hascii : a.toNat < 128
  · exact Grammar.forall_ascii (P := fun a => isLabelChar a = true → isBlank a = false)
      (by decide) hascii h
  · by_contra hblank
    have hmem := Grammar.toNat_mem_blanksBeyond (by omega) (Bool.eq_true_of_not_eq_false hblank)
    have hlabel : ∀ n ∈ Grammar.blanksBeyond, isLabelChar (Char.ofNat n) = false := by decide
    have hnone := hlabel a.toNat hmem
    rw [Char.ofNat_toNat, h] at hnone
    cases hnone

theorem OfSource.isLabel {name label : String} (h : OfSource name label) :
    IsLabel sourceLabel? label where
  toIsWord := h.isWord_label
  found := by
    have hspace : ' ' ∉ label.toList := fun hmem =>
      absurd (h.isWord_label.notBlank ' ' hmem) (by decide)
    simp [sourceLabel?, h.label_ne, hspace]

theorem OfField.isLabel {name label : String} (h : OfField name label) :
    IsLabel fieldLabel? label where
  notBlank a ha := isBlank_of_isLabelChar (h.label_chars a ha)
  plain := by
    have hopen : '(' ∉ label.toList := fun hmem =>
      absurd (h.label_chars '(' hmem) (by decide)
    simpa [hasParenthesis] using hopen
  found := by
    have hword : label.toList.takeWhile isLabelChar = label.toList :=
      List.takeWhile_eq_self_iff.2 h.label_chars
    have hrest : label.toList.dropWhile isLabelChar = [] :=
      List.dropWhile_eq_nil_iff.2 h.label_chars
    simp [fieldLabel?, List.span_eq_takeWhile_dropWhile, hword, hrest, h.label_ne]

/-! ## How entries with labels are read -/

namespace Gives

variable {label? : List Char → Option (List Char)} {name label : String} {entry : Entry}

/-- A name with a label is under it, or both are split from a text. -/
theorem under_or_split (h : Gives name label entry) (hname : IsWord name)
    (hlabel : IsLabel label? label) :
    entry = (some label, .text name) ∨
      ∃ s, entry = (none, .text s) ∧ hasParenthesis s = false ∧
        split? (tail? label?) s.toList = some (name.toList, label.toList) := by
  have hopen {gap : String} (hgap : IsGap gap) : '(' ∉ gap.toList := fun hmem =>
    absurd (hgap.2 '(' hmem) (by decide)
  have hplain : '(' ∉ name.toList ∧ '(' ∉ label.toList := by
    simpa [hasParenthesis] using And.intro hname.plain hlabel.plain
  cases h with
  | under => exact .inl rfl
  | @behind gap hgap =>
    refine .inr ⟨_, rfl, ?_, ?_⟩
    · simp [hasParenthesis, hplain, hopen hgap]
    · rw [String.toList_append, String.toList_append, List.append_assoc]
      exact split?_append hname.notBlank (hlabel.tail?_gap hgap)
  | @behindAs front as back hfront has hback =>
    have hword : '(' ∉ as.toList := by
      simp only [IsAs, List.mem_cons, List.not_mem_nil, or_false] at has
      rcases has with rfl | rfl | rfl | rfl <;> decide
    refine .inr ⟨_, rfl, ?_, ?_⟩
    · simp [hasParenthesis, hplain, hopen hfront, hopen hback, hword]
    · simp only [String.toList_append, List.append_assoc]
      exact split?_append hname.notBlank (hlabel.tail?_as hfront has hback)

/-- **How a source with a label is read**, in each form. -/
theorem sourceOfEntry (h : Gives name label entry) (hfits : OfSource name label)
    (position : Nat) : Source.ofEntry position entry.1 entry.2 = .index name (some label) := by
  obtain rfl | ⟨s, rfl, hplain, hsplit⟩ := h.under_or_split hfits.isWord_name hfits.isLabel
  · simp [Source.ofEntry, Source.ofText, hfits.isWord_name.plain]
  · have hfound : ofSource? s = some (name, label) := by
      simp [ofSource?, hsplit, toTexts]
    simp [Source.ofEntry, Source.ofText, splitLabel, hplain, hfound]

/-- **How a field with a label is read**, in each form. -/
theorem fieldOfEntry (h : Gives name label entry) (hfits : OfField name label) :
    Field.ofEntry entry = .named name (some label) := by
  obtain rfl | ⟨s, rfl, hplain, hsplit⟩ := h.under_or_split hfits.isWord_name hfits.isLabel
  · rfl
  · have hfound : ofField? s = some (name, label) := by
      simp [ofField?, hsplit, toTexts]
    simp [Field.ofEntry, Field.ofText, splitLabel, hplain, hfound]

end Gives

/-- Two entries are the same, or they give one name one label, each in a form of its own. -/
inductive Alike (fits : String → String → Prop) : Entry → Entry → Prop where
  /-- They are the same. -/
  | same (entry : Entry) : Alike fits entry entry
  /-- They give a name a label. -/
  | labeled {name label : String} {entry other : Entry} (hfits : fits name label)
    (h : Gives name label entry) (hother : Gives name label other) : Alike fits entry other

end Label

open Label

/-! ## Queries -/

theorem mapIdx_eq_of_forall₂ {α β : Type} {R : α → α → Prop} {f : Nat → α → β} {xs ys : List α}
    (h : List.Forall₂ R xs ys) (hf : ∀ i x y, R x y → f i x = f i y) :
    xs.mapIdx f = ys.mapIdx f := by
  induction h generalizing f with
  | nil => rfl
  | cons hxy _ ih =>
    rw [List.mapIdx_cons, List.mapIdx_cons, hf 0 _ _ hxy, ih fun i => hf (i + 1)]

namespace Label.Alike

variable {entry other : Entry}

theorem sourceOfEntry_eq (h : Alike OfSource entry other) (position : Nat) :
    Source.ofEntry position entry.1 entry.2 = Source.ofEntry position other.1 other.2 := by
  cases h with
  | same => rfl
  | labeled hfits h hother =>
    rw [h.sourceOfEntry hfits position, hother.sourceOfEntry hfits position]

theorem fieldOfEntry_eq (h : Alike OfField entry other) :
    Field.ofEntry entry = Field.ofEntry other := by
  cases h with
  | same => rfl
  | labeled hfits h hother => rw [h.fieldOfEntry hfits, hother.fieldOfEntry hfits]

end Label.Alike

/-- Queries that differ only in the forms of their labels. -/
structure Query.LabelsAlike (q other : Query) : Prop where
  /-- The sources give the same names the same labels. -/
  source : List.Forall₂ (Alike OfSource) q.source.toEntries other.source.toEntries
  /-- So do the fields. -/
  select : List.Forall₂ (Alike OfField) q.select.toEntries other.select.toEntries
  /-- All other clauses are the same. -/
  rest : other = { q with source := other.source, select := other.select }

/-- Queries that differ only in the forms of their labels are the same selection. -/
theorem Query.LabelsAlike.selection_eq {q other : Query} (h : q.LabelsAlike other) :
    Selection.ofQuery q = Selection.ofQuery other := by
  have hsources : Source.listOf q.source = Source.listOf other.source := by
    rw [Source.listOf_eq_mapIdx, Source.listOf_eq_mapIdx]
    exact mapIdx_eq_of_forall₂ h.source fun i _ _ halike => halike.sourceOfEntry_eq i
  have hfields : q.select.toEntries.map Field.ofEntry =
      other.select.toEntries.map Field.ofEntry := by
    rw [← List.forall₂_eq_eq_eq, List.forall₂_map_left_iff, List.forall₂_map_right_iff]
    exact h.select.imp fun _ _ halike => halike.fieldOfEntry_eq
  rw [h.rest]
  cases q
  simp only [Selection.ofQuery, hsources, hfields]

/-- **Labels are written alike in all forms.** An index and its label have the same text, in each
dialect, whichever way the entry gives it; the index is searched, and its columns are those that
values are coerced to. A field and its label have the same text as well. So queries that differ only
in the forms of their labels have the same answer. -/
theorem Connection.answers_alike_of_labels (c : Connection) :
    (∀ name label entry, OfSource name label → Gives name label entry →
      ∀ position, let source := Source.ofEntry position entry.1 entry.2
        source.layout c = [.text (c.quote name ++ " " ++ c.quote label)] ∧
          source.indexName? = some name) ∧
      (∀ name label entry, OfField name label → Gives name label entry →
        Layout.ofField c (Field.ofEntry entry) =
          [.text (c.quote name ++ " AS " ++ c.quote label)]) ∧
      ∀ q other : Query, q.LabelsAlike other →
        (Selection.ofQuery q).indexes c = (Selection.ofQuery other).indexes c ∧
          ∀ params, c.answer (.build (.query q) params) =
            c.answer (.build (.query other) params) := by
  refine ⟨?_, ?_, ?_⟩
  · intro name label entry hfits h position
    simp only [h.sourceOfEntry hfits position]
    exact ⟨by rw [Source.layout]; rfl, rfl⟩
  · intro name label entry hfits h
    rw [h.fieldOfEntry hfits]
    rfl
  · intro q other h
    have hselection := h.selection_eq
    have hlayout : c.queryLayout q = c.queryLayout other := by
      rw [queryLayout, queryLayout, hselection, h.rest]
    refine ⟨by rw [hselection], fun params => ?_⟩
    have hanswer (q : Query) : c.answer (.build (.query q) params) =
        (do return .selection (← c.compile params (c.queryLayout q))
              (Layout.ofCaller params ++ c.queryLayout q).indexes) := rfl
    rw [hanswer, hanswer, hlayout]

/-- The titles of two indexes, one of them with the name AS and a label like it. -/
def titlesOf (select source : Entries Value) : Query :=
  { Clauses.empty with select, source, condition := .map [(.text "id", .int 7)] }

theorem Connection.answers_alike_of_labels_as :
    let c : Connection := ⟨none, .manticore, {}⟩
    let source : Entry := (none, .text "as  aS\tAs")
    let field : Entry := (none, .text "as AS as")
    let q := titlesOf (.positional [.text "as AS as", .text "count(*)"])
      (.positional [.text "as  aS\tAs", .text "books b"])
    let other := titlesOf (.keyed [(.text "as", .text "as"), (.int 1, .text "count(*)")])
      (.keyed [(.text "As", .text "as"), (.int 1, .text "books b")])
    OfSource "as" "As" ∧ Gives "as" "As" source ∧ OfField "as" "as" ∧ Gives "as" "as" field ∧
      q.LabelsAlike other ∧
      (Source.ofEntry 0 source.1 source.2).layout c =
        [.text (c.quote "as" ++ " " ++ c.quote "As")] ∧
      Layout.ofField c (Field.ofEntry field) = [.text (c.quote "as" ++ " AS " ++ c.quote "as")] ∧
      c.answer (.build (.query q) .null) = c.answer (.build (.query other) .null) := by
  have hword : IsWord "as" := ⟨by simp [isBlank, isWhiteSpace], by decide⟩
  have hlabel : IsWord "As" := ⟨by simp [isBlank, isWhiteSpace], by decide⟩
  have hchars : ∀ a ∈ "as".toList, isLabelChar a = true := by
    simpa using And.intro (show isLabelChar 'a' = true by decide)
      (show isLabelChar 's' = true by decide)
  have hspace : IsGap " " := ⟨by decide, by simp [isBlank, isWhiteSpace]⟩
  have hspaces : IsGap "  " := ⟨by decide, by simp [isBlank, isWhiteSpace]⟩
  have htab : IsGap "\t" := ⟨by decide, by simp [isBlank, isWhiteSpace]⟩
  have hsource : OfSource "as" "As" := ⟨hword, hlabel, by decide⟩
  have hfield : OfField "as" "as" := ⟨hword, hchars, by decide⟩
  have hgives : Gives "as" "As" (none, .text "as  aS\tAs") :=
    .behindAs hspaces (show IsAs "aS" by decide) htab
  have hgivesField : Gives "as" "as" (none, .text "as AS as") :=
    .behindAs hspace (show IsAs "AS" by decide) hspace
  have halike : (titlesOf (.positional [.text "as AS as", .text "count(*)"])
      (.positional [.text "as  aS\tAs", .text "books b"])).LabelsAlike
        (titlesOf (.keyed [(.text "as", .text "as"), (.int 1, .text "count(*)")])
          (.keyed [(.text "As", .text "as"), (.int 1, .text "books b")])) :=
    ⟨.cons (.labeled hsource hgives .under) (.cons (.same _) .nil),
      .cons (.labeled hfield hgivesField .under) (.cons (.same _) .nil), rfl⟩
  obtain ⟨hsources, hfields, hqueries⟩ :=
    Connection.answers_alike_of_labels ⟨none, .manticore, {}⟩
  exact ⟨hsource, hgives, hfield, hgivesField, halike, (hsources _ _ _ hsource hgives 0).1,
    hfields _ _ _ hfield hgivesField, (hqueries _ _ halike).2 .null⟩

end SearchSql
