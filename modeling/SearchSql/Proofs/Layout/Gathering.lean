import SearchSql.Layout.Caller
import SearchSql.Proofs.Layout.Infix

/-!
# What is gathered from a layout

What is looked for in the pieces of a layout is gathered from left to right. Where texts, fragments
with their parameters and values of the wrong kind tell nothing, a layout that is put together
tells what its parts tell, one after the other, and of the clauses of a selection only some tell
anything.

## Main definitions

* `Layout.Finder` — what is looked for in pieces.
* `Layout.Finder.gather` — what is found in a layout.

## Main statements

* `Layout.Finder.gather_join`, `Layout.Finder.gather_connect` — layouts that are put together.
* `Layout.Finder.gather_selection` — the clauses of a selection.
-/
namespace SearchSql

/-! ## Values of the wrong kind -/

/-- Work that fails, if it does, because of a value of the wrong kind. -/
def Checked.FailsByMisuse {α : Type} (found : Checked α) : Prop :=
  ∀ f, found = .error f → ∃ how, f = .misuse how

namespace Checked.FailsByMisuse

variable {α β : Type}

theorem ok (a : α) : FailsByMisuse (.ok a) := nofun

theorem misuse (how : Misuse) : FailsByMisuse (.error (.misuse how) : Checked α) := by
  intro f hf
  exact ⟨how, (Except.error.inj hf).symm⟩

theorem bind {found : Checked α} (h : found.FailsByMisuse) {next : α → Checked β}
    (hnext : ∀ a, (next a).FailsByMisuse) : FailsByMisuse (found >>= next) := by
  cases found with
  | error e =>
    intro f hf
    obtain rfl := Except.error.inj hf
    exact h e rfl
  | ok a => exact hnext a

theorem mapM {step : α → Checked β} (h : ∀ a, (step a).FailsByMisuse) (as : List α) :
    FailsByMisuse (as.mapM step) := by
  induction as with
  | nil => exact .ok _
  | cons a rest ih =>
    rw [List.mapM_cons]
    exact (h a).bind fun b => ih.bind fun bs => .ok _

end Checked.FailsByMisuse

theorem Params.failsByMisuse_pairsOf (v : Value) : (pairsOf v).FailsByMisuse := by
  have hpair (v : Value) : (pairOf v).FailsByMisuse := by
    unfold pairOf
    split
    · split
      · exact .ok _
      · exact .misuse _
    · exact .misuse _
    · exact .misuse _
  unfold pairsOf
  split
  · exact .ok _
  · split
    · exact .mapM hpair _
    · exact .misuse _

theorem Numeral.failsByMisuse_count? (v : Value) : (count? v).FailsByMisuse := by
  cases v with
  | text s =>
    simp only [count?]
    split
    · exact .ok _
    · split
      · exact .ok _
      · exact .misuse _
  | _ => exact .ok _

theorem Numeral.failsByMisuse_write (n : Nat) : (write n).FailsByMisuse := by
  rw [write]
  split
  · exact .ok _
  · exact .misuse _

theorem OrderTerm.failsByMisuse_listOf (v : Value) : (listOf v).FailsByMisuse := by
  unfold listOf
  split
  · exact .ok _
  · split
    · exact .ok _
    · exact .misuse _

namespace Layout

/-! ## What is not found in texts -/

section

variable {α : Type} {find : Piece → List α} (htext : ∀ s, find (.text s) = [])

include htext

theorem flatMap_after (opening : String) (l : Layout) :
    (after opening l).flatMap find = l.flatMap find := by
  rw [after]
  split
  · rename_i hempty
    rw [List.isEmpty_iff.1 hempty]
  · rw [List.flatMap_cons, htext, List.nil_append]

theorem flatMap_join (separator : String) (ls : List Layout) :
    (join separator ls).flatMap find = ls.flatMap (List.flatMap find) := by
  induction ls with
  | nil => rfl
  | cons l rest ih =>
    cases rest with
    | nil => simp
    | cons r others =>
      rw [join_cons_cons, List.flatMap_append, List.flatMap_cons, htext, ih]
      rfl

omit htext in
/-- Nothing is found in what is left out. -/
theorem flatMap_present (find : Piece → List α) (ls : List Layout) :
    (ls.filter (!·.isEmpty)).flatMap (List.flatMap find) = ls.flatMap (List.flatMap find) := by
  induction ls with
  | nil => rfl
  | cons l rest ih =>
    cases l with
    | nil => simpa using ih
    | cons piece l => simp [ih]

theorem flatMap_joinPresent (separator : String) (ls : List Layout) :
    (joinPresent separator ls).flatMap find = ls.flatMap (List.flatMap find) := by
  rw [joinPresent, flatMap_join htext, flatMap_present]

end

/-- What is looked for in the pieces of a layout. -/
structure Finder (α : Type) where
  /-- What is found at a piece. -/
  find : Piece → List α
  /-- Nothing is found in a text. -/
  find_text : ∀ s, find (.text s) = []
  /-- Nothing is found where a text is bound. -/
  find_bind_text : ∀ s, find (.bind (.text s)) = []
  /-- Nothing is found in parameters with names of their own. -/
  find_merge : ∀ params, find (.merge params) = []
  /-- Nothing is found where a value is of the wrong kind. -/
  find_misuse : ∀ how, find (.fault (.misuse how)) = []

namespace Finder

attribute [simp] find_text find_bind_text find_merge find_misuse

variable {α : Type} (finder : Finder α)

/-- What a layout tells, from left to right. -/
def gather (l : Layout) : List α := l.flatMap finder.find

@[simp] theorem gather_nil : finder.gather [] = [] := rfl

@[simp] theorem gather_cons (piece : Piece) (l : Layout) :
    finder.gather (piece :: l) = finder.find piece ++ finder.gather l :=
  List.flatMap_cons

@[simp] theorem gather_append (l r : Layout) :
    finder.gather (l ++ r) = finder.gather l ++ finder.gather r :=
  List.flatMap_append

@[simp] theorem gather_enclose (opening : String) (l : Layout) (closing : String) :
    finder.gather (enclose opening l closing) = finder.gather l := by
  simp [enclose]

@[simp] theorem gather_after (opening : String) (l : Layout) :
    finder.gather (after opening l) = finder.gather l :=
  flatMap_after finder.find_text opening l

@[simp] theorem gather_negate (l : Layout) : finder.gather l.negate = finder.gather l := by
  rw [negate]
  split
  · rename_i hempty
    rw [List.isEmpty_iff.1 hempty]
  · exact finder.gather_enclose ..

/-! ## Several layouts -/

@[simp] theorem gather_join (separator : String) (ls : List Layout) :
    finder.gather (join separator ls) = ls.flatMap finder.gather :=
  flatMap_join finder.find_text separator ls

/-- What is left out tells nothing. -/
theorem flatMap_gather_present (ls : List Layout) :
    (ls.filter (!·.isEmpty)).flatMap finder.gather = ls.flatMap finder.gather :=
  flatMap_present finder.find ls

@[simp] theorem gather_joinPresent (separator : String) (ls : List Layout) :
    finder.gather (joinPresent separator ls) = ls.flatMap finder.gather :=
  flatMap_joinPresent finder.find_text separator ls

@[simp] theorem gather_connect (word : String) (ls : List Layout) :
    finder.gather (connect word ls) = ls.flatMap finder.gather := by
  rw [connect, ← finder.flatMap_gather_present ls]
  split
  · rename_i hnone
    rw [hnone]
    rfl
  · rw [gather_enclose, gather_join]

@[simp] theorem gather_ofRecord (ls : List Layout) :
    finder.gather (ofRecord ls) = ls.flatMap finder.gather := by
  match ls with
  | [l] => simp [ofRecord]
  | [] => rfl
  | l :: r :: rest => exact finder.gather_connect "AND" (l :: r :: rest)

variable (c : Connection)

@[simp] theorem gather_ofMembership (negated : Bool) (column : Value) (ls : List Layout) :
    finder.gather (ofMembership c negated column ls) = ls.flatMap finder.gather := by
  match ls with
  | [] => rfl
  | [l] => simp [ofMembership]
  | l :: r :: rest => exact (finder.gather_enclose ..).trans (finder.gather_join ..)

@[simp] theorem gather_ofRows (negated : Bool) (columns : List Value) (ls : List Layout) :
    finder.gather (ofRows c negated columns ls) = ls.flatMap finder.gather := by
  rw [ofRows, gather_enclose, gather_join]

@[simp] theorem gather_ofSelected (negated : Bool) (columns : List Value) (l : Layout) :
    finder.gather (ofSelected c negated columns l) = finder.gather l :=
  finder.gather_enclose ..

/-! ## Clauses -/

@[simp] theorem gather_ofRaw (sql : String) (params : Mapping) :
    finder.gather (ofRaw sql params) = [] := by
  simp [ofRaw]

@[simp] theorem gather_ofText (s : String) : finder.gather (ofText s) = [] := by
  rw [ofText]
  split
  · rfl
  · simp

@[simp] theorem gather_naming (names : List Value) : finder.gather (naming names) = [] := by
  rcases naming_eq_nil_or names with h | h <;> simp [h]

theorem gather_naming_append (names : List Value) (l : Layout) :
    finder.gather (naming names ++ l) = finder.gather l := by simp

theorem gather_append_naming (l : Layout) (names : List Value) :
    finder.gather (l ++ naming names) = finder.gather l := by simp

/-- Where a value is written out, what its text tells is told. -/
theorem gather_ofShown (v : Value) {layout : String → Layout}
    (h : ∀ s, finder.gather (layout s) = []) : finder.gather (ofShown v layout) = [] := by
  rcases ofShown_eq_or v layout with heq | heq <;> simp [heq, h]

@[simp] theorem gather_ofFulltext (v : Value) : finder.gather (ofFulltext v) = [] := by
  cases v <;> simp [ofFulltext, gather_ofShown]

@[simp] theorem gather_ofCaller (v : Value) : finder.gather (ofCaller v) = [] := by
  rw [ofCaller]
  split
  · cases hpairs : Params.pairsOf v with
    | ok pairs => simp
    | error f =>
      obtain ⟨how, rfl⟩ := Params.failsByMisuse_pairsOf v f hpairs
      simp
  · rfl

@[simp] theorem gather_ofLabeled (separator name : String) (label : Option String) :
    finder.gather (ofLabeled c separator name label) = [] := by
  cases label <;> simp [ofLabeled]

@[simp] theorem gather_ofRawLabeled (separator sql : String) (params : Mapping)
    (label : Option String) : finder.gather (ofRawLabeled c separator sql params label) = [] := by
  cases label <;> simp [ofRawLabeled]

@[simp] theorem gather_ofFields (fields : List Field) : finder.gather (ofFields c fields) = [] := by
  rw [ofFields]
  split
  · simp
  · rw [gather_join, List.flatMap_map, List.flatMap_eq_nil_iff]
    rintro (_ | _ | _) - <;> simp [ofField]

@[simp] theorem gather_ofColumns (columns : List ListedColumn) :
    finder.gather (ofColumns c columns) = [] := by
  rw [ofColumns, gather_join, List.flatMap_map, List.flatMap_eq_nil_iff]
  rintro (_ | _ | _) - <;> simp [ofColumn]

@[simp] theorem gather_ofOrdering (keyword : String) (spelled : Bool) (terms : List OrderTerm) :
    finder.gather (ofOrdering c keyword spelled terms) = [] := by
  rw [ofOrdering]
  split
  · rfl
  · rw [gather_cons, find_text, gather_join, List.flatMap_map, List.nil_append,
      List.flatMap_eq_nil_iff]
    rintro (⟨_, _ | _⟩ | _ | _) - <;> simp [ofOrderTerm]

@[simp] theorem gather_ofWindow (limit offset : Value) :
    finder.gather (ofWindow c limit offset) = [] := by
  have hwindow : (windowText c limit offset).FailsByMisuse := by
    refine (Numeral.failsByMisuse_count? offset).bind fun skipped => ?_
    refine (Numeral.failsByMisuse_count? limit).bind fun returned => ?_
    have hboth (m n : Nat) : Checked.FailsByMisuse (do
        return "LIMIT " ++ (← Numeral.write m) ++ "," ++ (← Numeral.write n)) :=
      (Numeral.failsByMisuse_write m).bind fun _ =>
        (Numeral.failsByMisuse_write n).bind fun _ => .ok _
    split
    · exact .ok _
    · exact (Numeral.failsByMisuse_write _).bind fun _ => .ok _
    · exact hboth _ _
    · exact hboth _ _
  rw [ofWindow]
  cases hfound : windowText c limit offset with
  | ok s => simp
  | error f =>
    obtain ⟨how, rfl⟩ := hwindow f hfound
    simp

@[simp] theorem gather_ofOptions (options : List (String × Value)) :
    finder.gather (ofOptions options) =
      options.flatMap fun option => finder.gather (ofOption option.2) := by
  rw [ofOptions]
  split
  · rename_i hempty
    rw [List.isEmpty_iff.1 hempty]
    rfl
  · simp [List.flatMap_map]

/-- Facets of which nothing is wrong tell nothing. -/
theorem gather_ofFacet_ofMapping (fields : Value) (m : Mapping) :
    finder.gather (ofFacet c (.ok (.ofMapping fields m))) = [] := by
  have horder : finder.gather (ofCheckedOrder c (Facet.ofMapping fields m).order) = [] := by
    have hmisuse := OrderTerm.failsByMisuse_listOf ((m.named? "order").getD .null)
    cases hterms : (Facet.ofMapping fields m).order with
    | ok terms => exact finder.gather_ofOrdering ..
    | error f =>
      obtain ⟨how, rfl⟩ := hmisuse f hterms
      simp [ofCheckedOrder]
  simp [ofFacet, horder]

/-- That a value is written out first tells nothing. -/
@[simp] theorem gather_showing (indexes : List Index) (v : Value) (condition : Condition) :
    finder.gather ((Condition.showing v condition).layout c indexes) =
      finder.gather (condition.layout c indexes) := by
  rcases Condition.showing_eq_or v condition with h | h <;> rw [h]
  rw [Condition.layout, gather_ofRecord]
  simp [Condition.layouts, Condition.layout]

/-- A source that is named tells nothing. -/
@[simp] theorem gather_source_ofText (key : Option String) (s : String) :
    finder.gather ((Source.ofText key s).layout c) = [] := by
  have hlayout (name : String) (label : Option String) :
      finder.gather (Source.layout c
        (if hasParenthesis s then .named name label else .index name label)) = [] := by
    split <;> exact finder.gather_ofLabeled ..
  cases key <;> exact hlayout ..

@[simp] theorem gather_source_ofDisplay (key : Option String) (v : Value) :
    finder.gather ((Source.ofDisplay key v).layout c) = [] := by
  unfold Source.ofDisplay
  split
  · cases key <;> simp [Source.layout]
  · simp [Source.layout]

/-- The condition stands beside the full-text query. -/
theorem gather_ofFilter {isOmitted : Bool} {l : Layout} (h : isOmitted = true → l = [])
    (fulltext : Value) : finder.gather (ofFilter fulltext isOmitted l) = finder.gather l := by
  have hwritten : finder.gather (if isOmitted then after "WHERE " (ofFulltext fulltext)
      else after "WHERE " (connect "AND" [ofFulltext fulltext, l])) = finder.gather l := by
    split
    · rename_i homitted
      rw [h homitted, gather_after, gather_ofFulltext, gather_nil]
    · simp
  cases fulltext with
  | null => exact finder.gather_after ..
  | _ => exact hwritten

/-- **What the clauses of a selection tell**: the names of the indexes, the sources, the condition
on rows, the condition on groups, the options and the facets. -/
theorem gather_selection (s : Selection) : finder.gather (s.layout c) =
    if s.isJoined then finder.find (.fault (.unsupportedClause "JOIN"))
    else (if s.sources.isEmpty then [] else finder.find (.indexes s.indexNames)) ++
      (Source.layouts c s.sources).flatMap finder.gather ++
      finder.gather (s.condition.layout c (s.indexes c)) ++
      finder.gather (s.having.layout c (s.indexes c)) ++
      s.options.flatMap (fun option => finder.gather (ofOption option.2)) ++
      s.facets.flatMap fun facet => finder.gather (ofFacet c facet) := by
  have hsources : finder.gather (if s.sources.isEmpty then [] else
      .indexes s.indexNames :: .text "FROM " ::
        join ", " (Source.layouts c s.sources) : Layout) =
      (if s.sources.isEmpty then [] else finder.find (.indexes s.indexNames)) ++
        (Source.layouts c s.sources).flatMap finder.gather := by
    split
    · rename_i hempty
      rw [List.isEmpty_iff.1 hempty]
      rfl
    · simp
  have hgroups : finder.gather (s.groupBy.elim [] fun columns =>
      .text "GROUP BY " :: ofColumns c columns : Layout) = [] := by
    cases s.groupBy with
    | none => rfl
    | some columns => simp
  rw [Selection.layout_eq, gather_cons, find_merge, List.nil_append]
  cases s.isJoined with
  | true => simp
  | false =>
    rw [if_neg Bool.false_ne_true, if_neg Bool.false_ne_true, gather_joinPresent,
      Selection.clauses, List.flatMap_cons, List.flatMap_cons, hsources]
    simp [hgroups, ofWithin, ofOrder, ofFacets, List.flatMap_map,
      finder.gather_ofFilter (Condition.layout_of_isOmitted c _)]

end Finder

end Layout

end SearchSql
