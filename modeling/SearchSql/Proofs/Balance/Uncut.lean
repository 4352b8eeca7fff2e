import SearchSql.Proofs.Balance.Cut
import SearchSql.Proofs.Balance.Layout

/-!
# What a query supplies before it is cut

The texts of a query as they are given: a field or an index with its label, the columns of a
list, an operator as it is spelled. What is supplied to the statement is cut from them, and has
balanced parentheses if they have. The induction is on the value that describes a condition or a
query, one case for each form.

## Main definitions

* `Condition.uncut`, `Selection.uncut` — what a condition and a query are given.

## Main statements

* `Leaf.allBalanced_condition`, `Leaf.allBalanced_selection` — what is supplied to the statement.
-/
namespace SearchSql

namespace Leaf

/-! ## Entries of clauses -/

/-- A field as it is given. -/
def ofFieldEntry : Entry → List Leaf
  | (key, .raw sql params) => ofRawLabeled sql params (key.bind nonempty?)
  | (key, v) => ofLabeled v.display key

/-- What is searched as it is given, unless it is a query. -/
def ofSourceEntry (key : Option String) : Value → List Leaf
  | .raw sql params => ofRawLabeled sql params (key.bind nonempty?)
  | v => ofLabeled v.display key

/-- A grouping as it is given. -/
def ofGrouping : Grouping Value → List Leaf
  | .columns items => items.flatMap fun v => ofColumn (.ofValue v)
  | .text s => [.quoted s]

/-- The contents of a facet as they are given, and the fields that count if there are none. -/
def ofFacetMapping (fields : Value) (m : Mapping) : List Leaf :=
  (Facet.fieldEntries ((m.named? "select").getD fields)).flatMap ofFieldEntry ++
    ofCheckedOrder (OrderTerm.listOf ((m.named? "order").getD .null))

/-- A facet as it is given. -/
def ofFacetEntry : Entry → List Leaf
  | (none, v) => ofFacetMapping v []
  | (some key, .map m) => ofFacetMapping (.text key) m
  | (some _, _) => []

end Leaf

mutual

/-- What a condition is given. -/
def Condition.uncut (c : Connection) (indexes : List Index) : Value → List Leaf
  | .null => []
  | .text s => [.verbatim s]
  | .map entries => Condition.uncutEntries c indexes entries
  | .list items => Condition.uncutForm c indexes items
  | .tuple items => Condition.uncutForm c indexes items
  | v => [.verbatim v.display]

/-- What the conditions on the columns of a mapping are given. -/
def Condition.uncutEntries (c : Connection) (indexes : List Index) :
    List (Value × Value) → List Leaf
  | [] => []
  | (key, v) :: rest =>
    Condition.uncutEntry c indexes (.text key.display) v ++ Condition.uncutEntries c indexes rest

/-- What the condition that a column has a value is given. -/
def Condition.uncutEntry (c : Connection) (indexes : List Index) (column : Value) :
    Value → List Leaf
  | .query q => .quoted column.display :: Selection.uncut c q
  | v => (Condition.ofEntry column v).leaves c indexes

/-- What a condition in operator form is given: an operator without a form of its own is written as
it is spelled. -/
def Condition.uncutForm (c : Connection) (indexes : List Index) : List Value → List Leaf
  | [] => []
  | .text token :: operands =>
    match Operator.ofKeyword? (Operator.normalize token) with
    | none => (Condition.ofComparison token operands).leaves c indexes
    | some .and => Condition.uncutOperands c indexes operands
    | some .or => Condition.uncutOperands c indexes operands
    | some .not => Condition.uncutOperands c indexes operands
    | some .among => Condition.uncutMembership c indexes false operands
    | some .notAmong => Condition.uncutMembership c indexes true operands
    | some .between => (Condition.ofBounds false operands).leaves c indexes
    | some .notBetween => (Condition.ofBounds true operands).leaves c indexes
    | some .like => (Condition.ofPatterns .like false false operands).leaves c indexes
    | some .notLike => (Condition.ofPatterns .notLike true false operands).leaves c indexes
    | some .orLike => (Condition.ofPatterns .orLike false true operands).leaves c indexes
    | some .orNotLike => (Condition.ofPatterns .orNotLike true true operands).leaves c indexes
  | _ :: _ => []

/-- What several conditions are given. -/
def Condition.uncutOperands (c : Connection) (indexes : List Index) : List Value → List Leaf
  | [] => []
  | v :: rest => Condition.uncut c indexes v ++ Condition.uncutOperands c indexes rest

/-- What membership of columns is given. -/
def Condition.uncutMembership (c : Connection) (indexes : List Index) (negated : Bool) :
    List Value → List Leaf
  | column :: values :: _ => Condition.uncutMembers c indexes negated column values
  | _ => []

/-- What membership in what a value holds is given. -/
def Condition.uncutMembers (c : Connection) (indexes : List Index) (negated : Bool)
    (column : Value) : Value → List Leaf
  | .query q =>
    if column.isEmptyList then []
    else column.columns.map (fun column => .quoted column.display) ++ Selection.uncut c q
  | v => (Condition.ofMembers negated column v).leaves c indexes

/-- What is searched, as it is given. -/
def Source.uncut (c : Connection) (key : Option String) : Value → List Leaf
  | .query q => Selection.uncut c q ++ (key.bind nonempty?).toList.map .quoted
  | v => Leaf.ofSourceEntry key v

/-- What is searched, given in a list. -/
def Source.uncutItems (c : Connection) : List Value → List Leaf
  | [] => []
  | v :: rest => Source.uncut c none v ++ Source.uncutItems c rest

/-- What is searched, given in a mapping. -/
def Source.uncutPairs (c : Connection) : List (Value × Value) → List Leaf
  | [] => []
  | (key, v) :: rest => Source.uncut c key.text? v ++ Source.uncutPairs c rest

/-- All that is searched, as it is given. -/
def Source.uncutAll (c : Connection) : Entries Value → List Leaf
  | .positional items => Source.uncutItems c items
  | .keyed pairs => Source.uncutPairs c pairs

/-- What a query is given, clause by clause. -/
def Selection.uncut (c : Connection) : Clauses Value → List Leaf
  | { select, modifier, source, fulltext, condition, groupBy, within, having, orderBy, options,
      facets, .. } =>
    let indexes := c.known ((Source.listOf source).filterMap Source.indexName?)
    modifier.toList.map .verbatim ++ select.toEntries.flatMap Leaf.ofFieldEntry ++
      Source.uncutAll c source ++
      (if fulltext.isNull then [] else Leaf.ofFulltext fulltext) ++
      Condition.uncut c indexes condition ++
      Leaf.ofGrouping groupBy ++
      within.flatMap (fun (name, v) => Leaf.ofOrderTerm (.ofPair name v)) ++
      Condition.uncut c indexes having ++
      orderBy.flatMap (fun (name, v) => Leaf.ofOrderTerm (.ofPair name v)) ++
      Leaf.ofOptions options ++
      facets.toEntries.flatMap Leaf.ofFacetEntry

end

theorem Value.exists_text_of_text?_ne_none {v : Value} (h : v.text? ≠ none) : ∃ s, v = .text s := by
  cases v with
  | text s => exact ⟨s, rfl⟩
  | _ => exact absurd rfl h

/-- A form that does not start with a text supplies nothing. -/
theorem Condition.leaves_ofForm_of_text?_eq_none (c : Connection) (indexes : List Index)
    {token : Value} (h : token.text? = none) (operands : List Value) :
    (ofForm (token :: operands)).leaves c indexes = [] := by
  cases token with
  | text s => simp [Value.text?] at h
  | _ => simp [ofForm, leaves]

namespace Leaf

open Parens

variable {c : Connection}

/-! ## Entries that are cut -/

theorem allBalanced_ofLabeled {name : String} {label : Option String} :
    AllBalanced (ofLabeled name label) ↔
      Parens.Balanced name.toList ∧ ∀ s, label = some s → Parens.Balanced s.toList := by
  cases label <;> simp [ofLabeled, Leaf.Balanced]

/-- A name and a label that are cut from a text, or the label that is given beside it. -/
theorem allBalanced_ofLabeled_splitLabel {label? : String → Option (String × String)}
    (hcuts : Label.Cuts label?) {s : String} (h : AllBalanced (ofLabeled s none)) :
    AllBalanced (ofLabeled (splitLabel label? s).1 (splitLabel label? s).2) :=
  allBalanced_ofLabeled.2 (balanced_splitLabel hcuts (allBalanced_ofLabeled.1 h).1)

theorem allBalanced_fieldOfText {key : Option String} {s : String}
    (h : AllBalanced (ofLabeled s key)) : AllBalanced (ofField (Field.ofText key s)) := by
  cases key with
  | some key => exact h
  | none =>
    simp only [Field.ofText, ofField]
    exact allBalanced_ofLabeled_splitLabel Label.cuts_ofField? h

theorem allBalanced_ofField {entry : Entry} (h : AllBalanced (ofFieldEntry entry)) :
    AllBalanced (ofField (Field.ofEntry entry)) := by
  obtain ⟨key, v⟩ := entry
  cases v with
  | raw sql params => exact h
  | _ =>
    simp only [ofFieldEntry] at h
    simp only [Field.ofEntry]
    split
    · exact allBalanced_fieldOfText h
    · exact allBalanced_nil

theorem allBalanced_sourceOfText {key : Option String} {s : String}
    (h : AllBalanced (ofLabeled s key)) : AllBalanced ((Source.ofText key s).leaves c) := by
  have hleaves (name : String) (label : Option String) :
      (if hasParenthesis s then Source.named name label else Source.index name label).leaves c =
        ofLabeled name label := by
    split <;> rfl
  cases key with
  | some key =>
    rw [Source.ofText, hleaves]
    exact h
  | none =>
    rw [Source.ofText, hleaves]
    exact allBalanced_ofLabeled_splitLabel Label.cuts_ofSource? h

theorem allBalanced_sourceOfDisplay {key : Option String} {v : Value}
    (h : AllBalanced (ofLabeled v.display key)) :
    AllBalanced ((Source.ofDisplay key v).leaves c) := by
  unfold Source.ofDisplay
  split
  · cases key with
    | some key => exact h
    | none => exact allBalanced_ofLabeled_splitLabel Label.cuts_ofSource? h
  · exact allBalanced_nil

theorem allBalanced_groups {groupBy : Grouping Value} (h : AllBalanced (ofGrouping groupBy)) :
    AllBalanced (((match groupBy with
      | .columns [] => none
      | .columns items => some (items.map ListedColumn.ofValue)
      | .text s => if s.isEmpty then none else some (ListedColumn.ofText s)).getD
        ([] : List ListedColumn)).flatMap ofColumn) := by
  match groupBy with
  | .columns [] => exact allBalanced_nil
  | .columns (item :: items) =>
    rw [Option.getD_some, List.flatMap_map]
    exact h
  | .text s =>
    simp only
    split
    · exact allBalanced_nil
    · exact balanced_ofText (allBalanced_cons.1 h).1

theorem allBalanced_ofFacet {entry : Entry} (h : AllBalanced (ofFacetEntry entry)) :
    AllBalanced (ofFacet (Facet.ofEntry entry)) := by
  have hmapping (fields : Value) (m : Mapping) (hm : AllBalanced (ofFacetMapping fields m)) :
      AllBalanced (ofFacet (.ok (Facet.ofMapping fields m))) := by
    obtain ⟨hfields, horder⟩ := allBalanced_append.1 hm
    refine allBalanced_append.2 ⟨?_, horder⟩
    rw [Facet.ofMapping, List.flatMap_map]
    exact allBalanced_flatMap.2 fun entry hentry =>
      allBalanced_ofField (allBalanced_flatMap.1 hfields entry hentry)
  match entry with
  | (none, v) => exact hmapping v [] h
  | (some key, v) =>
    cases v with
    | map m => exact hmapping (.text key) m h
    | _ => exact allBalanced_nil

/-- The label that a nested query is given by its place. -/
theorem balanced_positionLabel (position : Nat) :
    Parens.Balanced s!"_sub{position}".toList := by
  have hword : Parens.Leads 0 0 "_sub".toList := by decide
  exact balanced_iff_leads.2 (hword.concat (Layout.leads_toString position))

theorem allBalanced_ofComparison {token : String} {indexes : List Index} {operands : List Value}
    (h : AllBalanced ((Condition.ofComparison token operands).leaves c indexes)) :
    AllBalanced ((Condition.ofComparison (Operator.normalize token) operands).leaves c
      indexes) := by
  match operands with
  | [column, operand] =>
    obtain ⟨hcolumn, hrest⟩ := allBalanced_cons.1 h
    obtain ⟨htoken, hoperand⟩ := allBalanced_cons.1 hrest
    exact allBalanced_cons.2 ⟨hcolumn, allBalanced_cons.2 ⟨balanced_normalize.2 htoken, hoperand⟩⟩
  | [] | [_] | _ :: _ :: _ :: _ => exact allBalanced_nil

mutual

/-- **What a condition supplies is balanced** if what it is given is. -/
theorem allBalanced_condition (indexes : List Index) (v : Value)
    (h : AllBalanced (Condition.uncut c indexes v)) :
    AllBalanced ((Condition.ofValue v).leaves c indexes) := by
  match v with
  | .null => exact allBalanced_nil
  | .text s =>
    rw [Condition.ofValue]
    split
    · exact allBalanced_nil
    · exact h
  | .map [] => exact allBalanced_nil
  | .map (entry :: rest) =>
    rw [Condition.ofValue]
    · exact allBalanced_entries indexes (entry :: rest) h
    · simp
  | .list items => exact allBalanced_form indexes items h
  | .tuple items => exact allBalanced_form indexes items h
  | .bool _ | .int _ | .float _ | .bytes _ | .buffer _ | .set _ | .raw _ _ | .query _ =>
    simp only [Condition.ofValue, Condition.leaves_showing]
    exact h

theorem allBalanced_entries (indexes : List Index) (entries : List (Value × Value))
    (h : AllBalanced (Condition.uncutEntries c indexes entries)) :
    AllBalanced (Condition.leavesAll c indexes (Condition.ofEntries entries)) := by
  match entries with
  | [] => exact allBalanced_nil
  | (key, v) :: rest =>
    obtain ⟨hentry, hrest⟩ := allBalanced_append.1 h
    rw [Condition.ofEntries, Condition.leavesAll, Condition.leaves_showing]
    exact allBalanced_append.2
      ⟨allBalanced_entry indexes _ v hentry, allBalanced_entries indexes rest hrest⟩

theorem allBalanced_entry (indexes : List Index) (column v : Value)
    (h : AllBalanced (Condition.uncutEntry c indexes column v)) :
    AllBalanced ((Condition.ofEntry column v).leaves c indexes) := by
  match v with
  | .query q =>
    obtain ⟨hcolumn, hq⟩ := allBalanced_cons.1 h
    exact allBalanced_cons.2 ⟨hcolumn, allBalanced_selection q hq⟩
  | .null | .bool _ | .int _ | .float _ | .text _ | .bytes _ | .buffer _ | .list _ | .tuple _
  | .set _ | .map _ | .raw _ _ => exact h

theorem allBalanced_form (indexes : List Index) (items : List Value)
    (h : AllBalanced (Condition.uncutForm c indexes items)) :
    AllBalanced ((Condition.ofForm items).leaves c indexes) := by
  match items with
  | [] =>
    rw [Condition.ofForm]
    exact allBalanced_nil
  | token :: operands =>
    -- only a text is read as an operator; in any other form nothing is written
    by_cases htoken : token.text? = none
    · rw [Condition.leaves_ofForm_of_text?_eq_none c indexes htoken]
      exact allBalanced_nil
    · obtain ⟨s, rfl⟩ := Value.exists_text_of_text?_ne_none htoken
      rw [Condition.uncutForm] at h
      rw [Condition.ofForm]
      cases hkeyword : Operator.ofKeyword? (Operator.normalize s) with
      | none =>
        rw [hkeyword] at h
        exact allBalanced_ofComparison h
      | some operator =>
        rw [hkeyword] at h
        cases operator with
        | and | or => exact allBalanced_operands indexes operands h
        | not => exact allBalanced_denied indexes operands h
        | among => exact allBalanced_membership indexes false operands h
        | notAmong => exact allBalanced_membership indexes true operands h
        | between | notBetween | like | notLike | orLike | orNotLike => exact h

theorem allBalanced_operands (indexes : List Index) (operands : List Value)
    (h : AllBalanced (Condition.uncutOperands c indexes operands)) :
    AllBalanced (Condition.leavesAll c indexes (Condition.ofOperands operands)) := by
  match operands with
  | [] =>
    rw [Condition.ofOperands]
    exact allBalanced_nil
  | v :: rest =>
    rw [Condition.uncutOperands, allBalanced_append] at h
    rw [Condition.ofOperands, Condition.leavesAll, allBalanced_append]
    exact ⟨allBalanced_condition indexes v h.1, allBalanced_operands indexes rest h.2⟩

theorem allBalanced_denied (indexes : List Index) (operands : List Value)
    (h : AllBalanced (Condition.uncutOperands c indexes operands)) :
    AllBalanced ((Condition.ofDenied operands).leaves c indexes) := by
  match operands with
  | [operand] => exact allBalanced_condition indexes operand (allBalanced_append.1 h).1
  | [] | _ :: _ :: _ => exact allBalanced_nil

theorem allBalanced_membership (indexes : List Index) (negated : Bool) (operands : List Value)
    (h : AllBalanced (Condition.uncutMembership c indexes negated operands)) :
    AllBalanced ((Condition.ofMembership negated operands).leaves c indexes) := by
  match operands with
  | column :: values :: _ =>
    rw [Condition.ofMembership]
    split
    · exact allBalanced_nil
    · exact allBalanced_members indexes negated column values h
  | [] | [_] => exact allBalanced_nil

theorem allBalanced_members (indexes : List Index) (negated : Bool) (column v : Value)
    (h : AllBalanced (Condition.uncutMembers c indexes negated column v)) :
    AllBalanced ((Condition.ofMembers negated column v).leaves c indexes) := by
  match v with
  | .query q =>
    rw [Condition.uncutMembers] at h
    rw [Condition.ofMembers]
    split
    · cases negated <;> exact allBalanced_nil
    · rename_i hempty
      rw [if_neg hempty] at h
      obtain ⟨hcolumns, hq⟩ := allBalanced_append.1 h
      exact allBalanced_append.2 ⟨hcolumns, allBalanced_selection q hq⟩
  | .null | .bool _ | .int _ | .float _ | .text _ | .bytes _ | .buffer _ | .list _ | .tuple _
  | .set _ | .map _ | .raw _ _ => exact h

theorem allBalanced_source (position : Nat) (key : Option String) (v : Value)
    (h : AllBalanced (Source.uncut c key v)) :
    AllBalanced ((Source.ofEntry position key v).leaves c) := by
  match v with
  | .query q =>
    obtain ⟨hq, hlabel⟩ := allBalanced_append.1 h
    refine allBalanced_append.2 ⟨allBalanced_selection q hq, ?_⟩
    refine allBalanced_cons.2 ⟨?_, allBalanced_nil⟩
    cases hkey : key.bind nonempty? with
    | none => exact balanced_positionLabel position
    | some label => simpa [hkey] using hlabel
  | .raw sql params => exact h
  | .text s => exact allBalanced_sourceOfText h
  | .null | .bool _ | .int _ | .float _ | .bytes _ | .buffer _ | .list _ | .tuple _ | .set _
  | .map _ => exact allBalanced_sourceOfDisplay h

theorem allBalanced_sourceItems (position : Nat) (items : List Value)
    (h : AllBalanced (Source.uncutItems c items)) :
    AllBalanced (Source.leavesAll c (Source.ofItems position items)) := by
  match items with
  | [] => exact allBalanced_nil
  | v :: rest =>
    obtain ⟨hv, hrest⟩ := allBalanced_append.1 h
    exact allBalanced_append.2
      ⟨allBalanced_source position none v hv, allBalanced_sourceItems (position + 1) rest hrest⟩

theorem allBalanced_sourcePairs (position : Nat) (pairs : List (Value × Value))
    (h : AllBalanced (Source.uncutPairs c pairs)) :
    AllBalanced (Source.leavesAll c (Source.ofPairs position pairs)) := by
  match pairs with
  | [] => exact allBalanced_nil
  | (key, v) :: rest =>
    obtain ⟨hv, hrest⟩ := allBalanced_append.1 h
    exact allBalanced_append.2 ⟨allBalanced_source position key.text? v hv,
      allBalanced_sourcePairs (position + 1) rest hrest⟩

theorem allBalanced_sources (entries : Entries Value)
    (h : AllBalanced (Source.uncutAll c entries)) :
    AllBalanced (Source.leavesAll c (Source.listOf entries)) := by
  match entries with
  | .positional items => exact allBalanced_sourceItems 0 items h
  | .keyed pairs => exact allBalanced_sourcePairs 0 pairs h

/-- **What a query supplies is balanced** if what it is given is. -/
theorem allBalanced_selection (q : Clauses Value) (h : AllBalanced (Selection.uncut c q)) :
    AllBalanced ((Selection.ofQuery q).leaves c) := by
  match q with
  | { select, distinct, modifier, source, joins, fulltext, condition, groupBy, within, having,
      orderBy, limit, offset, options, facets, showMeta, params } =>
    simp only [Selection.uncut, allBalanced_append] at h
    obtain ⟨⟨⟨⟨⟨⟨⟨⟨⟨⟨hmodifier, hselect⟩, hsource⟩, hfulltext⟩, hcondition⟩, hgroups⟩, hwithin⟩,
      hhaving⟩, horder⟩, hoptions⟩, hfacets⟩ := h
    have hfields : AllBalanced ((select.toEntries.map Field.ofEntry).flatMap ofField) := by
      rw [List.flatMap_map]
      exact allBalanced_flatMap.2 fun entry hentry =>
        allBalanced_ofField (allBalanced_flatMap.1 hselect entry hentry)
    have hcounted : AllBalanced ((facets.toEntries.map Facet.ofEntry).flatMap ofFacet) := by
      rw [List.flatMap_map]
      exact allBalanced_flatMap.2 fun entry hentry =>
        allBalanced_ofFacet (allBalanced_flatMap.1 hfacets entry hentry)
    simp only [Selection.ofQuery, Selection.leaves]
    refine allBalanced_cons.2 ⟨trivial, ?_⟩
    split
    · exact allBalanced_nil
    · simp only [allBalanced_append, List.flatMap_map]
      simp only [List.flatMap_map] at hfields hcounted
      exact ⟨⟨⟨⟨⟨⟨⟨⟨⟨⟨hmodifier, hfields⟩, allBalanced_sources source hsource⟩, hfulltext⟩,
        allBalanced_condition _ condition hcondition⟩, allBalanced_groups hgroups⟩, hwithin⟩,
        allBalanced_condition _ having hhaving⟩, horder⟩, hoptions⟩, hcounted⟩

end

end Leaf

end SearchSql
