import SearchSql.Proofs.Formula.Atom
import SearchSql.Proofs.Formula.Written
import SearchSql.Proofs.Grammar.Capitals

/-!
# Conditions keep their meaning

The text that is written for a condition is read as a condition that says the same: NOT, AND
and OR are read with their precedence, and operands that say nothing are left out. The induction
is on the value that describes the condition, one case for each form.

## Main statements

* `Formula.describes_entry`, `Formula.describes_membership`, `Formula.describes_patterns`,
  `Formula.describes_bounds`, `Formula.describes_comparison` — conditions on columns.
* `Formula.describes_condition` — the layout of a condition says what the condition says.
-/
namespace SearchSql.Formula

variable {assumed : List Char → Bool} {stem : String} {c : Connection}

open Grammar Layout

/-! ## Conditions on columns -/

section Columns

variable (hd : c.dialect.KeepsPlain) (hnames : ∀ n, isInert (Params.numbered stem n).toList)
  (indexes : List Index)

theorem not_sound_fault (f : Fault) : ¬ Layout.Sound [.fault f] := by
  simp [Piece.isFault]

/-- Where nothing is wrong, a condition is written for which a value can be written out. -/
theorem showing_of_sound {v : Value} {condition : Condition}
    (h : ((Condition.showing v condition).layout c indexes).Sound) :
    Condition.showing v condition = condition := by
  rcases Condition.showing_eq_or v condition with heq | heq
  · exact heq
  · rw [heq, Condition.layout] at h
    exact absurd (sound_ofRecord h _ (List.mem_cons_self ..)) (not_sound_fault _)

/-- A scalar or a list is what is compared with a single column. -/
theorem cell_of_isData (column : Value) {v : Value} (h : v.isData) :
    Value.cell column v = .ok v := by
  cases v with
  | map entries => simp [Value.isData] at h
  | _ => rfl

/-- What is no mapping is no row. -/
theorem rowOf_of_isData (keyword : String) (columns : List Value) {v : Value} (h : v.isData) :
    Condition.rowOf keyword columns v = [.error (.rowNotMapping keyword v.kind)] := by
  cases v with
  | map entries => simp [Value.isData] at h
  | _ => rfl

theorem areData_members {v : Value} (h : v.isData) : Value.areData (v.members?.getD [v]) := by
  cases v with
  | list items | tuple items | set items => simpa [Value.isData, Value.members?] using h
  | raw sql params | query q | map entries => simp [Value.isData] at h
  | _ => simp [Value.members?, Value.areData, Value.isData]

include hd in
theorem isPlain_quoteValue {v : Value} (h : v.isPlainName) : isPlain (c.quoteValue v).toList := by
  rw [Connection.quoteValue, Connection.quote, Dialect.toList_quote]
  exact hd.isPlain_quoteChars h

/-- Rows that are no mappings are faults, so several columns are not compared with them. -/
theorem not_sound_amongRows (negated : Bool) {first second : Value} {others values : List Value}
    (hne : values ≠ []) (h : Value.areData values) (keyword : String) :
    ¬ ((Condition.amongRows negated (first :: second :: others)
      (values.map (Condition.rowOf keyword (first :: second :: others)))).layout c
        indexes).Sound := by
  obtain ⟨v, rest, rfl⟩ := List.exists_cons_of_ne_nil hne
  have hv : v.isData := isData_of_mem h (List.mem_cons_self ..)
  intro hsound
  rw [Condition.layout, ofRows, sound_append, sound_enclose] at hsound
  have hrow :=
    sound_join hsound.1 _ (List.mem_map_of_mem (List.mem_map_of_mem (List.mem_cons_self ..)))
  rw [sound_enclose, rowOf_of_isData keyword _ hv] at hrow
  exact not_sound_fault _ hrow

include hd hnames

/-- A single column that is one of some values, or none of them. -/
theorem describes_members (negated : Bool) {column : Value} {values : List Value}
    (hname : column.isPlainName) (hne : values ≠ []) (h : Value.areData values)
    (hsound : (Layout.ofMembership c negated column
      (values.map (Layout.ofValue indexes column))).Sound) :
    Describes assumed stem (ofMembers c indexes negated column values)
      (Layout.ofMembership c negated column (values.map (Layout.ofValue indexes column))) := by
  refine describes_atom (isWrittenAs_ofMembership negated hne fun v hv =>
    sound_ofMembership hsound _ (List.mem_map_of_mem hv)) fun p => ?_
  refine isPredicate_ofMembership (isPlain_quoteValue hd hname) negated (by simpa using hne) ?_ p
  intro l hl
  obtain ⟨v, hv, rfl⟩ := List.mem_map.1 hl
  exact neutral_ofValue hnames indexes column (isData_of_mem h hv)

omit hd hnames in
/-- Membership of a single column in data. -/
theorem layout_amongValues (negated : Bool) {column single : Value} {values : List Value}
    (hcolumn : column.columns = [single]) (h : Value.areData values) :
    (Condition.amongValues negated column values).layout c indexes =
      Layout.ofMembership c negated single (values.map (Layout.ofValue indexes single)) ++
        naming [single] := by
  have hcells : values.map (Value.cell single) = values.map .ok :=
    List.map_congr_left fun v hv => cell_of_isData single (isData_of_mem h hv)
  simp only [Condition.amongValues, hcolumn, Condition.layout, hcells, List.map_map]
  rfl

/-- An entry of a mapping. -/
theorem describes_entry {name : String} {v : Value} (hname : isPlain name.toList) (hv : v.isData)
    (hsound : ((Condition.ofEntry (.text name) v).layout c indexes).Sound) :
    Describes assumed stem (ofEntry c indexes (.text name) v)
      ((Condition.ofEntry (.text name) v).layout c indexes) := by
  have hcolumn : (Value.text name).isPlainName := hname
  have hsingle (hdata : Value.areData [v])
      (h : (Layout.ofMembership c false (.text name)
        [Layout.ofValue indexes (.text name) v]).Sound) :
      Describes assumed stem (ofMembers c indexes false (.text name) [v])
        (Layout.ofMembership c false (.text name) [Layout.ofValue indexes (.text name) v]) :=
    describes_members hd hnames indexes false hcolumn (List.cons_ne_nil v []) hdata h
  have hlist (items : List Value) (hne : items ≠ []) (hitems : Value.areData items)
      (h : ((Condition.amongValues false (.text name) items).layout c indexes).Sound) :
      Describes assumed stem (ofMembers c indexes false (.text name) items)
        ((Condition.amongValues false (.text name) items).layout c indexes) := by
    have hnamed : naming [Value.text name] = [] := rfl
    rw [layout_amongValues indexes false rfl hitems, hnamed, List.append_nil] at h ⊢
    exact describes_members hd hnames indexes false hcolumn hne hitems h
  cases v with
  | list items | tuple items | set items =>
    cases items with
    | nil => exact describes_never
    | cons first rest =>
      exact hlist (first :: rest) (List.cons_ne_nil _ _) (by simpa [Value.isData] using hv) hsound
  | null =>
    exact describes_atom (isWrittenAs_text _) fun p =>
      isPredicate_isNull (isPlain_quoteValue hd hcolumn) p
  | bool | int | float | text | bytes | buffer => exact hsingle rfl hsound
  | raw | query | map => simp [Value.isData] at hv

/-- A column between bounds. -/
theorem describes_bounds (negated : Bool) {operands : List Value}
    (hplain : Value.arePlainOperands none operands)
    (hsound : ((Condition.ofBounds negated operands).layout c indexes).Sound) :
    Describes assumed stem (ofBounds c indexes negated operands)
      ((Condition.ofBounds negated operands).layout c indexes) := by
  match operands with
  | [column, low, high] =>
    simp only [Value.arePlainOperands, Value.areData, Bool.and_eq_true] at hplain
    obtain ⟨hname, hlow, hhigh, -⟩ := hplain
    simp only [Condition.ofBounds] at hsound ⊢
    split at hsound
    · exact absurd hsound (not_sound_fault _)
    · rename_i hgiven
      rw [if_neg hgiven]
      rw [Condition.layout] at hsound ⊢
      rw [hsound.append_naming_eq]
      obtain ⟨hwritten, -⟩ := sound_append.1 hsound
      rw [List.cons_append, sound_cons, sound_append, sound_cons] at hwritten
      exact describes_atom (isWrittenAs_between negated hwritten.2.1 hwritten.2.2.2) fun p =>
        isPredicate_between (isPlain_quoteValue hd hname) negated
          (neutral_ofValue hnames indexes column hlow)
          (neutral_ofValue hnames indexes column hhigh) p
  | [] | [_] | [_, _] | _ :: _ :: _ :: _ :: _ => exact absurd hsound (not_sound_fault _)

/-- A column that is compared with a value. -/
theorem describes_comparison {keyword : String} (hkeyword : isInert keyword.toList)
    {operands : List Value} (hplain : Value.arePlainOperands none operands)
    (hsound : ((Condition.ofComparison keyword operands).layout c indexes).Sound) :
    Describes assumed stem (ofComparison c keyword operands)
      ((Condition.ofComparison keyword operands).layout c indexes) := by
  match operands with
  | [column, operand] =>
    simp only [Value.arePlainOperands, Value.areData, Bool.and_eq_true] at hplain
    obtain ⟨hname, hoperand, -⟩ := hplain
    rw [Condition.ofComparison, Condition.layout] at hsound ⊢
    rw [hsound.naming_append_eq]
    exact describes_atom (isWrittenAs_compared keyword operand) fun p =>
      isPredicate_compared (isPlain_quoteValue hd hname) hkeyword
        (neutral_ofCompared hnames hoperand) p
  | [] | [_] | _ :: _ :: _ :: _ => exact absurd hsound (not_sound_fault _)

omit hd hnames in
/-- What is said of no values is written as nothing, or as what never holds. -/
theorem describes_nothing (negated : Bool) :
    Describes assumed stem (ofNothing negated)
      ((Condition.amongNothing negated).layout c indexes) := by
  cases negated with
  | false => exact describes_never
  | true => exact describes_absent

omit hd hnames in
/-- The condition that membership in data is. -/
theorem ofMembership_eq (negated : Bool) {column values : Value} (hcolumn : column.isNull = false)
    (hnull : values.isNull = false) (hdata : values.isData) (rest : List Value) :
    Condition.ofMembership negated (column :: values :: rest) =
      if values.isEmptyList || column.isEmptyList then Condition.amongNothing negated
      else Condition.amongValues negated column (values.members?.getD [values]) := by
  simp only [Condition.ofMembership, hcolumn]
  cases values with
  | null => simp [Value.isNull] at hnull
  | raw | query | map => simp [Value.isData] at hdata
  | _ => rfl

omit hd hnames in
theorem columns_ne_nil {column : Value} (h : column.isEmptyList = false) : column.columns ≠ [] := by
  cases column with
  | list items | tuple items => simpa [Value.columns, Value.isEmptyList, Value.members?] using h
  | _ => simp [Value.columns]

omit hd hnames in
theorem members_ne_nil {values : Value} (h : values.isEmptyList = false) :
    values.members?.getD [values] ≠ [] := by
  rw [Value.isEmptyList] at h
  cases hfound : values.members? with
  | none => simp
  | some items => simp_all

/-- Membership of columns in values. -/
theorem describes_membership (negated : Bool) {operands : List Value}
    (hplain : Value.arePlainOperands (some .among) operands)
    (hsound : ((Condition.ofMembership negated operands).layout c indexes).Sound) :
    Describes assumed stem (ofMembership c indexes negated operands)
      ((Condition.ofMembership negated operands).layout c indexes) := by
  match operands with
  | [] | [_] => exact absurd hsound (not_sound_fault _)
  | column :: values :: rest =>
    simp only [Value.arePlainOperands, Bool.and_eq_true] at hplain
    obtain ⟨hcolumns, hvalues⟩ := hplain
    by_cases hcolumn : column.isNull
    · simp only [Condition.ofMembership, hcolumn, if_true] at hsound
      exact absurd hsound (not_sound_fault _)
    · by_cases hnull : values.isNull
      · obtain rfl : values = .null := by
          cases values <;> first | rfl | simp [Value.isNull] at hnull
        simp only [Condition.ofMembership, hcolumn] at hsound
        exact absurd hsound (not_sound_fault _)
      · have hmembers := ofMembership_eq negated (by simpa using hcolumn) (by simpa using hnull)
          hvalues rest
        rw [ofMembership, hmembers]
        rw [hmembers] at hsound
        by_cases hempty : values.isEmptyList || column.isEmptyList
        · rw [if_pos hempty, if_pos hempty]
          exact describes_nothing indexes negated
        · rw [if_neg hempty] at hsound
          rw [if_neg hempty, if_neg hempty]
          simp only [Bool.or_eq_true, not_or, Bool.not_eq_true] at hempty
          have hdata := areData_members hvalues
          have hne := members_ne_nil hempty.1
          match hmatch : column.columns with
          | [] => exact absurd hmatch (columns_ne_nil hempty.2)
          | [single] =>
            have hname : single.isPlainName := by
              rw [hmatch] at hcolumns
              simpa using hcolumns
            rw [layout_amongValues indexes negated hmatch hdata] at hsound ⊢
            rw [hsound.append_naming_eq]
            exact describes_members hd hnames indexes negated hname hne hdata
              (sound_append.1 hsound).1
          | first :: second :: others =>
            rw [Condition.amongValues, hmatch] at hsound
            exact absurd hsound (not_sound_amongRows indexes negated hne hdata _)

/-- Patterns of a column, each of which is a predicate by itself. -/
theorem describes_like (negated any : Bool) {column : Value} {escape : Option Value}
    {patterns : List Value} (hname : column.isPlainName) (hne : patterns ≠ [])
    (h : Value.areData patterns)
    (hsound : (Layout.ofPatterns c negated any column escape patterns).Sound) :
    Describes assumed stem
      (.connected (if any then .or else .and) <| patterns.map fun v =>
        let pattern := Mark.ofPattern (escape.getD (Like.tableValue c.settings.likeEscape)) v
        .atom (if negated then .notLike (c.quoteValue column) pattern
          else .like (c.quoteValue column) pattern))
      (Layout.ofPatterns c negated any column escape patterns) := by
  rw [Layout.ofPatterns] at hsound ⊢
  let piece (pattern : Value) : Layout :=
    .text (c.quoteValue column ++ " " ++ deny negated "LIKE" ++ " ") ::
      ofPattern (escape.getD (Like.tableValue c.settings.likeEscape)) pattern
  have hconnective : (if any then " OR " else " AND ") =
      " " ++ (if any then Connective.or else Connective.and).word ++ " " := by
    cases any <;> rfl
  have hpieces : ∀ pattern ∈ patterns, (piece pattern).Sound := fun pattern hpattern =>
    sound_join hsound _ (List.mem_map_of_mem hpattern)
  have hpredicates : ∀ l ∈ patterns.map piece, ∀ p, IsPredicate (charsAt stem l p) := by
    intro l hl p
    obtain ⟨pattern, hpattern, rfl⟩ := List.mem_map.1 hl
    exact isPredicate_pattern (isPlain_quoteValue hd hname) negated
      (neutral_ofPattern hnames _ (isData_of_mem h hpattern)) p
  have hwritten : List.Forall₂
      (fun predicate l => IsWrittenAs stem l (Predicate.write stem predicate))
      (patterns.map fun v =>
        let pattern := Mark.ofPattern (escape.getD (Like.tableValue c.settings.likeEscape)) v
        if negated then Predicate.notLike (c.quoteValue column) pattern
        else .like (c.quoteValue column) pattern)
      (patterns.map piece) := by
    rw [List.forall₂_map_left_iff, List.forall₂_map_right_iff, List.forall₂_same]
    exact fun pattern hpattern =>
      isWrittenAs_pattern negated (sound_cons.1 (hpieces pattern hpattern)).2
  have hjoin : Describes assumed stem _ _ :=
    describes_join (if any then Connective.or else .and) (by simpa using hne) hwritten hpredicates
  rw [List.map_map, ← hconnective] at hjoin
  exact hjoin

omit hd hnames in
/-- The condition that patterns of a column are, whatever holds the patterns. -/
theorem ofPatterns_eq (operator : Operator) (negated any : Bool) {column values : Value}
    (hcolumn : column.isNull = false) (hvalues : values.isNull = false) (rest : List Value) :
    Condition.ofPatterns operator negated any (column :: values :: rest) =
      if (values.members?.getD [values]).isEmpty then Condition.amongNothing negated
      else .like negated any column (rest.head?.filter fun given => !given.isNull)
        (values.members?.getD [values]) := by
  simp only [Condition.ofPatterns, hcolumn, hvalues, Bool.or_self, Bool.false_eq_true, if_false]
  rcases rest with _ | ⟨given, _⟩
  · rcases values.members? with _ | _ | _ <;> rfl
  · cases given <;> rcases values.members? with _ | _ | _ <;> rfl

/-- Patterns that a column matches. -/
theorem describes_patterns (operator : Operator) (negated any : Bool) {operands : List Value}
    (hplain : Value.arePlainOperands (some .like) operands)
    (hsound : ((Condition.ofPatterns operator negated any operands).layout c indexes).Sound) :
    Describes assumed stem (ofPatterns c negated any operands)
      ((Condition.ofPatterns operator negated any operands).layout c indexes) := by
  rcases operands with _ | ⟨column, _ | ⟨values, rest⟩⟩
  · exact absurd hsound (not_sound_fault _)
  · exact absurd hsound (not_sound_fault _)
  · simp only [Value.arePlainOperands, Bool.and_eq_true] at hplain
    obtain ⟨hname, hvalues⟩ := hplain
    by_cases hgiven : column.isNull || values.isNull
    · simp only [Condition.ofPatterns, hgiven, if_true] at hsound
      exact absurd hsound (not_sound_fault _)
    · simp only [Bool.or_eq_true, not_or, Bool.not_eq_true] at hgiven
      rw [ofPatterns_eq operator negated any hgiven.1 hgiven.2] at hsound ⊢
      rw [ofPatterns]
      have hdata := areData_members hvalues
      rcases hpatterns : values.members?.getD [values] with _ | ⟨first, others⟩
      · exact describes_nothing indexes negated
      · rw [hpatterns] at hdata hsound
        simp only [List.isEmpty_cons, Bool.false_eq_true, if_false, Condition.layout] at hsound ⊢
        rw [hsound.naming_append_eq]
        exact describes_like hd hnames negated any hname (List.cons_ne_nil _ _) hdata
          (sound_append.1 hsound).2

/-- The entries of a mapping. -/
theorem describes_entries {entries : List (Value × Value)}
    (hplain : Value.arePlainEntries entries)
    (hsound : ∀ l ∈ Condition.layouts c indexes (Condition.ofEntries entries), l.Sound) :
    List.Forall₂ (Describes assumed stem) (ofEntries c indexes entries)
      (Condition.layouts c indexes (Condition.ofEntries entries)) := by
  induction entries with
  | nil => exact .nil
  | cons pair rest ih =>
    obtain ⟨key, v⟩ := pair
    simp only [Value.arePlainEntries, List.all_cons, Bool.and_eq_true] at hplain
    obtain ⟨⟨hname, hv⟩, hrest⟩ := hplain
    obtain ⟨hfirst, hothers⟩ := List.forall_mem_cons.1 hsound
    have hshown := showing_of_sound indexes hfirst
    rw [hshown] at hfirst
    rw [Condition.ofEntries, Condition.layouts, hshown]
    exact .cons (describes_entry hd hnames indexes hname hv hfirst) (ih hrest hothers)

end Columns

/-- A raw text. -/
theorem describes_text {s : String} (h : s.isEmpty || isPlain s.toList) :
    Describes assumed stem (ofText s) (Layout.ofText s) := by
  rw [ofText, Layout.ofText]
  split
  · exact describes_absent
  · rename_i hempty
    have hplain : isPlain s.toList := by simpa [hempty] using h
    refine describes_atom (isWrittenAs_text s) fun p => ?_
    simpa [Params.written] using isPredicate_of_isPlain_self hplain

/-! ## The induction -/

mutual

/-- **The layout of a condition says what the condition says.** -/
theorem describes_condition (hd : c.dialect.KeepsPlain)
    (hnames : ∀ n, isInert (Params.numbered stem n).toList) (indexes : List Index) (v : Value) :
    v.isPlainCondition → ((Condition.ofValue v).layout c indexes).Sound →
      Describes assumed stem (ofValue c indexes v) ((Condition.ofValue v).layout c indexes) := by
  match v with
  | .null => exact fun _ _ => describes_absent
  | .map [] => exact fun _ _ => describes_connect .and .nil
  | .map (pair :: rest) =>
    intro hplain hsound
    exact describes_record (describes_entries hd hnames indexes hplain (sound_ofRecord hsound))
  | .list items => exact describes_form hd hnames indexes items
  | .tuple items => exact describes_form hd hnames indexes items
  | .text s =>
    intro hplain _
    have hlayout : (Condition.ofValue (.text s)).layout c indexes = Layout.ofText s := by
      rw [Condition.ofValue, Layout.ofText]
      split <;> simp_all [Condition.layout, Layout.ofText]
    rw [hlayout]
    exact describes_text hplain
  | .bool _ | .int _ | .float _ | .bytes _ | .buffer _ | .set _ | .raw _ _ | .query _ =>
    intro hplain hsound
    simp only [Condition.ofValue] at hsound ⊢
    rw [showing_of_sound indexes hsound]
    exact describes_text hplain

/-- The layout of a condition in operator form says what the condition says. -/
theorem describes_form (hd : c.dialect.KeepsPlain)
    (hnames : ∀ n, isInert (Params.numbered stem n).toList) (indexes : List Index)
    (items : List Value) :
    Value.isPlainForm items → ((Condition.ofForm items).layout c indexes).Sound →
      Describes assumed stem (ofForm c indexes items)
        ((Condition.ofForm items).layout c indexes) := by
  match items with
  | [] => exact fun _ _ => describes_absent
  | .text token :: operands =>
    simp only [Value.isPlainForm, Condition.ofForm, ofForm]
    cases hoperator : Operator.ofKeyword? (Operator.normalize token) with
    | none =>
      intro hplain hsound
      obtain ⟨htoken, hoperands⟩ := Bool.and_eq_true_iff.1 hplain
      exact describes_comparison hd hnames indexes (isInert_normalize htoken) hoperands hsound
    | some operator =>
      cases operator with
      | and =>
        intro hplain hsound
        exact describes_connect .and
          (describes_operands hd hnames indexes operands hplain (sound_connect hsound))
      | or =>
        intro hplain hsound
        exact describes_connect .or
          (describes_operands hd hnames indexes operands hplain (sound_connect hsound))
      | not => exact describes_denied hd hnames indexes operands
      | between => exact describes_bounds hd hnames indexes false
      | notBetween => exact describes_bounds hd hnames indexes true
      | among => exact describes_membership hd hnames indexes false
      | notAmong => exact describes_membership hd hnames indexes true
      | like | notLike | orLike | orNotLike => exact describes_patterns hd hnames indexes _ _ _
  | .null :: _ | .bool _ :: _ | .int _ :: _ | .float _ :: _ | .bytes _ :: _ | .buffer _ :: _
  | .list _ :: _ | .tuple _ :: _ | .set _ :: _ | .map _ :: _ | .raw _ _ :: _ | .query _ :: _ =>
    exact fun _ hsound => absurd hsound (not_sound_fault _)

/-- The layouts of the conditions of a list say what the conditions say. -/
theorem describes_operands (hd : c.dialect.KeepsPlain)
    (hnames : ∀ n, isInert (Params.numbered stem n).toList) (indexes : List Index)
    (operands : List Value) :
    Value.arePlainConditions operands →
      (∀ l ∈ Condition.layouts c indexes (Condition.ofOperands operands), l.Sound) →
        List.Forall₂ (Describes assumed stem) (ofOperands c indexes operands)
          (Condition.layouts c indexes (Condition.ofOperands operands)) := by
  match operands with
  | [] => exact fun _ _ => .nil
  | v :: rest =>
    intro hplain hsound
    obtain ⟨hv, hrest⟩ := Bool.and_eq_true_iff.1 hplain
    obtain ⟨hfirst, hothers⟩ := List.forall_mem_cons.1 hsound
    exact .cons (describes_condition hd hnames indexes v hv hfirst)
      (describes_operands hd hnames indexes rest hrest hothers)

/-- The layout of a denial says the contrary of the condition. -/
theorem describes_denied (hd : c.dialect.KeepsPlain)
    (hnames : ∀ n, isInert (Params.numbered stem n).toList) (indexes : List Index)
    (operands : List Value) :
    Value.arePlainConditions operands → ((Condition.ofDenied operands).layout c indexes).Sound →
      Describes assumed stem (ofDenied c indexes operands)
        ((Condition.ofDenied operands).layout c indexes) := by
  match operands with
  | [] | _ :: _ :: _ => exact fun _ hsound => absurd hsound (not_sound_fault _)
  | [operand] =>
    intro hplain hsound
    have hoperand := (Bool.and_eq_true_iff.1 hplain).1
    have hinner : ((Condition.ofValue operand).layout c indexes).Sound := by
      simp only [Condition.ofDenied, Condition.layout] at hsound
      split at hsound
      · rename_i hempty
        rw [List.isEmpty_iff.1 hempty]
        exact sound_nil
      · exact sound_enclose.1 hsound
    exact describes_negation (describes_condition hd hnames indexes operand hoperand hinner)

end

end SearchSql.Formula
