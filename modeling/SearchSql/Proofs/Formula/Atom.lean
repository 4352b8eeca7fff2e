import SearchSql.Proofs.Formula.Composition
import SearchSql.Proofs.Grammar.Quoting

/-!
# Predicates

Every condition on one column that is not combined of others is written as a predicate: it begins
with the name of the column, and what is written behind that does not end it. Values never end
a predicate, since names of parameters and lists of them in parentheses are written for them.

## Main definitions

* `Grammar.IsNeutral` — texts that belong to the predicate that they stand in.
* `Layout.Neutral` — layouts that are always written as such texts.

## Main statements

* `Layout.neutral_ofValue` — values of columns.
* `Layout.isPredicate_between`, `Layout.isPredicate_ofMembership`, `Layout.isPredicate_ofPatterns`,
  `Layout.isPredicate_compared` — predicates.
-/
namespace SearchSql

namespace Grammar

/-- A text that belongs to the predicate that it stands in. -/
def IsNeutral (cs : List Char) : Prop := ∀ x : Extent, x.run (lex cs) = some x

theorem isNeutral_nil : IsNeutral [] := fun _ => rfl

/-- Tokens that do nothing do not end a predicate, and neither does a NOT in it. -/
theorem Extent.run_of_isInert_or {tokens : List Token}
    (h : ∀ t ∈ tokens, t.isInert ∨ t.kind = .negation) (x : Extent) :
    x.run tokens = some x := by
  induction tokens with
  | nil => rfl
  | cons t tokens ih =>
    obtain ⟨ht, hrest⟩ := List.forall_mem_cons.1 h
    have hstep : x.step t = some x := by
      have hkind : (t.kind = .ordinary ∨ t.kind = .blank) ∨ t.kind = .negation := by
        simpa [Token.isInert] using ht
      rcases hkind with (hkind | hkind) | hkind <;> simp [Extent.step, hkind]
    rw [run_cons, hstep]
    exact ih hrest

theorem Extent.run_of_isInert {tokens : List Token} (h : ∀ t ∈ tokens, t.isInert) (x : Extent) :
    x.run tokens = some x :=
  run_of_isInert_or (fun t ht => Or.inl (h t ht)) x

theorem isNeutral_of_isInert {cs : List Char} (h : isInert cs) : IsNeutral cs :=
  Extent.run_of_isInert (by simpa [isInert] using h)

theorem IsNeutral.seam {cs between ds : List Char} (hcs : IsNeutral cs)
    (hbetween : separates between) (hneutral : IsNeutral between) (hds : IsNeutral ds) :
    IsNeutral (cs ++ (between ++ ds)) := by
  intro x
  rw [lex_seam hbetween, Extent.run_append, hcs, Option.bind_some, Extent.run_append, hneutral,
    Option.bind_some, hds]

/-- A neutral text in parentheses is neutral. -/
theorem IsNeutral.parenthesized {cs : List Char} (h : IsNeutral cs) :
    IsNeutral ("(".toList ++ (cs ++ ")".toList)) := by
  intro x
  have hopening : x.run (lex "(".toList) = some ⟨x.depth + 1, x.isRange⟩ := by
    obtain ⟨depth, isRange⟩ := x
    rfl
  have hclosing : (⟨x.depth + 1, x.isRange⟩ : Extent).run (lex ")".toList) = some x := rfl
  rw [lex_append_right (by decide), lex_append_left (by decide), Extent.run_append, hopening,
    Option.bind_some, Extent.run_append, h, Option.bind_some, hclosing]

theorem isNeutral_intercalate {between : List Char} (h : separates between)
    (hneutral : IsNeutral between) {parts : List (List Char)}
    (hparts : ∀ part ∈ parts, IsNeutral part) : IsNeutral (between.intercalate parts) := by
  induction parts with
  | nil => exact isNeutral_nil
  | cons part rest ih =>
    obtain ⟨hpart, hrest⟩ := List.forall_mem_cons.1 hparts
    cases rest with
    | nil => simpa [List.intercalate_singleton] using hpart
    | cons next others =>
      rw [List.intercalate_cons_cons, List.append_assoc]
      exact hpart.seam h hneutral (ih hrest)

/-- A plain text with a text behind it that does not end the predicate. -/
theorem isPredicate_of_isPlain {cs between ds : List Char} (hcs : isPlain cs)
    (hbetween : separates between) (h : Extent.closed.run (lex between ++ lex ds) = some .closed) :
    IsPredicate (cs ++ (between ++ ds)) := by
  obtain ⟨front, t, rest, hlex, hfront, ht, hrest⟩ := exists_ordinary_of_isPlain hcs
  refine ⟨front, t, rest ++ (lex between ++ lex ds), ?_, hfront, ht, ?_⟩
  · rw [lex_seam hbetween, hlex]
    simp
  · rw [Extent.run_append, Extent.run_of_isInert hrest, Option.bind_some, h]

/-- A plain text is a predicate. -/
theorem isPredicate_of_isPlain_self {cs : List Char} (hcs : isPlain cs) : IsPredicate cs := by
  obtain ⟨front, t, rest, hlex, hfront, ht, hrest⟩ := exists_ordinary_of_isPlain hcs
  exact ⟨front, t, rest, hlex, hfront, ht, Extent.run_of_isInert hrest _⟩

end Grammar

open Grammar

namespace Layout

variable {stem : String}

variable (stem) in
/-- A layout that is always written as a text that belongs to the predicate it stands in. -/
def Neutral (l : Layout) : Prop := ∀ p, IsNeutral (l.charsAt stem p)

theorem neutral_text {s : String} (h : isInert s.toList) : Neutral stem [.text s] := by
  intro p
  simpa [Params.written] using isNeutral_of_isInert h

theorem neutral_fault (f : Fault) : Neutral stem [.fault f] := fun _ => isNeutral_nil

theorem neutral_join {separator : String} (h : separates separator.toList)
    (hneutral : isInert separator.toList) {ls : List Layout} (hls : ∀ l ∈ ls, l.Neutral stem) :
    Neutral stem (join separator ls) := by
  intro p
  rw [charsAt_join]
  refine isNeutral_intercalate h (isNeutral_of_isInert hneutral) ?_
  induction ls generalizing p with
  | nil => simp [textsAt]
  | cons l rest ih =>
    obtain ⟨hl, hrest⟩ := List.forall_mem_cons.1 hls
    exact List.forall_mem_cons.2 ⟨hl p, ih hrest _⟩

variable (hnames : ∀ n, isInert (Params.numbered stem n).toList)

section Values

include hnames

theorem neutral_bind (v : Value) : Neutral stem [.bind v] := by
  intro p
  simpa [Params.written, Params.nextName_eq] using isNeutral_of_isInert (hnames p.size)

theorem neutral_ofBound (column : Option Column) {v : Value} (h : v.isData) :
    Neutral stem (ofBound column v) := by
  cases v with
  | raw sql params => simp [Value.isData] at h
  | _ =>
    simp only [ofBound]
    split
    · exact neutral_bind hnames _
    · exact neutral_fault _

theorem neutral_ofPlain {v : Value} (h : v.isData) : Neutral stem (ofPlain v) := by
  cases v with
  | raw sql params => simp [Value.isData] at h
  | _ => exact neutral_bind hnames _

theorem neutral_ofPattern (table : Value) {v : Value} (h : v.isData) :
    Neutral stem (ofPattern table v) := by
  cases v with
  | raw sql params => simp [Value.isData] at h
  | _ =>
    simp only [ofPattern]
    split
    · exact neutral_bind hnames _
    · exact neutral_fault _

theorem neutral_ofCompared {v : Value} (h : v.isData) : Neutral stem (ofCompared v) := by
  have hplain := neutral_ofPlain hnames h
  cases v with
  | null => exact neutral_text (by decide)
  | _ => exact hplain

end Values

theorem isData_of_mem {items : List Value} (h : Value.areData items) {v : Value}
    (hv : v ∈ items) : v.isData := by
  induction items with
  | nil => simp at hv
  | cons item rest ih =>
    simp only [Value.areData, Bool.and_eq_true] at h
    rcases List.mem_cons.1 hv with rfl | hv
    · exact h.1
    · exact ih h.2 hv

section Values

include hnames

theorem neutral_ofMembers (column : Option Column) {v : Value} (hv : v.isData)
    {items : List Value} (hitems : Value.areData items) :
    Neutral stem (ofMembers column v items) := by
  unfold ofMembers
  split
  · exact neutral_ofBound hnames _ hv
  · intro p
    rw [charsAt_enclose]
    refine IsNeutral.parenthesized (neutral_join (by decide) (by decide) ?_ p)
    intro l hl
    obtain ⟨item, hitem, rfl⟩ := List.mem_map.1 hl
    exact neutral_ofBound hnames _ (isData_of_mem hitems hitem)

/-- **Values never end a predicate.** -/
theorem neutral_ofValue (indexes : List Index) (column : Value) {v : Value} (h : v.isData) :
    Neutral stem (ofValue indexes column v) := by
  have hbound := neutral_ofBound hnames (columnOf indexes column) h
  cases v with
  | null => exact neutral_text (by decide)
  | list items | tuple items | set items =>
    exact neutral_ofMembers hnames _ h (by simpa [Value.isData] using h)
  | raw sql params | query q | map entries => simp [Value.isData] at h
  | bool | int | float | text | bytes | buffer => exact hbound

end Values

/-! ## Predicates -/

theorem append_between (name before word after : String) :
    name ++ before ++ word ++ after = name ++ (before ++ word ++ after) := by
  simp only [String.append_assoc]

section Predicates

variable {c : Connection} {column : Value} (hname : isPlain (c.quoteValue column).toList)

include hname

/-- The name of a column with a layout behind it that does not end the predicate. -/
theorem isPredicate_text {between : String} {l : Layout} (hbetween : separates between.toList)
    (h : ∀ p, Extent.closed.run (lex between.toList ++ lex (l.charsAt stem p)) = some .closed)
    (p : Params) : IsPredicate (charsAt stem (.text (c.quoteValue column ++ between) :: l) p) := by
  have hchars : charsAt stem (.text (c.quoteValue column ++ between) :: l) p =
      (c.quoteValue column).toList ++ (between.toList ++ l.charsAt stem p) := by
    simp [Params.written, Params.after]
  rw [hchars]
  exact isPredicate_of_isPlain hname hbetween (h p)

/-- The name of a column with an operator and an operand behind it. -/
theorem isPredicate_operand {operator : String} {l : Layout} (hoperator : separates operator.toList)
    (hneutral : IsNeutral operator.toList) (hl : l.Neutral stem) (p : Params) :
    IsPredicate (charsAt stem (.text (c.quoteValue column ++ operator) :: l) p) := by
  refine isPredicate_text hname hoperator (fun q => ?_) p
  rw [Extent.run_append, hneutral, Option.bind_some, hl q]

/-- A column that has no value. -/
theorem isPredicate_isNull (p : Params) :
    IsPredicate (charsAt stem [.text (c.quoteValue column ++ " IS NULL")] p) := by
  have hchars : charsAt stem [.text (c.quoteValue column ++ " IS NULL")] p =
      (c.quoteValue column).toList ++ (" ".toList ++ "IS NULL".toList) := by
    simp [Params.written]
  rw [hchars]
  exact isPredicate_of_isPlain hname (by decide) (by decide)

/-- A column that is compared with an operator of any name. -/
theorem isPredicate_compared {operator : String} (hoperator : isInert operator.toList)
    {l : Layout} (hl : l.Neutral stem) (p : Params) :
    IsPredicate (charsAt stem (.text (c.quoteValue column ++ " " ++ operator ++ " ") :: l) p) := by
  have hspace : separates " ".toList := by decide
  rw [append_between]
  refine isPredicate_operand hname ?_ ?_ hl p
  · have hblank : isWordPart ' ' = false := by decide
    simp [separates, List.getLast?_cons, hblank]
  · have hend := isInert_seam hspace operator.toList []
    have hall := isInert_seam hspace [] (operator.toList ++ " ".toList)
    have hinert : isInert " ".toList := by decide
    simp only [List.nil_append, List.append_nil, isInert_nil, Bool.and_true, Bool.true_and,
      hoperator, hinert] at hend hall
    refine isNeutral_of_isInert ?_
    rw [String.append_assoc, String.toList_append, String.toList_append, hall, hend]

/-- A column that is matched with one pattern. -/
theorem isPredicate_pattern (negated : Bool) {l : Layout} (hl : l.Neutral stem) (p : Params) :
    IsPredicate (charsAt stem
      (.text (c.quoteValue column ++ " " ++ deny negated "LIKE" ++ " ") :: l) p) := by
  have hoperator : separates (" " ++ deny negated "LIKE" ++ " ").toList := by
    cases negated <;> decide
  have hneutral : IsNeutral (" " ++ deny negated "LIKE" ++ " ").toList := by
    refine Extent.run_of_isInert_or ?_
    cases negated <;> decide
  rw [append_between]
  exact isPredicate_operand hname hoperator hneutral hl p

/-- A column between bounds: the AND between them belongs to the predicate. -/
theorem isPredicate_between (negated : Bool) {low high : Layout} (hlow : low.Neutral stem)
    (hhigh : high.Neutral stem) (p : Params) :
    IsPredicate (charsAt stem
      (.text (c.quoteValue column ++ " " ++ deny negated "BETWEEN" ++ " ") ::
        low ++ .text " AND " :: high) p) := by
  have hbetween : separates (" " ++ deny negated "BETWEEN" ++ " ").toList := by
    cases negated <;> decide
  have hrange : Extent.closed.run (lex (" " ++ deny negated "BETWEEN" ++ " ").toList) =
      some ⟨0, true⟩ := by
    cases negated <;> decide
  have hand : (⟨0, true⟩ : Extent).run (lex " AND ".toList) = some .closed := by decide
  rw [append_between, List.cons_append]
  refine isPredicate_text hname hbetween (fun q => ?_) p
  rw [charsAt_append, charsAt_cons]
  simp only [Params.written, Params.after]
  rw [Extent.run_append, hrange, Option.bind_some, lex_seam (by decide), Extent.run_append,
    hlow q, Option.bind_some, Extent.run_append, hand, Option.bind_some, hhigh]

/-- Membership of a column in one value or more. -/
theorem isPredicate_ofMembership (negated : Bool) {operands : List Layout} (hne : operands ≠ [])
    (h : ∀ l ∈ operands, l.Neutral stem) (p : Params) :
    IsPredicate (charsAt stem (ofMembership c negated column operands) p) := by
  unfold ofMembership
  split
  · exact absurd rfl hne
  · have hoperator : separates (if negated then "<>" else "=").toList := by
      cases negated <;> decide
    have hneutral : IsNeutral (if negated then "<>" else "=").toList := by
      refine isNeutral_of_isInert ?_
      cases negated <;> decide
    exact isPredicate_operand hname hoperator hneutral (h _ (List.mem_singleton_self _)) p
  · have hbetween : separates (" " ++ deny negated "IN" ++ " (").toList := by
      cases negated <;> decide
    have hopening : Extent.closed.run (lex (" " ++ deny negated "IN" ++ " (").toList) =
        some ⟨1, false⟩ := by
      cases negated <;> decide
    have hclosing : (⟨1, false⟩ : Extent).run (lex ")".toList) = some .closed := by decide
    rw [append_between, enclose, List.cons_append]
    refine isPredicate_text hname hbetween (fun q => ?_) p
    have hcomma : separates ", ".toList := by decide
    have hlist := neutral_join hcomma (by decide) h q
    rw [charsAt_append, charsAt_cons, charsAt_nil]
    simp only [Params.written, List.append_nil]
    rw [Extent.run_append, hopening, Option.bind_some, lex_append_left (by decide),
      Extent.run_append, hlist, Option.bind_some, hclosing]

end Predicates

end Layout

end SearchSql
