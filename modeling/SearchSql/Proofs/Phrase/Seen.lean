import SearchSql.Proofs.Dialect.Names
import SearchSql.Proofs.Grammar.Quoting
import SearchSql.Proofs.Layout.Infix

/-!
# What is seen of a clause

A text is seen unless all of its characters are blank. Of a list something is seen if something is
seen of one of its elements, and most elements bring a word or a mark of their own: the label of a
field, the sign of a comparison, the parentheses of a row. Only a name that stands by itself and a
fragment that is written as it is can be blank.

## Main definitions

* `Text.IsSeen`, `Layout.IsSeen` — something is seen of a text, and of a layout wherever it stands.
* `Field.Shown`, `Source.Shown`, `Condition.Shown` — the names and fragments that can be blank are
  seen.

## Main statements

* `Dialect.KeepsSeen.isSeen_quoteChars` — a quoted name is seen if the name is.
* `Condition.isSeen_layout` — a condition that is not left out, by induction on the condition.
* `ListedColumn.ofText_eq_nil_iff` — the texts that list no column.
-/
namespace SearchSql

/-- Something is seen of a text: not all of it is blank. -/
def Text.IsSeen (cs : List Char) : Prop := ∃ a ∈ cs, isBlank a = false

namespace Text

theorem isSeen_iff {cs : List Char} : IsSeen cs ↔ Grammar.isBlankText cs = false := by
  simp [IsSeen, Grammar.isBlankText]

instance (cs : List Char) : Decidable (IsSeen cs) := decidable_of_iff _ isSeen_iff.symm

theorem IsSeen.mono {cs ds : List Char} (h : IsSeen cs) (hsub : cs ⊆ ds) : IsSeen ds := by
  obtain ⟨a, ha, hseen⟩ := h
  exact ⟨a, hsub ha, hseen⟩

theorem not_isSeen_nil : ¬ IsSeen [] := by
  rintro ⟨a, ha, -⟩
  exact List.not_mem_nil ha

/-- What is left of a text without its blanks at both ends is seen. -/
theorem isSeen_trimChars {cs : List Char} (h : trimChars isBlank cs ≠ []) :
    IsSeen (trimChars isBlank cs) := by
  rw [trimChars, Ne, List.reverse_eq_nil_iff] at h
  exact ⟨_, List.mem_reverse.2 (List.head_mem h), List.head_dropWhile_not isBlank h⟩

/-- Nothing is left of a text just when it is blank. -/
theorem trimChars_eq_nil_iff {cs : List Char} :
    trimChars isBlank cs = [] ↔ ∀ a ∈ cs, isBlank a = true := by
  constructor
  · intro h
    rw [trimChars, List.reverse_eq_nil_iff, List.dropWhile_eq_nil_iff] at h
    rw [← List.dropWhile_eq_nil_iff]
    by_contra hne
    have hhead := h _ (List.mem_reverse.2 (List.head_mem hne))
    rw [List.head_dropWhile_not isBlank hne] at hhead
    cases hhead
  · intro h
    simpa using trimChars_append_left isBlank h []

theorem isSeen_append_iff {s t : String} :
    IsSeen (s ++ t).toList ↔ IsSeen s.toList ∨ IsSeen t.toList := by
  simp [IsSeen, or_and_right, exists_or]

end Text

open Text (IsSeen)

namespace Dialect

/-- Quoting hides no part of a name. -/
def KeepsSeen (d : Dialect) : Prop := ∀ part, IsSeen part → IsSeen (d.quotePart part)

theorem KeepsPlain.keepsSeen {d : Dialect} (hd : d.KeepsPlain) : d.KeepsSeen := fun part h =>
  Text.isSeen_iff.2 (hd.notBlank_quotePart part (Text.isSeen_iff.1 h))

/-- **A quoted name is seen if the name is.** -/
theorem KeepsSeen.isSeen_quoteChars {d : Dialect} (hd : d.KeepsSeen) {cs : List Char}
    (h : IsSeen cs) : IsSeen (d.quoteChars cs) := by
  refine Text.isSeen_iff.2 (notBlank_quoteChars (fun part hpart => ?_) (Text.isSeen_iff.1 h))
  exact Text.isSeen_iff.1 (hd part (Text.isSeen_iff.2 hpart))

end Dialect

namespace Layout

variable {stem : String}

/-- Something is seen of a layout, whatever parameters are bound before it. -/
def IsSeen (stem : String) (l : Layout) : Prop := ∀ p, Text.IsSeen (l.charsAt stem p)

theorem IsSeen.of_isInfix {l whole : Layout} (h : l.IsSeen stem) (hin : l <:+: whole) :
    whole.IsSeen stem := by
  intro p
  obtain ⟨start, hchars⟩ := exists_charsAt_infix stem hin p
  exact (h start).mono hchars.subset

theorem isSeen_text {s : String} (h : Text.IsSeen s.toList) (rest : Layout) :
    IsSeen stem (.text s :: rest) := by
  intro p
  rw [charsAt_cons]
  exact h.mono (List.subset_append_left ..)

/-- A text with a mark at its end. -/
theorem isSeen_text_append (front : String) {mark : String} (h : Text.IsSeen mark.toList)
    (rest : Layout) : IsSeen stem (.text (front ++ mark) :: rest) :=
  isSeen_text (Text.isSeen_append_iff.2 (.inr h)) rest

/-- A text with a word and a blank at its end. -/
theorem isSeen_text_word (front : String) {word : String} (h : Text.IsSeen word.toList)
    (rest : Layout) : IsSeen stem (.text (front ++ word ++ " ") :: rest) :=
  isSeen_text (Text.isSeen_append_iff.2 (.inl (Text.isSeen_append_iff.2 (.inr h)))) rest

/-- What is not left out. -/
theorem isSeen_unless {isLeftOut : Bool} {l : Layout} (h : l.IsSeen stem)
    (hne : (if isLeftOut then [] else l) ≠ []) :
    IsSeen stem (if isLeftOut then [] else l) := by
  cases isLeftOut with
  | true => exact absurd rfl hne
  | false => exact h

theorem isSeen_ofRaw {sql : String} (h : Text.IsSeen sql.toList) (params : Mapping) :
    IsSeen stem (ofRaw sql params) := fun _ => isSeen_text h [] _

/-- What is seen of one layout is seen of all of them. -/
theorem IsSeen.join {separator : String} {l : Layout} {ls : List Layout} (h : l.IsSeen stem)
    (hmem : l ∈ ls) : IsSeen stem (join separator ls) := h.of_isInfix (infix_join separator hmem)

/-- Something is seen of a list if it is of each element and there is one. -/
theorem isSeen_join_map {α : Type} {separator : String} {f : α → Layout} {items : List α}
    (hne : items ≠ []) (h : ∀ item ∈ items, (f item).IsSeen stem) :
    IsSeen stem (Layout.join separator (items.map f)) := by
  obtain ⟨item, hitem⟩ := List.exists_mem_of_ne_nil items hne
  exact (h item hitem).join (List.mem_map_of_mem hitem)

theorem isSeen_enclose {opening : String} (h : Text.IsSeen opening.toList) (l : Layout)
    (closing : String) : IsSeen stem (enclose opening l closing) := isSeen_text h _

theorem isSeen_connect {word : String} {ls : List Layout} (h : connect word ls ≠ []) :
    IsSeen stem (connect word ls) := by
  unfold connect at h ⊢
  split at h
  · exact absurd rfl h
  · exact isSeen_enclose (by decide) _ _

theorem isSeen_ofFulltext (v : Value) : IsSeen stem (ofFulltext v) := by
  cases v with
  | raw sql params => exact fun _ => isSeen_text_append _ (by decide) [] _
  | _ => exact isSeen_text (by decide) _

end Layout

/-! ## Names and fragments -/

/-- Something is seen of a name with its label: of one of the two. -/
def ShownWith (name : String) : Option String → Prop
  | none => Text.IsSeen name.toList
  | some label => Text.IsSeen name.toList ∨ Text.IsSeen label.toList

/-- A field is seen if it has a label, since the word AS is written in front of the label. -/
def Field.Shown : Field → Prop
  | .named name label => label = none → Text.IsSeen name.toList
  | .raw sql _ label => label = none → Text.IsSeen sql.toList
  | .unwritable => False

/-- What is searched is seen by its name or by its label. -/
def Source.Shown : Source → Prop
  | .index name label => ShownWith name label
  | .named name label => ShownWith name label
  | .raw sql _ label => ShownWith sql label
  | .selection _ _ => True
  | .unwritable => False

/-- A column of a list is seen. -/
def ListedColumn.Shown : ListedColumn → Prop
  | .named name => Text.IsSeen name.toList
  | .raw sql _ => Text.IsSeen sql.toList
  | .unwritable => False

/-- A part of an ordering is seen. -/
def OrderTerm.Shown : OrderTerm → Prop
  | .column name _ => Text.IsSeen name.toList
  | .raw sql _ => Text.IsSeen sql.toList
  | .unwritable => False

namespace ListedColumn

/-- The columns in a text are cut out of it, and no blank one is kept. -/
theorem shown_of_mem_ofText {s : String} {column : ListedColumn} (h : column ∈ ofText s) :
    column.Shown := by
  rw [ofText] at h
  split at h
  · rename_i hparenthesis
    obtain rfl := List.mem_singleton.1 h
    exact ⟨'(', by simpa [hasParenthesis] using hparenthesis, by decide⟩
  · obtain ⟨name, hname, rfl⟩ := List.mem_map.1 h
    obtain ⟨hmem, hne⟩ := List.mem_filter.1 hname
    obtain ⟨part, -, rfl⟩ := List.mem_map.1 hmem
    rw [Shown, String.toList_ofList]
    exact Text.isSeen_trimChars (by simpa using hne)

/-- **A text lists no column** just when all of it is commas and blanks. -/
theorem ofText_eq_nil_iff {s : String} :
    ofText s = [] ↔ ∀ a ∈ s.toList, a = ',' ∨ Text.isBlank a = true := by
  rw [ofText]
  split
  · rename_i hparenthesis
    have hmem : '(' ∈ s.toList := by simpa [hasParenthesis] using hparenthesis
    simp only [List.cons_ne_nil, false_iff, not_forall]
    exact ⟨'(', hmem, by decide⟩
  · rw [← Dialect.forall_mem_splitOn_iff]
    simp [List.filter_eq_nil_iff, Text.trimChars_eq_nil_iff]

end ListedColumn

/-- The fields and the order of a facet are seen. -/
structure Facet.Shown (facet : Facet) : Prop where
  /-- Each field is. -/
  fields : ∀ field ∈ facet.fields, field.Shown
  /-- So is each part of the order. -/
  order : ∀ terms, facet.order = .ok terms → ∀ term ∈ terms, term.Shown

mutual

/-- What is written of a condition without a word of its own is seen: a condition in the query
language, and the column of a comparison whose operator may be blank. -/
def Condition.Shown : Condition → Prop
  | .verbatim sql => Text.IsSeen sql.toList
  | .compared _ column _ => Text.IsSeen column.display.toList
  | .record entries => Condition.AllShown entries
  | _ => True

/-- All conditions of a list are seen. -/
def Condition.AllShown : List Condition → Prop
  | [] => True
  | condition :: rest => condition.Shown ∧ Condition.AllShown rest

end

namespace Layout

variable {c : Connection} {stem : String}

/-- Something is seen of a quoted name. -/
theorem isSeen_quote (hd : c.dialect.KeepsSeen) {name : String} (h : Text.IsSeen name.toList) :
    Text.IsSeen (c.quote name).toList := by
  rw [Connection.quote, Dialect.toList_quote]
  exact hd.isSeen_quoteChars h

theorem isSeen_ofField (hd : c.dialect.KeepsSeen) {field : Field} (h : field.Shown) :
    (ofField c field).IsSeen stem := by
  have hlabeled (s label : String) : Text.IsSeen (s ++ " AS " ++ label).toList :=
    Text.isSeen_append_iff.2 (.inl (Text.isSeen_append_iff.2 (.inr (by decide))))
  match field with
  | .named name none => exact isSeen_text (isSeen_quote hd (h rfl)) []
  | .named name (some label) => exact isSeen_text (hlabeled ..) []
  | .raw sql params none => exact isSeen_ofRaw (h rfl) params
  | .raw sql params (some label) => exact isSeen_ofRaw (hlabeled ..) params

/-- There is always a field, or the star in its place. -/
theorem isSeen_ofFields (hd : c.dialect.KeepsSeen) {fields : List Field}
    (h : ∀ field ∈ fields, field.Shown) : (ofFields c fields).IsSeen stem := by
  rw [ofFields]
  split
  · exact isSeen_text (by decide) []
  · rename_i hne
    exact isSeen_join_map (by simpa using hne) fun field hfield =>
      isSeen_ofField hd (h field hfield)

theorem isSeen_ofLabeled (hd : c.dialect.KeepsSeen) (separator : String) {name : String}
    {label : Option String} (h : ShownWith name label) :
    (ofLabeled c separator name label).IsSeen stem := by
  cases label with
  | none => exact isSeen_text (isSeen_quote hd h) []
  | some label =>
    refine isSeen_text (Text.isSeen_append_iff.2 ?_) []
    rw [Text.isSeen_append_iff]
    exact h.imp (fun hname => .inl (isSeen_quote hd hname)) (isSeen_quote hd)

theorem isSeen_ofRawLabeled (hd : c.dialect.KeepsSeen) (separator : String) {sql : String}
    (params : Mapping) {label : Option String} (h : ShownWith sql label) :
    (ofRawLabeled c separator sql params label).IsSeen stem := by
  cases label with
  | none => exact isSeen_ofRaw h params
  | some label =>
    refine isSeen_ofRaw (Text.isSeen_append_iff.2 ?_) params
    rw [Text.isSeen_append_iff]
    exact h.imp .inl (isSeen_quote hd)

theorem isSeen_source (hd : c.dialect.KeepsSeen) {source : Source} (h : source.Shown) :
    (source.layout c).IsSeen stem := by
  cases source with
  | index name label => exact isSeen_ofLabeled hd " " h
  | named name label => exact isSeen_ofLabeled hd " " h
  | raw sql params label => exact isSeen_ofRawLabeled hd " " params h
  | selection selection label => exact isSeen_enclose (by decide) _ _
  | unwritable => cases h

theorem isSeen_sources (hd : c.dialect.KeepsSeen) {sources : List Source}
    (h : ∀ source ∈ sources, source.Shown) (hne : sources ≠ []) :
    (Layout.join ", " (Source.layouts c sources)).IsSeen stem := by
  obtain ⟨source, hsource⟩ := List.exists_mem_of_ne_nil sources hne
  exact (isSeen_source hd (h source hsource)).join (Source.layout_mem_layouts c hsource)

theorem isSeen_ofColumn (hd : c.dialect.KeepsSeen) {column : ListedColumn} (h : column.Shown) :
    (ofColumn c column).IsSeen stem := by
  cases column with
  | named name => exact isSeen_text (isSeen_quote hd h) []
  | raw sql params => exact isSeen_ofRaw h params
  | unwritable => cases h

theorem isSeen_ofOrderTerm (hd : c.dialect.KeepsSeen) (spelled : Bool) {term : OrderTerm}
    (h : term.Shown) : (ofOrderTerm c spelled term).IsSeen stem := by
  match term with
  | .raw sql params => exact isSeen_ofRaw h params
  | .column name .descending => exact isSeen_text_append _ (by decide) []
  | .column name .ascending =>
    cases spelled with
    | false => exact isSeen_text (isSeen_quote hd h) []
    | true => exact isSeen_text_append _ (by decide) []

/-! ## Conditions -/

theorem isSeen_ofRecord {ls : List Layout} (h : ∀ l ∈ ls, l ≠ [] → l.IsSeen stem)
    (hne : ofRecord ls ≠ []) : IsSeen stem (ofRecord ls) := by
  unfold ofRecord at hne ⊢
  split at hne
  · exact h _ (List.mem_singleton_self _) hne
  · exact isSeen_connect hne

theorem isSeen_ofMembership (negated : Bool) (column : Value) {operands : List Layout}
    (hne : ofMembership c negated column operands ≠ []) :
    IsSeen stem (ofMembership c negated column operands) := by
  unfold ofMembership at hne ⊢
  split at hne
  · exact absurd rfl hne
  · exact isSeen_text_append _ (by cases negated <;> decide) _
  · exact isSeen_text_append _ (by decide) _

theorem isSeen_ofPatterns (negated any : Bool) (column : Value) (escape : Option Value)
    {patterns : List Value} (hne : ofPatterns c negated any column escape patterns ≠ []) :
    IsSeen stem (ofPatterns c negated any column escape patterns) := by
  rw [ofPatterns] at hne ⊢
  refine isSeen_join_map (fun hpatterns => hne (by rw [hpatterns]; rfl)) fun pattern _ => ?_
  exact isSeen_text_word _ (by cases negated <;> decide) _

end Layout

open Layout in
mutual

/-- **Something is seen of a condition that is not left out.** -/
theorem Condition.isSeen_layout {c : Connection} {stem : String} (hd : c.dialect.KeepsSeen)
    (indexes : List Index) {condition : Condition} (h : condition.Shown)
    (hs : (condition.layout c indexes).Sound) (hne : condition.layout c indexes ≠ []) :
    (condition.layout c indexes).IsSeen stem := by
  match condition with
  | .omitted | .always => exact absurd rfl hne
  | .never => exact isSeen_text (by decide) []
  | .verbatim sql => exact isSeen_unless (isSeen_text h []) hne
  | .connected connective operands => exact isSeen_connect hne
  | .negation operand =>
    rw [Condition.layout] at hne ⊢
    exact isSeen_unless (isSeen_enclose (by decide) _ _) hne
  | .record entries =>
    rw [Condition.layout] at hs hne ⊢
    refine isSeen_ofRecord (Condition.isSeen_layouts hd indexes h fun l hl => ?_) hne
    exact hs.of_isInfix (infix_ofRecord hl)
  | .isNull column => exact isSeen_text_append _ (by decide) _
  | .equals column operand => exact isSeen_text_append _ (by decide) _
  | .between negated column low high =>
    exact isSeen_text_word _ (by cases negated <;> decide) _
  | .among negated column operands =>
    rw [Condition.layout] at hs hne ⊢
    rw [hs.append_naming_eq] at hne ⊢
    exact isSeen_ofMembership negated column hne
  | .amongRows negated columns rows => exact isSeen_text_append _ (by decide) _
  | .amongSelected negated columns selection => exact isSeen_text_append _ (by decide) _
  | .like negated any column escape patterns =>
    rw [Condition.layout] at hs hne ⊢
    rw [hs.naming_append_eq] at hne ⊢
    exact isSeen_ofPatterns negated any column escape hne
  | .compared operator column operand =>
    refine IsSeen.of_isInfix (isSeen_text ?_ _) (List.suffix_append ..).isInfix
    simp only [Text.isSeen_append_iff]
    exact .inl (.inl (.inl (isSeen_quote hd h)))
  | .malformed f => simp [Condition.layout, Piece.isFault] at hs

theorem Condition.isSeen_layouts {c : Connection} {stem : String} (hd : c.dialect.KeepsSeen)
    (indexes : List Index) {conditions : List Condition} (h : Condition.AllShown conditions)
    (hs : ∀ l ∈ Condition.layouts c indexes conditions, l.Sound) :
    ∀ l ∈ Condition.layouts c indexes conditions, l ≠ [] → l.IsSeen stem := by
  match conditions with
  | [] => exact fun l hl => absurd hl List.not_mem_nil
  | condition :: rest =>
    obtain ⟨hcondition, hrest⟩ := List.forall_mem_cons.1 hs
    exact List.forall_mem_cons.2 ⟨Condition.isSeen_layout hd indexes h.1 hcondition,
      Condition.isSeen_layouts hd indexes h.2 hrest⟩

end

end SearchSql
