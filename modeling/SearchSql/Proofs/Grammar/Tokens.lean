import Mathlib
import SearchSql.Text.Blank

/-!
# Tokens of a condition

A condition is read as words and single characters. Words are made of letters, digits,
underscores and the characters beyond ASCII that are no blanks. Four words, in any letter
case, and the parentheses say how a condition is put together; all other tokens belong to
the predicates in it.

## Main definitions

* `Grammar.Token`, `Grammar.lex` — the tokens of a text.
* `Grammar.Token.kind` — what a token does.
* `Grammar.isInert`, `Grammar.isPlain` — texts in which no token does anything.

## Main statements

* `Grammar.spell_lex` — the tokens make up the text.
* `Grammar.lex_seam` — a text that separates is read apart from what stands around it.
-/
namespace SearchSql.Grammar

/-- Whether a character is part of a word. -/
def isWordPart (c : Char) : Bool :=
  c.isAlphanum || c == '_' || (0x80 ≤ c.toNat && !Text.isBlank c)

/-- A token of a condition. -/
inductive Token where
  /-- A word. -/
  | word (cs : List Char)
  /-- A character that is part of no word. -/
  | mark (c : Char)
  deriving DecidableEq, Repr

/-- What a token does in a condition. -/
inductive Kind where
  /-- Both sides hold. -/
  | conjunction
  /-- One of the sides holds. -/
  | disjunction
  /-- What follows does not hold. -/
  | negation
  /-- Two bounds follow, with the word AND between them. -/
  | range
  /-- A parenthesis opens. -/
  | opening
  /-- A parenthesis closes. -/
  | closing
  /-- Nothing is said. -/
  | blank
  /-- A part of a predicate. -/
  | ordinary
  deriving DecidableEq, Repr

/-- The characters of a token. -/
def Token.chars : Token → List Char
  | .word cs => cs
  | .mark c => [c]

/-- What a token does. -/
def Token.kind : Token → Kind
  | .word cs =>
    let capitals := cs.map Char.toUpper
    if capitals = ['A', 'N', 'D'] then .conjunction
    else if capitals = ['O', 'R'] then .disjunction
    else if capitals = ['N', 'O', 'T'] then .negation
    else if capitals = ['B', 'E', 'T', 'W', 'E', 'E', 'N'] then .range
    else .ordinary
  | .mark c =>
    if c = '(' then .opening
    else if c = ')' then .closing
    else if Text.isBlank c then .blank
    else .ordinary

/-- Put a character in front of some tokens; it joins the word at their start. -/
def pushPart (c : Char) : List Token → List Token
  | .word cs :: rest => .word (c :: cs) :: rest
  | tokens => .word [c] :: tokens

/-- The tokens of a text. -/
def lex : List Char → List Token
  | [] => []
  | c :: cs => if isWordPart c then pushPart c (lex cs) else .mark c :: lex cs

/-- The text that some tokens make up. -/
def spell (tokens : List Token) : List Char := tokens.flatMap Token.chars

/-- Whether a token says nothing about how a condition is put together. -/
def Token.isInert (t : Token) : Bool := t.kind = .ordinary || t.kind = .blank

/-- The words that say how a condition is put together. -/
def reserved : List (List Char) :=
  [['A', 'N', 'D'], ['O', 'R'], ['N', 'O', 'T'], ['B', 'E', 'T', 'W', 'E', 'E', 'N']]

/-- Whether no token of a text says anything about how a condition is put together: there is no
parenthesis and none of the four words. -/
def isInert (cs : List Char) : Bool := (lex cs).all Token.isInert

/-- Whether a text is blank. -/
def isBlankText (cs : List Char) : Bool := cs.all Text.isBlank

/-- Whether a text is not blank and no token of it says anything about how a condition is put
together. -/
def isPlain (cs : List Char) : Bool := isInert cs && !isBlankText cs

/-- Whether a text begins and ends with characters that are part of no word. -/
def separates (cs : List Char) : Bool :=
  (cs.head?.any fun c => !isWordPart c) && cs.getLast?.any fun c => !isWordPart c

/-! ## Texts and their tokens -/

@[simp] theorem lex_nil : lex [] = [] := rfl

theorem lex_cons_of_not_isWordPart {c : Char} (h : isWordPart c = false) (cs : List Char) :
    lex (c :: cs) = .mark c :: lex cs := by
  simp [lex, h]

@[simp] theorem spell_nil : spell [] = [] := rfl

@[simp] theorem spell_cons (t : Token) (tokens : List Token) :
    spell (t :: tokens) = t.chars ++ spell tokens := by
  simp [spell]

@[simp] theorem spell_append (front back : List Token) :
    spell (front ++ back) = spell front ++ spell back := by
  simp [spell]

theorem spell_pushPart (c : Char) (tokens : List Token) :
    spell (pushPart c tokens) = c :: spell tokens := by
  match tokens with
  | [] | .word _ :: _ | .mark _ :: _ => simp [pushPart, Token.chars]

/-- **The tokens of a text make it up.** -/
@[simp] theorem spell_lex (cs : List Char) : spell (lex cs) = cs := by
  induction cs with
  | nil => rfl
  | cons c cs ih =>
    rw [lex]
    split
    · rw [spell_pushPart, ih]
    · rw [spell_cons, ih]
      rfl

theorem pushPart_append (c : Char) (tokens : List Token) (d : Char) (rest : List Token) :
    pushPart c (tokens ++ .mark d :: rest) = pushPart c tokens ++ .mark d :: rest := by
  match tokens with
  | [] | .word _ :: _ | .mark _ :: _ => rfl

/-- A character that is part of no word ends what stands before it. -/
theorem lex_append_cons {d : Char} (h : isWordPart d = false) (cs ds : List Char) :
    lex (cs ++ d :: ds) = lex cs ++ .mark d :: lex ds := by
  induction cs with
  | nil => exact lex_cons_of_not_isWordPart h ds
  | cons c cs ih =>
    rw [List.cons_append, lex, lex, ih]
    split
    · exact pushPart_append c (lex cs) d (lex ds)
    · rfl

/-- **A text that separates is read apart from what stands around it.** -/
theorem lex_seam {between : List Char} (h : separates between) (cs ds : List Char) :
    lex (cs ++ (between ++ ds)) = lex cs ++ (lex between ++ lex ds) := by
  cases between with
  | nil => simp [separates] at h
  | cons first rest =>
    simp only [separates, List.head?_cons, Option.any_some, Bool.and_eq_true,
      Bool.not_eq_true'] at h
    obtain ⟨hfirst, hlast⟩ := h
    rw [List.cons_append, lex_append_cons hfirst, lex_cons_of_not_isWordPart hfirst]
    rcases List.eq_nil_or_concat' rest with rfl | ⟨inner, last, rfl⟩
    · rfl
    · have hlast : isWordPart last = false := by
        simpa [List.getLast?_cons, List.getLast?_append] using hlast
      simp [lex_append_cons hlast]

theorem lex_append_right {between : List Char} (h : separates between) (ds : List Char) :
    lex (between ++ ds) = lex between ++ lex ds :=
  lex_seam h [] ds

theorem lex_append_left {between : List Char} (h : separates between) (cs : List Char) :
    lex (cs ++ between) = lex cs ++ lex between := by
  simpa using lex_seam h cs []

/-! ## Texts in which no token does anything -/

@[simp] theorem isInert_nil : isInert [] = true := rfl

theorem isInert_seam {between : List Char} (h : separates between) (cs ds : List Char) :
    isInert (cs ++ (between ++ ds)) = (isInert cs && (isInert between && isInert ds)) := by
  simp [isInert, lex_seam h]

/-- A word says something just when it is one of the four. -/
theorem isInert_word_iff {cs : List Char} :
    (Token.word cs).isInert = true ↔ cs.map Char.toUpper ∉ reserved := by
  simp only [Token.isInert, Token.kind, reserved, List.mem_cons, List.not_mem_nil, or_false]
  repeat' split
  all_goals simp_all

/-- The words are in capitals. -/
theorem isUpper_of_mem_reserved {c : Char} (h : c ∈ reserved.flatten) : c.isUpper :=
  List.all_eq_true.1 (show reserved.flatten.all Char.isUpper from by decide) c h

theorem isBlank_of_kind_eq_blank {t : Token} (h : t.kind = .blank) :
    ∀ c ∈ t.chars, Text.isBlank c = true := by
  cases t with
  | word cs =>
    simp only [Token.kind] at h
    repeat' split at h
    all_goals simp at h
  | mark c =>
    simp only [Token.kind] at h
    repeat' split at h
    all_goals simp_all [Token.chars]

/-- Tokens that do nothing are blank, or a part of a predicate comes first among them. -/
theorem blank_or_exists_ordinary {tokens : List Token} (h : ∀ t ∈ tokens, t.isInert) :
    (∀ t ∈ tokens, t.kind = .blank) ∨
      ∃ front t rest, tokens = front ++ t :: rest ∧ (∀ b ∈ front, b.kind = .blank) ∧
        t.kind = .ordinary ∧ ∀ u ∈ rest, u.isInert := by
  induction tokens with
  | nil => exact Or.inl (by simp)
  | cons t tokens ih =>
    have hrest : ∀ u ∈ tokens, u.isInert := fun u hu => h u (List.mem_cons_of_mem _ hu)
    have ht : t.kind = .ordinary ∨ t.kind = .blank := by
      simpa [Token.isInert] using h t (List.mem_cons_self ..)
    rcases ht with ht | ht
    · exact Or.inr ⟨[], t, tokens, rfl, by simp, ht, hrest⟩
    · rcases ih hrest with hblank | ⟨front, u, rest, rfl, hfront, hu, hrest⟩
      · exact Or.inl (List.forall_mem_cons.2 ⟨ht, hblank⟩)
      · exact Or.inr ⟨t :: front, u, rest, rfl, List.forall_mem_cons.2 ⟨ht, hfront⟩, hu, hrest⟩

/-- A predicate begins after the blanks of a plain text. -/
theorem exists_ordinary_of_isPlain {cs : List Char} (h : isPlain cs) :
    ∃ front t rest, lex cs = front ++ t :: rest ∧ (∀ b ∈ front, b.kind = .blank) ∧
      t.kind = .ordinary ∧ ∀ u ∈ rest, u.isInert := by
  simp only [isPlain, Bool.and_eq_true, Bool.not_eq_true'] at h
  obtain ⟨hinert, hblank⟩ := h
  have hinert : ∀ t ∈ lex cs, t.isInert := by simpa [isInert] using hinert
  refine (blank_or_exists_ordinary hinert).resolve_left fun hall => ?_
  have hspell : isBlankText (spell (lex cs)) = true := by
    simpa [isBlankText, spell] using fun t ht => isBlank_of_kind_eq_blank (hall t ht)
  rw [spell_lex, hblank] at hspell
  exact absurd hspell nofun

end SearchSql.Grammar
