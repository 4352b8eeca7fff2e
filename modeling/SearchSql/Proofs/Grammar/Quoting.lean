import SearchSql.Dialect
import SearchSql.Proofs.Grammar.Tokens
import SearchSql.Proofs.Params.Numbering
import SearchSql.Proofs.Placeholder.Reading

/-!
# Plain names

A dialect that keeps the parts of names plain keeps names plain, since the points between the
parts are read apart from them. The names of parameters are parts of predicates as well.

## Main definitions

* `Dialect.KeepsPlain` — quoting adds neither parentheses nor words to a part of a name.

## Main statements

* `Dialect.notBlank_quoteChars` — something of a quoted name is no blank.
* `Dialect.KeepsPlain.isPlain_quoteChars` — a quoted name is plain if the name is.
* `Dialect.keepsPlain_sphinx`, `Dialect.keepsPlain_manticore` — the two dialects.
* `Params.isInert_numbered` — the names of parameters.
-/
namespace SearchSql

open Grammar

namespace Grammar

/-- A word is read as a whole. -/
theorem lex_of_isWordPart {cs : List Char} (h : ∀ c ∈ cs, isWordPart c) (hne : cs ≠ []) :
    lex cs = [.word cs] := by
  induction cs with
  | nil => exact absurd rfl hne
  | cons c cs ih =>
    obtain ⟨hc, hcs⟩ := List.forall_mem_cons.1 h
    rw [lex, if_pos hc]
    by_cases hnil : cs = []
    · rw [hnil]
      rfl
    · rw [ih hcs hnil]
      rfl

theorem isInert_intercalate {between : List Char} (h : separates between)
    (hbetween : isInert between) (parts : List (List Char)) :
    isInert (between.intercalate parts) = parts.all isInert := by
  induction parts with
  | nil => rfl
  | cons part rest ih =>
    cases rest with
    | nil => simp [List.intercalate_singleton]
    | cons next others =>
      rw [List.intercalate_cons_cons, List.append_assoc, isInert_seam h, hbetween, ih]
      simp

/-- Put characters behind some tokens; they join the word at their end. -/
def appendWord : List Token → List Char → List Token
  | [], ds => [.word ds]
  | [.word cs], ds => [.word (cs ++ ds)]
  | t :: tokens, ds => t :: appendWord tokens ds

theorem pushPart_appendWord (c : Char) (tokens : List Token) (ds : List Char) :
    pushPart c (appendWord tokens ds) = appendWord (pushPart c tokens) ds := by
  match tokens with
  | [] | [.word _] | .word _ :: _ :: _ | .mark _ :: _ => simp [appendWord, pushPart]

/-- A word joins what stands before it. -/
theorem lex_append_word {ds : List Char} (h : ∀ d ∈ ds, isWordPart d) (hne : ds ≠ [])
    (cs : List Char) : lex (cs ++ ds) = appendWord (lex cs) ds := by
  induction cs with
  | nil =>
    have hword := lex_of_isWordPart h hne
    simpa [appendWord] using hword
  | cons c cs ih =>
    rw [List.cons_append, lex, lex, ih]
    split
    · exact pushPart_appendWord c (lex cs) ds
    · rfl

/-- A word that ends with a digit is none of the four. -/
theorem isInert_word_of_isDigit (cs : List Char) {ds : List Char} (h : ∀ d ∈ ds, d.isDigit)
    (hne : ds ≠ []) :
    (Token.word (cs ++ ds)).isInert := by
  refine isInert_word_iff.2 fun hreserved => ?_
  obtain ⟨d, rest, rfl⟩ := List.exists_cons_of_ne_nil hne
  have hdigit := h d (List.mem_cons_self ..)
  have hupper : d.toUpper = d := by
    have hle := (Char.isDigit_iff_toNat.1 hdigit).2
    rw [Char.toUpper]
    rw [dif_neg]
    intro hlower
    have hge : 97 ≤ d.toNat := UInt32.le_iff_toNat_le.1 hlower.1
    simp at hle
    omega
  have hmem : d ∈ reserved.flatten := by
    refine List.mem_flatten_of_mem hreserved ?_
    rw [List.map_append, List.map_cons, hupper]
    simp
  have hcapital := isUpper_of_mem_reserved hmem
  have hge : 65 ≤ d.toNat := by simp [Char.isUpper, UInt32.le_iff_toNat_le] at hcapital; omega
  have hle := (Char.isDigit_iff_toNat.1 hdigit).2
  simp at hle
  omega

theorem all_isInert_appendWord {tokens : List Token} (h : tokens.all Token.isInert)
    {ds : List Char} (hds : ∀ d ∈ ds, d.isDigit) (hne : ds ≠ []) :
    (appendWord tokens ds).all Token.isInert := by
  induction tokens with
  | nil => simpa [appendWord] using isInert_word_of_isDigit [] hds hne
  | cons t tokens ih =>
    rw [List.all_cons, Bool.and_eq_true] at h
    have hrest := ih h.2
    match t, tokens with
    | .word cs, [] => simpa [appendWord] using isInert_word_of_isDigit cs hds hne
    | .mark c, [] => simpa [appendWord, h.1] using hrest
    | .word _, _ :: _ | .mark _, _ :: _ =>
      rw [appendWord, List.all_cons, h.1, hrest]
      · rfl
      · nofun

/-- A number behind a text that says nothing says nothing. -/
theorem isInert_append_of_isDigit {cs ds : List Char} (h : isInert cs)
    (hds : ∀ d ∈ ds, d.isDigit) (hne : ds ≠ []) : isInert (cs ++ ds) := by
  have hword : ∀ d ∈ ds, isWordPart d := by
    intro d hd
    simp [isWordPart, Char.isAlphanum, hds d hd]
  rw [isInert, lex_append_word hword hne]
  exact all_isInert_appendWord h hds hne

end Grammar

namespace Dialect

/-- Quoting a part of a name leaves it without parentheses and the four words if it has none, and
leaves something of it that is no blank. -/
structure KeepsPlain (d : Dialect) : Prop where
  isInert_quotePart : ∀ part, isInert part → isInert (d.quotePart part)
  notBlank_quotePart : ∀ part, isBlankText part = false → isBlankText (d.quotePart part) = false

/-- **A quoted name is no blank** if the name is none, and quoting leaves something of each part
that is none. -/
theorem notBlank_quoteChars {d : Dialect}
    (hd : ∀ part, isBlankText part = false → isBlankText (d.quotePart part) = false)
    {cs : List Char} (h : isBlankText cs = false) : isBlankText (d.quoteChars cs) = false := by
  rw [quoteChars]
  split
  · exact h
  · have hsplit : ['.'].intercalate (cs.splitOn '.') = cs := List.intercalate_splitOn '.'
    rcases hparts : cs.splitOn '.' with _ | ⟨part, _ | ⟨next, others⟩⟩
    · rw [hparts] at hsplit
      rw [← hsplit] at h
      cases h
    · obtain rfl : part = cs := by rwa [hparts, List.intercalate_singleton] at hsplit
      rw [List.map_singleton, List.intercalate_singleton, quoteUnquoted]
      split
      · exact h
      · exact hd part h
    · -- the point is no blank
      rw [List.map_cons, List.map_cons, List.intercalate_cons_cons]
      have hpoint : Text.isBlank '.' = false := by decide
      simp [isBlankText, hpoint]

namespace KeepsPlain

variable {d : Dialect}

theorem isInert_quoteUnquoted (hd : d.KeepsPlain) {part : List Char} (h : isInert part) :
    isInert (d.quoteUnquoted part) := by
  rw [quoteUnquoted]
  split
  · exact h
  · exact hd.isInert_quotePart part h

/-- **A quoted name is plain if the name is.** -/
theorem isPlain_quoteChars (hd : d.KeepsPlain) {cs : List Char} (h : isPlain cs) :
    isPlain (d.quoteChars cs) := by
  simp only [isPlain, Bool.and_eq_true, Bool.not_eq_true'] at h ⊢
  obtain ⟨hinert, hblank⟩ := h
  refine ⟨?_, notBlank_quoteChars hd.notBlank_quotePart hblank⟩
  rw [quoteChars]
  split
  · exact hinert
  · have hsplit : ['.'].intercalate (cs.splitOn '.') = cs := List.intercalate_splitOn '.'
    have hpoint : separates ['.'] := by decide
    rw [← hsplit, isInert_intercalate hpoint (by decide), List.all_eq_true] at hinert
    rw [isInert_intercalate hpoint (by decide), List.all_map, List.all_eq_true]
    exact fun part hpart => hd.isInert_quoteUnquoted (hinert part hpart)

end KeepsPlain

theorem keepsPlain_sphinx : sphinx.KeepsPlain where
  isInert_quotePart := fun _ h => h
  notBlank_quotePart := fun _ h => h

theorem keepsPlain_manticore : manticore.KeepsPlain where
  isInert_quotePart := by
    intro part h
    have hquote : separates [backQuote] := by decide
    have hinert : isInert [backQuote] := by decide
    have hend := isInert_seam hquote part []
    have hall := isInert_seam hquote [] (part ++ [backQuote])
    simp only [List.nil_append, List.append_nil, isInert_nil, Bool.and_true,
      Bool.true_and] at hend hall
    simpa [manticore, hend, hinert, h] using hall
  notBlank_quotePart := by
    intro part _
    have hquote : Text.isBlank backQuote = false := by decide
    simp [manticore, isBlankText, hquote]

end Dialect

namespace Params

/-- The names of parameters have no parentheses and none of the four words, unless what they
begin with has. -/
theorem isInert_numbered {stem : String} (h : isInert stem.toList) (n : Nat) :
    isInert (numbered stem n).toList := by
  have hchars : (numbered stem n).toList = stem.toList ++ Placeholder.digits n := by
    simp [numbered, Placeholder.digits]
  rw [hchars]
  exact isInert_append_of_isDigit h (Placeholder.all_isDigit_digits n) (Placeholder.digits_ne_nil n)

end Params

end SearchSql
