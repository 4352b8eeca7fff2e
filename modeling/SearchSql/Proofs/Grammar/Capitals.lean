import SearchSql.Condition.Operator
import SearchSql.Proofs.Grammar.Tokens

/-!
# Tokens in upper case

Operators are written in upper case and without the blanks around them. That changes the letters
of words and nothing else, and it makes no word to one of the four that it was not before: a
letter beyond ASCII has a capital that is in none of them, or is spelled with one.

## Main definitions

* `Grammar.Token.capital` — a token in upper case.

## Main statements

* `Grammar.lex_flatMap_upperChar` — a text in upper case has the tokens in upper case.
* `Grammar.isInert_normalize` — a keyword has no parentheses and none of the four words, unless
  the text has.
-/
namespace SearchSql.Grammar

open Text

/-- A token in upper case. -/
def Token.capital : Token → Token
  | .word cs => .word (cs.flatMap upperChar)
  | .mark c => .mark c

/-- Stretches of code points without blanks. -/
def stretches : List (Nat × Nat) :=
  [(0xA1, 0x167F), (0x1681, 0x1FFF), (0x2060, 0x2FFF), (0x3001, 0xD7FF), (0xE000, 0x10FFFF)]

/-- The code points of the blanks beyond ASCII. -/
def blanksBeyond : List Nat :=
  [0x85, 0xA0, 0x1680, 0x2000, 0x2001, 0x2002, 0x2003, 0x2004, 0x2005, 0x2006, 0x2007, 0x2008,
    0x2009, 0x200A, 0x2028, 0x2029, 0x202F, 0x205F, 0x3000]

/-! ## Characters -/

theorem forall_ascii {P : Char → Prop} (h : ∀ n < 128, P (Char.ofNat n)) {c : Char}
    (hc : c.toNat < 128) : P c := by
  rw [← Char.ofNat_toNat c]
  exact h _ hc

theorem upperChar_of_ascii {c : Char} (h : c.toNat < 128) : upperChar c = [c.toUpper] :=
  forall_ascii (P := fun c => upperChar c = [c.toUpper]) (by decide) h

theorem toUpper_of_le {c : Char} (h : 128 ≤ c.toNat) : c.toUpper = c := by
  rw [Char.toUpper]
  rw [dif_neg]
  intro hc
  have hle : c.toNat ≤ 122 := UInt32.le_iff_toNat_le.1 hc.2
  omega

/-- No letter beyond ASCII is in one of the words. -/
theorem toUpper_notMem_of_le {c : Char} (h : 128 ≤ c.toNat) : c.toUpper ∉ reserved.flatten := by
  intro hmem
  rw [toUpper_of_le h] at hmem
  have hupper := isUpper_of_mem_reserved hmem
  simp [Char.isUpper, UInt32.le_iff_toNat_le] at hupper
  omega

theorem isWordPart_of_le {c : Char} (h : 128 ≤ c.toNat) (hblank : isBlank c = false) :
    isWordPart c := by
  simp [isWordPart, h, hblank]

theorem toNat_lt_of_isAlphanum {c : Char} (h : c.isAlphanum = true) : c.toNat < 128 := by
  simp [Char.isAlphanum, Char.isAlpha, Char.isUpper, Char.isLower, Char.isDigit,
    UInt32.le_iff_toNat_le] at h
  omega

theorem isWordPart_of_isBlank {c : Char} (h : isBlank c = true) : isWordPart c = false := by
  by_cases hc : c.toNat < 128
  · exact forall_ascii (P := fun c => isBlank c = true → isWordPart c = false)
      (by decide) hc h
  · have halphanum : c.isAlphanum = false := by
      by_contra halphanum
      exact hc (toNat_lt_of_isAlphanum (by simpa using halphanum))
    have hunderscore : c ≠ '_' := by
      rintro rfl
      exact hc (by decide)
    simp [isWordPart, h, halphanum, hunderscore]

theorem toNat_mem_blanksBeyond {c : Char} (h : 128 ≤ c.toNat) (hblank : isBlank c = true) :
    c.toNat ∈ blanksBeyond := by
  simp [isBlank, isWhiteSpace] at hblank
  simp only [blanksBeyond, List.mem_cons, List.not_mem_nil, or_false]
  omega

/-- A code point in a stretch without blanks is a part of a word. -/
theorem isBlank_of_mem_stretches {n : Nat} {stretch : Nat × Nat} (h : stretch ∈ stretches)
    (hfirst : stretch.1 ≤ n) (hlast : n ≤ stretch.2) :
    128 ≤ (Char.ofNat n).toNat ∧ isBlank (Char.ofNat n) = false := by
  have hvalid : n.isValidChar := by
    simp only [stretches, List.mem_cons, List.not_mem_nil, or_false] at h
    rw [Nat.isValidChar]
    rcases h with rfl | rfl | rfl | rfl | rfl <;> simp only at hfirst hlast <;> omega
  have hnat : (Char.ofNat n).toNat = n := by
    rw [Char.ofNat, dif_pos hvalid]
    rfl
  rw [isBlank, isWhiteSpace, hnat]
  simp only [stretches, List.mem_cons, List.not_mem_nil, or_false] at h
  rcases h with rfl | rfl | rfl | rfl | rfl <;> simp only at hfirst hlast <;>
    exact ⟨by omega, by simp; omega⟩

/-- A capital is found in a run. -/
theorem exists_run_of_capitalIn {runs : List CapitalRun} {n m : Nat}
    (h : capitalIn runs n = some m) :
    ∃ run ∈ runs, run.first ≤ n ∧ n ≤ run.last ∧ m = run.capital + (n - run.first) := by
  induction runs with
  | nil => simp [capitalIn] at h
  | cons run rest ih =>
    rw [capitalIn] at h
    split at h
    · simp at h
    · rename_i hfirst
      split at h
      · rename_i hlast
        split at h
        · obtain rfl := Option.some.inj h
          exact ⟨run, List.mem_cons_self .., by omega, hlast, rfl⟩
        · simp at h
      · obtain ⟨found, hmem, hfound⟩ := ih h
        exact ⟨found, List.mem_cons_of_mem _ hmem, hfound⟩

set_option maxRecDepth 2000 in
/-- The runs of capitals begin in ASCII, or lead to the letters I and S, or stay in a stretch. -/
theorem run_cases : ∀ run ∈ capitalRuns, run.last < 128 ∨
    (run.first = run.last ∧ (run.capital = 0x49 ∨ run.capital = 0x53)) ∨
      ∃ stretch ∈ stretches, stretch.1 ≤ run.capital ∧
        run.capital + (run.last - run.first) ≤ stretch.2 := by
  decide

/-- Every spelling is a part of a word and has a letter that is in none of the four. -/
theorem spelling_cases : ∀ entry ∈ capitalSpellings,
    (entry.2.map Char.ofNat).all isWordPart ∧
      (entry.2.map Char.ofNat).any fun d => d.toUpper ∉ reserved.flatten := by
  decide

/-- Beyond ASCII the capital form of a letter is a part of a word, and of none of the four. -/
theorem upperChar_of_le {c : Char} (h : 128 ≤ c.toNat) (hblank : isBlank c = false) :
    (∀ d ∈ upperChar c, isWordPart d) ∧ ∃ d ∈ upperChar c, d.toUpper ∉ reserved.flatten := by
  rw [upperChar]
  split
  · rename_i n hn
    obtain ⟨run, hrun, hfirst, hlast, rfl⟩ := exists_run_of_capitalIn hn
    simp only [List.mem_singleton, forall_eq, exists_eq_left]
    rcases run_cases run hrun with hascii | ⟨hsame, hcapital⟩ | ⟨stretch, hstretch, hle, hge⟩
    · omega
    · obtain hzero : c.toNat - run.first = 0 := by omega
      rw [hzero]
      rcases hcapital with hcapital | hcapital <;> rw [hcapital] <;> exact ⟨by decide, by decide⟩
    · obtain ⟨hbeyond, hword⟩ := isBlank_of_mem_stretches hstretch
        (n := run.capital + (c.toNat - run.first)) (by omega) (by omega)
      exact ⟨isWordPart_of_le hbeyond hword, toUpper_notMem_of_le hbeyond⟩
  · rw [if_neg (by omega)]
    split
    · rename_i spelling hspelling
      obtain ⟨front, back, heq, -⟩ := List.lookup_eq_some_iff.1 hspelling
      obtain ⟨hall, hany⟩ := spelling_cases (c.toNat, spelling) (by simp [heq])
      exact ⟨List.all_eq_true.1 hall, by simpa using hany⟩
    · simp only [List.mem_singleton, forall_eq, exists_eq_left]
      exact ⟨isWordPart_of_le h hblank, toUpper_notMem_of_le h⟩

/-- The capital form of a part of a word is a part of a word. -/
theorem isWordPart_upperChar {c : Char} (h : isWordPart c) :
    upperChar c ≠ [] ∧ ∀ d ∈ upperChar c, isWordPart d := by
  by_cases hc : c.toNat < 128
  · rw [upperChar_of_ascii hc]
    have hupper : isWordPart c.toUpper := forall_ascii
      (P := fun c => isWordPart c = true → isWordPart c.toUpper = true) (by decide) hc h
    exact ⟨nofun, by simpa using hupper⟩
  · have hblank : isBlank c = false := by
      by_contra hblank
      rw [isWordPart_of_isBlank (by simpa using hblank)] at h
      exact absurd h nofun
    obtain ⟨hall, d, hd, -⟩ := upperChar_of_le (by omega) hblank
    exact ⟨List.ne_nil_of_mem hd, hall⟩

set_option maxRecDepth 2000 in
/-- What is no part of a word is its own capital form. -/
theorem upperChar_of_not_isWordPart {c : Char} (h : isWordPart c = false) : upperChar c = [c] := by
  by_cases hc : c.toNat < 128
  · rw [upperChar_of_ascii hc]
    have hupper : c.toUpper = c := forall_ascii
      (P := fun c => isWordPart c = false → c.toUpper = c) (by decide) hc h
    rw [hupper]
  · have hblank : isBlank c = true := by
      by_contra hblank
      rw [isWordPart_of_le (by omega) (by simpa using hblank)] at h
      exact absurd h nofun
    have hmem := toNat_mem_blanksBeyond (by omega) hblank
    have hupper : ∀ n ∈ blanksBeyond, upperChar (Char.ofNat n) = [Char.ofNat n] := by
      decide
    simpa using hupper c.toNat hmem

/-! ## Tokens -/

/-- Put characters in front of some tokens; they join the word at their start. -/
def pushWord (cs : List Char) : List Token → List Token
  | .word ds :: rest => .word (cs ++ ds) :: rest
  | tokens => .word cs :: tokens

/-- Parts of a word are read as one word. -/
theorem lex_append_of_isWordPart {cs : List Char} (hne : cs ≠ []) (h : ∀ c ∈ cs, isWordPart c)
    (ds : List Char) : lex (cs ++ ds) = pushWord cs (lex ds) := by
  induction cs with
  | nil => exact absurd rfl hne
  | cons c cs ih =>
    obtain ⟨hc, hcs⟩ := List.forall_mem_cons.1 h
    rw [List.cons_append, lex, if_pos hc]
    by_cases hnil : cs = []
    · subst hnil
      rw [List.nil_append]
      rcases lex ds with _ | ⟨_ | _, _⟩ <;> rfl
    · rw [ih hnil hcs]
      rcases lex ds with _ | ⟨_ | _, _⟩ <;> rfl

theorem map_capital_pushPart (c : Char) (tokens : List Token) :
    (pushPart c tokens).map Token.capital = pushWord (upperChar c) (tokens.map Token.capital) := by
  match tokens with
  | [] | .word _ :: _ | .mark _ :: _ => simp [pushPart, pushWord, Token.capital]

/-- **A text in upper case has the tokens in upper case.** -/
theorem lex_flatMap_upperChar (cs : List Char) :
    lex (cs.flatMap upperChar) = (lex cs).map Token.capital := by
  induction cs with
  | nil => rfl
  | cons c cs ih =>
    rw [List.flatMap_cons]
    by_cases hc : isWordPart c
    · obtain ⟨hne, hparts⟩ := isWordPart_upperChar hc
      rw [lex_append_of_isWordPart hne hparts, ih, lex, if_pos hc, map_capital_pushPart]
    · have hc : isWordPart c = false := by simpa using hc
      rw [upperChar_of_not_isWordPart hc, List.singleton_append, lex_cons_of_not_isWordPart hc,
        lex_cons_of_not_isWordPart hc, ih]
      rfl

/-- A word in upper case is one of the four only if the word is. -/
theorem map_toUpper_mem_reserved {cs : List Char} (hparts : ∀ c ∈ cs, isBlank c = false)
    (h : (cs.flatMap upperChar).map Char.toUpper ∈ reserved) : cs.map Char.toUpper ∈ reserved := by
  have hascii : ∀ c ∈ cs, c.toNat < 128 := by
    intro c hc
    by_contra hle
    obtain ⟨-, d, hd, hletter⟩ := upperChar_of_le (by omega) (hparts c hc)
    have hmem : d ∈ cs.flatMap upperChar := List.mem_flatMap.2 ⟨c, hc, hd⟩
    exact hletter (List.mem_flatten_of_mem h (List.mem_map_of_mem hmem))
  have hupper : cs.flatMap upperChar = cs.map Char.toUpper := by
    rw [List.map_eq_flatMap]
    exact List.flatMap_congr fun c hc => upperChar_of_ascii (hascii c hc)
  have htwice : (cs.map Char.toUpper).map Char.toUpper = cs.map Char.toUpper := by
    rw [List.map_map]
    refine List.map_congr_left fun c hc => ?_
    exact forall_ascii (P := fun c => c.toUpper.toUpper = c.toUpper) (by decide)
      (hascii c hc)
  rw [hupper, htwice] at h
  exact h

theorem mem_pushPart {c : Char} {tokens : List Token} {t : Token} (h : t ∈ pushPart c tokens) :
    t = .word [c] ∨ (∃ es, Token.word es ∈ tokens ∧ t = .word (c :: es)) ∨ t ∈ tokens := by
  rcases tokens with _ | ⟨es | d, rest⟩
  · exact .inl (List.mem_singleton.1 h)
  · rcases List.mem_cons.1 h with rfl | h
    · exact .inr (.inl ⟨es, List.mem_cons_self .., rfl⟩)
    · exact .inr (.inr (List.mem_cons_of_mem _ h))
  · rcases List.mem_cons.1 h with rfl | h
    · exact .inl rfl
    · exact .inr (.inr h)

/-- Words are made up of their parts. -/
theorem isWordPart_of_mem_lex {cs ds : List Char} (h : Token.word ds ∈ lex cs) :
    ∀ d ∈ ds, isWordPart d := by
  induction cs generalizing ds with
  | nil => simp at h
  | cons c cs ih =>
    rw [lex] at h
    split at h
    · rename_i hc
      rcases mem_pushPart h with heq | ⟨es, hes, heq⟩ | h
      · obtain rfl := Token.word.inj heq
        simpa using hc
      · obtain rfl := Token.word.inj heq
        exact List.forall_mem_cons.2 ⟨hc, ih hes⟩
      · exact ih h
    · rcases List.mem_cons.1 h with heq | h
      · cases heq
      · exact ih h

/-- A text that does nothing does nothing in upper case. -/
theorem isInert_flatMap_upperChar {cs : List Char} (h : isInert cs) :
    isInert (cs.flatMap upperChar) := by
  rw [isInert, lex_flatMap_upperChar, List.all_map, List.all_eq_true]
  intro t ht
  have hinert : t.isInert := by
    rw [isInert, List.all_eq_true] at h
    exact h t ht
  cases t with
  | mark c => exact hinert
  | word ds =>
    refine isInert_word_iff.2 fun hreserved => isInert_word_iff.1 hinert ?_
    refine map_toUpper_mem_reserved (fun c hc => ?_) hreserved
    by_contra hblank
    have hword := isWordPart_of_mem_lex ht c hc
    rw [isWordPart_of_isBlank (by simpa using hblank)] at hword
    cases hword

/-! ## Keywords -/

theorem isInert_append_blanks {cs back : List Char} (h : isInert (cs ++ back))
    (hback : ∀ c ∈ back, isBlank c = true) : isInert cs := by
  cases back with
  | nil => simpa using h
  | cons c rest =>
    have hc := isWordPart_of_isBlank (hback c (List.mem_cons_self ..))
    rw [isInert, lex_append_cons hc, List.all_append, Bool.and_eq_true] at h
    exact h.1

theorem isInert_blanks_append {front cs : List Char} (h : isInert (front ++ cs))
    (hfront : ∀ c ∈ front, isBlank c = true) : isInert cs := by
  induction front with
  | nil => exact h
  | cons c rest ih =>
    obtain ⟨hc, hrest⟩ := List.forall_mem_cons.1 hfront
    rw [List.cons_append, isInert, lex_cons_of_not_isWordPart (isWordPart_of_isBlank hc),
      List.all_cons, Bool.and_eq_true] at h
    exact ih h.2 hrest

theorem isInert_trimChars {cs : List Char} (h : isInert cs) :
    isInert (trimChars isBlank cs) := by
  have hfront : isInert (cs.dropWhile isBlank) := by
    rw [← List.takeWhile_append_dropWhile (p := isBlank) (l := cs)] at h
    exact isInert_blanks_append h fun c hc => List.mem_takeWhile_imp hc
  have hback := congrArg List.reverse
    (List.takeWhile_append_dropWhile (p := isBlank) (l := (cs.dropWhile isBlank).reverse))
  rw [List.reverse_append, List.reverse_reverse] at hback
  rw [← hback] at hfront
  refine isInert_append_blanks hfront fun c hc => ?_
  exact List.mem_takeWhile_imp (List.mem_reverse.1 hc)

/-- **A keyword has no parentheses and none of the four words, unless the text has.** -/
theorem isInert_normalize {token : String} (h : isInert token.toList) :
    isInert (Operator.normalize token).toList := by
  rw [Operator.normalize, toList_upper, toList_trim]
  exact isInert_flatMap_upperChar (isInert_trimChars h)

end SearchSql.Grammar
