import Mathlib
import SearchSql.Escape.Match

/-!
# Reading escaped texts back

An escaped text is read from the left: what follows a backslash is taken literally, or it is the
name of a control character. Escaped texts are the only ones that can be read, and each is read as
the text that it was made from. In none of them does an operator stand by itself.

## Main definitions

* `Match.Written` — the forms in which a character is written.
* `Match.unescape` — the text that a full-text query was made from.
* `Match.unpaired` — the characters that no backslash takes with it.

## Main statements

* `Match.unescapeChars_eq_some_iff` — what can be read, and as what.
* `Match.escape_reversible` — reading back, text by text, and nothing that works as an operator.
-/
namespace SearchSql.Match

/-- The characters that mean something in a full-text query. -/
def operators : List Char :=
  ['\\', '/', '"', '(', ')', '|', '-', '!', '@', '~', '&', '^', '$', '=', '>', '<']

/-- The control characters that end or cut a full-text query. -/
def controls : List Char := ['\x00', '\n', '\r', '\x1a']

/-- The form in which a character is written. -/
inductive Written : Char → List Char → Prop where
  /-- An operator stands behind a backslash. -/
  | operator {a : Char} (h : a ∈ operators) : Written a ['\\', a]
  /-- The null character has a name. -/
  | null : Written '\x00' ['\\', 'x', '0', '0']
  /-- The line feed has a name. -/
  | lineFeed : Written '\n' ['\\', 'n']
  /-- The carriage return has a name. -/
  | carriageReturn : Written '\r' ['\\', 'r']
  /-- The substitute character has a name. -/
  | substitute : Written '\x1a' ['\\', 'x', '1', 'a']
  /-- Any other character stands for itself. -/
  | plain {a : Char} (hoperator : a ∉ operators) (hcontrol : a ∉ controls) : Written a [a]

/-- The characters that an escaped text was made from; there are none for other texts. -/
def unescapeChars : List Char → Option (List Char)
  | [] => some []
  | '\\' :: 'x' :: '0' :: '0' :: rest => (unescapeChars rest).map ('\x00' :: ·)
  | '\\' :: 'x' :: '1' :: 'a' :: rest => (unescapeChars rest).map ('\x1a' :: ·)
  | '\\' :: 'n' :: rest => (unescapeChars rest).map ('\n' :: ·)
  | '\\' :: 'r' :: rest => (unescapeChars rest).map ('\r' :: ·)
  | '\\' :: a :: rest => if a ∈ operators then (unescapeChars rest).map (a :: ·) else none
  | a :: rest =>
    if a ∈ operators ∨ a ∈ controls then none else (unescapeChars rest).map (a :: ·)

/-- The text that a full-text query was made from, if it was escaped. -/
def unescape (t : String) : Option String := (unescapeChars t.toList).map String.ofList

/-- The characters that stand by themselves when each backslash takes the character behind it
along. A backslash at the end has none to take. -/
def unpaired : List Char → List Char
  | [] => []
  | ['\\'] => ['\\']
  | '\\' :: _ :: rest => unpaired rest
  | a :: rest => a :: unpaired rest

/-! ## Single characters -/

/-- A character is written in one of the forms. -/
theorem written_escapeChar (a : Char) : Written a (escapeChar a) := by
  by_cases hoperator : a ∈ operators
  · have hspecial : a ∈ specials := hoperator
    rw [escapeChar, if_pos hspecial]
    exact .operator hoperator
  by_cases hcontrol : a ∈ controls
  · simp only [controls, List.mem_cons, List.not_mem_nil, or_false] at hcontrol
    rcases hcontrol with rfl | rfl | rfl | rfl
    · exact .null
    · exact .lineFeed
    · exact .carriageReturn
    · exact .substitute
  · have hspecial : a ∉ specials := hoperator
    have hne : a.toNat ≠ 0 ∧ a ≠ '\n' ∧ a ≠ '\r' ∧ a.toNat ≠ 0x1A := by
      simp only [controls, List.mem_cons, List.not_mem_nil, or_false, not_or] at hcontrol
      obtain ⟨hnull, hfeed, hreturn, hsubstitute⟩ := hcontrol
      exact ⟨fun h => hnull (Char.toNat_inj.1 h), hfeed, hreturn,
        fun h => hsubstitute (Char.toNat_inj.1 h)⟩
    have hself : escapeChar a = [a] := by simp [escapeChar, hspecial, hne]
    rw [hself]
    exact .plain hoperator hcontrol

/-- A character has one form. -/
theorem Written.eq_escapeChar {a : Char} {w : List Char} (h : Written a w) : w = escapeChar a := by
  have hform := written_escapeChar a
  generalize escapeChar a = v at hform
  cases h with
  | operator h =>
    cases hform with
    | operator => rfl
    | plain hoperator => exact absurd h hoperator
    | _ => exact absurd h (by decide)
  | null | lineFeed | carriageReturn | substitute =>
    cases hform with
    | operator h => exact absurd h (by decide)
    | plain _ hcontrol => exact absurd (by decide) hcontrol
    | _ => rfl
  | plain hoperator hcontrol =>
    cases hform with
    | operator h => exact absurd h hoperator
    | plain => rfl
    | _ => exact absurd (by decide) hcontrol

theorem Written.unescapeChars_append {a : Char} {w : List Char} (h : Written a w)
    (rest : List Char) : unescapeChars (w ++ rest) = (unescapeChars rest).map (a :: ·) := by
  cases h with
  | operator h =>
    have hname : a ≠ 'x' ∧ a ≠ 'n' ∧ a ≠ 'r' := by
      refine ⟨?_, ?_, ?_⟩
      all_goals
        rintro rfl
        exact absurd h (by decide)
    rw [List.cons_append, List.cons_append, List.nil_append, unescapeChars, if_pos h]
    all_goals grind
  | null | lineFeed | carriageReturn | substitute => rfl
  | plain hoperator hcontrol =>
    have hslash : a ≠ '\\' := by
      rintro rfl
      exact hoperator (by decide)
    rw [List.singleton_append, unescapeChars, if_neg (by simp [hoperator, hcontrol])]
    all_goals grind

/-- A character that is read is written in front of the rest. -/
theorem Written.append_eq {a : Char} {w rest s : List Char} (h : Written a w)
    (hs : (unescapeChars rest).map (a :: ·) = some s)
    (ih : ∀ {u}, unescapeChars rest = some u → rest = u.flatMap escapeChar) :
    w ++ rest = s.flatMap escapeChar := by
  obtain ⟨u, hu, rfl⟩ := Option.map_eq_some_iff.1 hs
  rw [List.flatMap_cons, ← h.eq_escapeChar, ← ih hu]

/-- Only an operator behind a backslash, and no control character, is left by itself. -/
theorem Written.unpaired_append {a : Char} {w : List Char} (h : Written a w) (rest : List Char) :
    ∃ alone : List Char, unpaired (w ++ rest) = alone ++ unpaired rest ∧
      ∀ b ∈ alone, b ∉ operators := by
  cases h with
  | operator | lineFeed | carriageReturn => exact ⟨[], rfl, nofun⟩
  | null => exact ⟨['0', '0'], rfl, by simp [operators]⟩
  | substitute => exact ⟨['1', 'a'], rfl, by simp [operators]⟩
  | plain hoperator =>
    have hslash : a ≠ '\\' := by
      rintro rfl
      exact hoperator (by decide)
    refine ⟨[a], ?_, by simpa using hoperator⟩
    rw [List.singleton_append, List.singleton_append, unpaired]
    all_goals grind

theorem Written.notMem_controls {a : Char} {w : List Char} (h : Written a w) :
    ∀ b ∈ w, b ∉ controls := by
  cases h with
  | operator h =>
    have hdisjoint : ∀ b ∈ operators, b ∉ controls := by simp [operators, controls]
    intro b hb
    rcases List.mem_cons.1 hb with rfl | hb
    · decide
    · exact hdisjoint b (List.mem_singleton.1 hb ▸ h)
  | null | lineFeed | carriageReturn | substitute => simp [controls]
  | plain _ hcontrol => simpa using hcontrol

/-! ## Texts -/

theorem unescapeChars_flatMap (s : List Char) :
    unescapeChars (s.flatMap escapeChar) = some s := by
  induction s with
  | nil => rfl
  | cons a s ih =>
    rw [List.flatMap_cons, (written_escapeChar a).unescapeChars_append, ih, Option.map_some]

theorem eq_of_unescapeChars {t s : List Char} (h : unescapeChars t = some s) :
    t = s.flatMap escapeChar := by
  fun_induction unescapeChars t generalizing s with
  | case1 =>
    obtain rfl := Option.some.inj h
    rfl
  | case2 rest ih => exact Written.null.append_eq h ih
  | case3 rest ih => exact Written.substitute.append_eq h ih
  | case4 rest ih => exact Written.lineFeed.append_eq h ih
  | case5 rest ih => exact Written.carriageReturn.append_eq h ih
  | case6 a rest _ _ _ _ hoperator ih => exact (Written.operator hoperator).append_eq h ih
  | case7 | case8 => cases h
  | case9 a rest _ _ _ _ _ hplain ih =>
    obtain ⟨hoperator, hcontrol⟩ := not_or.1 hplain
    exact (Written.plain hoperator hcontrol).append_eq h ih

/-- **What can be read, and as what**: the escaped texts, each as the text it was made from. -/
theorem unescapeChars_eq_some_iff {t s : List Char} :
    unescapeChars t = some s ↔ t = s.flatMap escapeChar := by
  constructor
  · exact eq_of_unescapeChars
  · rintro rfl
    exact unescapeChars_flatMap s

theorem unescape_eq_some_iff {t s : String} : unescape t = some s ↔ t = escape s := by
  rw [unescape, Option.map_eq_some_iff]
  constructor
  · rintro ⟨cs, hcs, rfl⟩
    rw [← String.toList_inj, toList_escape, String.toList_ofList]
    exact unescapeChars_eq_some_iff.1 hcs
  · rintro rfl
    refine ⟨s.toList, ?_, String.ofList_toList⟩
    rw [toList_escape, unescapeChars_flatMap]

theorem notMem_operators_of_mem_unpaired (s : List Char) :
    ∀ a ∈ unpaired (s.flatMap escapeChar), a ∉ operators := by
  induction s with
  | nil => nofun
  | cons a s ih =>
    obtain ⟨alone, heq, halone⟩ :=
      (written_escapeChar a).unpaired_append (s.flatMap escapeChar)
    intro b hb
    rw [List.flatMap_cons, heq] at hb
    rcases List.mem_append.1 hb with hb | hb
    · exact halone b hb
    · exact ih b hb

/-- **Escaping can be undone, goes text by text, and leaves nothing that works as an operator.**
A text is read back from its escaped form and from no other one. In an escaped text each operator
is behind a backslash that takes it along, and no control character occurs. -/
theorem escape_reversible :
    (∀ s t, unescape t = some s ↔ t = escape s) ∧
      (∀ s t, escape (s ++ t) = escape s ++ escape t) ∧
      ∀ s, (∀ a ∈ unpaired (escape s).toList, a ∉ operators) ∧
        ∀ a ∈ (escape s).toList, a ∉ controls := by
  refine ⟨fun s t => unescape_eq_some_iff, escape_append, fun s => ⟨?_, ?_⟩⟩
  · rw [toList_escape]
    exact notMem_operators_of_mem_unpaired s.toList
  · intro a ha
    rw [toList_escape] at ha
    obtain ⟨b, -, hab⟩ := List.mem_flatMap.1 ha
    exact (written_escapeChar b).notMem_controls a hab

end SearchSql.Match
