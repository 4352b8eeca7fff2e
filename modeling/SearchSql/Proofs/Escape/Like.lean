import SearchSql.Proofs.Escape.Replacement

/-!
# What a pattern for a text matches

A pattern is compared with a whole text: `%` stands for any sequence of characters and `_` for any
one character, unless a backslash is in front of it. In an escaped text no wildcard is live and each
backslash takes just the character that it was put in front of, so an escaped text matches only
itself; with anything around it, it is searched for.

## Main definitions

* `Like.Matches` — which texts a pattern matches.
* `Like.escapeChar` — one character of a text in a pattern.

## Main statements

* `Like.pattern_escapes` — the pattern for a text, character by character.
* `Like.matches_escaped_append_iff` — an escaped text in front of a pattern.
* `Like.pattern_matches_iff_infix` — the pattern for a text matches the texts that it occurs in.
-/
namespace SearchSql.Like

/-- A pattern matches a text. What a backslash at the end of a pattern means is left open. -/
inductive Matches : List Char → List Char → Prop where
  /-- The empty pattern matches the empty text. -/
  | nil : Matches [] []
  /-- Any sequence may be empty. -/
  | stop {pattern text : List Char} (h : Matches pattern text) : Matches ('%' :: pattern) text
  /-- Any sequence may go on. -/
  | skip {pattern text : List Char} {a : Char} (h : Matches ('%' :: pattern) text) :
    Matches ('%' :: pattern) (a :: text)
  /-- Any one character. -/
  | one {pattern text : List Char} {a : Char} (h : Matches pattern text) :
    Matches ('_' :: pattern) (a :: text)
  /-- The character behind a backslash stands for itself, whatever it is. -/
  | escaped {pattern text : List Char} {a : Char} (h : Matches pattern text) :
    Matches ('\\' :: a :: pattern) (a :: text)
  /-- Any other character stands for itself. -/
  | literal {pattern text : List Char} {a : Char} (ha : a ∉ ['%', '_', '\\'])
    (h : Matches pattern text) : Matches (a :: pattern) (a :: text)

/-- One character of a text in a pattern. -/
def escapeChar (a : Char) : List Char := if a ∈ ['%', '_', '\\'] then ['\\', a] else [a]

/-! ## The pattern for a text -/

theorem isTable_escapes : Replacement.IsTable escapes := ⟨by decide, by decide⟩

/-- The keys are single characters, so a text is replaced character by character. -/
theorem substituted_escapes (cs : List Char) :
    Replacement.Substituted escapes cs (cs.flatMap escapeChar) := by
  induction cs with
  | nil => exact .done
  | cons a cs ih =>
    rw [List.flatMap_cons, escapeChar]
    split
    · rename_i hspecial
      have hmem : (String.singleton a, String.ofList ['\\', a]) ∈ escapes := by
        simp only [List.mem_cons, List.not_mem_nil, or_false] at hspecial
        rcases hspecial with rfl | rfl | rfl <;> decide
      have hlongest : ∀ pair ∈ escapes,
          pair.1.toList.length ≤ (String.singleton a).toList.length := by
        simp [escapes]
      simpa using Replacement.Substituted.replaced hmem (fun pair hpair _ => hlongest pair hpair) ih
    · rename_i hplain
      refine .kept (fun pair hpair hprefix => hplain ?_) ih
      have hkey : ∃ b ∈ ['%', '_', '\\'], pair.1.toList = [b] := by
        revert pair
        simp [escapes]
      obtain ⟨b, hb, hkey⟩ := hkey
      rw [hkey, List.cons_prefix_cons] at hprefix
      exact hprefix.1 ▸ hb

/-- **The pattern for a text**, character by character. -/
theorem pattern_escapes (v : String) :
    pattern (.text v) (tableValue escapes) =
      .ok (.text ("%" ++ String.ofList (v.toList.flatMap escapeChar) ++ "%")) := by
  have happly := (substituted_escapes v.toList).apply_eq isTable_escapes
  rw [pattern, Replacement.ofValue_tableValue (by decide)]
  change (do return Value.text ("%" ++ (← (Replacement.ofNamed escapes).apply v) ++ "%")) = _
  rw [happly]
  rfl

example : pattern (.text "5%_\\") (tableValue escapes) = .ok (.text "%5\\%\\_\\\\%") := rfl

/-! ## What it matches -/

/-- Any sequence in front of a pattern. -/
theorem matches_percent_iff {pattern text : List Char} :
    Matches ('%' :: pattern) text ↔ ∃ rest, rest <:+ text ∧ Matches pattern rest := by
  constructor
  · intro h
    generalize hp : '%' :: pattern = p at h
    induction h with
    | nil => cases hp
    | stop h =>
      obtain ⟨-, rfl⟩ := List.cons.inj hp
      exact ⟨_, List.suffix_refl _, h⟩
    | skip h ih =>
      obtain ⟨rest, hsuffix, hrest⟩ := ih hp
      exact ⟨rest, hsuffix.trans (List.suffix_cons _ _), hrest⟩
    | one | escaped => simp at hp
    | literal ha h => exact absurd (List.mem_cons_self ..) ((List.cons.inj hp).1 ▸ ha)
  · rintro ⟨rest, ⟨front, rfl⟩, hrest⟩
    induction front with
    | nil => exact .stop hrest
    | cons a front ih => exact .skip ih

/-- One escaped character in front of a pattern: a wildcard is not live, and a backslash takes no
more than the character behind it. -/
theorem matches_escapeChar_append_iff {a : Char} {pattern text : List Char} :
    Matches (escapeChar a ++ pattern) text ↔ ∃ rest, text = a :: rest ∧ Matches pattern rest := by
  rw [escapeChar]
  split
  · constructor
    · intro h
      cases h with
      | escaped h => exact ⟨_, rfl, h⟩
      | literal hplain _ => simp at hplain
    · rintro ⟨rest, rfl, hrest⟩
      exact .escaped hrest
  · rename_i hplain
    constructor
    · intro h
      cases h with
      | literal _ h => exact ⟨_, rfl, h⟩
      | stop | skip | one | escaped => simp at hplain
    · rintro ⟨rest, rfl, hrest⟩
      exact .literal hplain hrest

/-- **An escaped text in front of a pattern** matches itself and nothing else. -/
theorem matches_escaped_append_iff {v pattern text : List Char} :
    Matches (v.flatMap escapeChar ++ pattern) text ↔
      ∃ rest, text = v ++ rest ∧ Matches pattern rest := by
  induction v generalizing text with
  | nil => simp
  | cons a v ih =>
    rw [List.flatMap_cons, List.append_assoc, matches_escapeChar_append_iff]
    constructor
    · rintro ⟨_, rfl, h⟩
      obtain ⟨rest, rfl, hrest⟩ := ih.1 h
      exact ⟨rest, rfl, hrest⟩
    · rintro ⟨rest, rfl, hrest⟩
      exact ⟨v ++ rest, rfl, ih.2 ⟨rest, rfl, hrest⟩⟩

theorem matches_percent (text : List Char) : Matches ['%'] text :=
  matches_percent_iff.2 ⟨[], List.nil_suffix, .nil⟩

/-- An escaped text with anything around it matches the texts that it occurs in. -/
theorem matches_around_iff_infix {v text : List Char} :
    Matches ('%' :: (v.flatMap escapeChar ++ ['%'])) text ↔ v <:+: text := by
  rw [matches_percent_iff]
  constructor
  · rintro ⟨rest, ⟨front, rfl⟩, h⟩
    obtain ⟨back, rfl, -⟩ := matches_escaped_append_iff.1 h
    exact ⟨front, back, List.append_assoc ..⟩
  · rintro ⟨front, back, rfl⟩
    refine ⟨v ++ back, ⟨front, (List.append_assoc ..).symm⟩, ?_⟩
    exact matches_escaped_append_iff.2 ⟨back, rfl, matches_percent back⟩

/-- **The pattern for a text matches just the texts that it occurs in**, whatever characters either
of them has. -/
theorem pattern_matches_iff_infix (v : String) :
    ∃ p : String, pattern (.text v) (tableValue escapes) = .ok (.text p) ∧
      ∀ t : String, Matches p.toList t.toList ↔ v.toList <:+: t.toList := by
  refine ⟨_, pattern_escapes v, fun t => ?_⟩
  have hchars : ("%" ++ String.ofList (v.toList.flatMap escapeChar) ++ "%").toList =
      '%' :: (v.toList.flatMap escapeChar ++ ['%']) := by
    simp
  rw [hchars]
  exact matches_around_iff_infix

end SearchSql.Like
