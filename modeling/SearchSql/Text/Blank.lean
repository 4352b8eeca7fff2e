/-!
# Blank characters

Two classes of characters that separate words. `isWhiteSpace` is the property
White_Space of Unicode; `isBlank` adds the four information separators U+001C to
U+001F. Names, keywords and column lists are trimmed by the wider class, numerals
by the narrower.

## Main definitions

* `Text.isWhiteSpace`, `Text.isBlank` — the two classes.
* `Text.trim` — a text without its blanks at both ends.
-/

namespace SearchSql.Text

/-- The white space that may surround a numeral. -/
def isWhiteSpace (c : Char) : Bool :=
  let n := c.toNat
  (9 ≤ n && n ≤ 13) || n == 0x20 || n == 0x85 || n == 0xA0 || n == 0x1680 ||
    (0x2000 ≤ n && n ≤ 0x200A) || n == 0x2028 || n == 0x2029 || n == 0x202F ||
    n == 0x205F || n == 0x3000

/-- White space or an information separator. -/
def isBlank (c : Char) : Bool :=
  isWhiteSpace c || (0x1C ≤ c.toNat && c.toNat ≤ 0x1F)

/-- Drop the characters of a class at both ends. -/
def trimChars (drops : Char → Bool) (cs : List Char) : List Char :=
  ((cs.dropWhile drops).reverse.dropWhile drops).reverse

/-- A text without its blanks at both ends. -/
def trim (s : String) : String := String.ofList (trimChars isBlank s.toList)

theorem isBlank_of_isWhiteSpace {c : Char} (h : isWhiteSpace c = true) : isBlank c = true := by
  simp [isBlank, h]

@[simp] theorem toList_trim (s : String) : (trim s).toList = trimChars isBlank s.toList := by
  simp [trim]

@[simp] theorem trimChars_nil (drops : Char → Bool) : trimChars drops [] = [] := rfl

/-- Characters of the class in front do not count. -/
theorem trimChars_append_left (drops : Char → Bool) {front : List Char}
    (h : ∀ c ∈ front, drops c = true) (cs : List Char) :
    trimChars drops (front ++ cs) = trimChars drops cs := by
  simp [trimChars, List.dropWhile_append_of_pos h]

/-- Characters of the class at the end do not count. -/
theorem trimChars_append_right (drops : Char → Bool) {back : List Char}
    (h : ∀ c ∈ back, drops c = true) (cs : List Char) :
    trimChars drops (cs ++ back) = trimChars drops cs := by
  have hback : ∀ c ∈ back.reverse, drops c = true := by simpa using h
  have hnone : back.dropWhile drops = [] := by
    rw [← List.append_nil back, List.dropWhile_append_of_pos h, List.dropWhile_nil]
  by_cases hcs : cs.dropWhile drops = []
  · simp only [trimChars, List.dropWhile_append, hcs, hnone, List.isEmpty_nil, if_true]
  · simp only [trimChars, List.dropWhile_append, List.isEmpty_iff, hcs, if_false,
      List.reverse_append, List.dropWhile_append_of_pos hback]

end SearchSql.Text
