import SearchSql.Proofs.Dialect.Basic

/-!
# Quoted names

A name is quoted part by part, and an expression is not quoted at all. So a name is left alone just
when it is an expression or when each of its parts is the star or has a back-quote in it. A quoted
name is such a name, and the parts can be read off it. An identifier that is in back-quotes already
is split at its own points all the same: it is left alone only if nothing but stars stands between
them.

## Main definitions

* `Dialect.partOf?` — the part of a name that is written as a piece of the quoted name.
* `Dialect.backQuoted` — a text between back-quotes.
* `Dialect.innerParts` — what stands between the points of a text.

## Main statements

* `Dialect.quoteChars_eq_self_iff` — the names that are left alone.
* `Dialect.quote_reversible` — quoted names are left alone and can be read.
* `Dialect.quote_backQuoted_iff` — the identifiers in back-quotes that are left alone.
-/
namespace SearchSql.Dialect

/-! ## Parts of names -/

/-- What holds of every character of the parts holds of every character but the separator. -/
theorem forall_mem_splitOn_iff {P : Char → Prop} {c : Char} {cs : List Char} :
    (∀ part ∈ cs.splitOn c, ∀ a ∈ part, P a) ↔ ∀ a ∈ cs, a = c ∨ P a := by
  induction cs with
  | nil => simp
  | cons d cs ih =>
    rw [List.splitOn_cons_eq_if_modifyHead, List.forall_mem_cons, ← ih]
    split
    · rename_i hd
      have heq : d = c := by simpa using hd
      simp [heq]
    · rename_i hd
      have hne : d ≠ c := by simpa using hd
      cases hsplit : cs.splitOn c with
      | nil => exact absurd hsplit (List.splitOn_ne_nil c cs)
      | cons first rest => simp [hne, and_assoc]

theorem notMem_of_mem_splitOn {c : Char} {part cs : List Char} (h : part ∈ cs.splitOn c) :
    c ∉ part := fun hc =>
  forall_mem_splitOn_iff.2 (fun a _ => em (a = c)) part h c hc rfl

/-- Names side by side with points between them have the parts of each. -/
theorem splitOn_intercalate_flatMap {names : List (List Char)} (h : names ≠ []) :
    (['.'].intercalate names).splitOn '.' = names.flatMap (List.splitOn '.') := by
  induction names with
  | nil => exact absurd rfl h
  | cons name rest ih =>
    cases rest with
    | nil => simp
    | cons next others =>
      have hrest := ih (List.cons_ne_nil next others)
      rw [List.intercalate_cons_cons, List.append_assoc, List.singleton_append,
        List.splitOn_append_cons_self, hrest]
      rfl

/-- A character that stands between two texts keeps another one from standing twice there. -/
theorem hasTwice_append_cons {c d : Char} (hd : d ≠ c) (cs ds : List Char) :
    hasTwice c (cs ++ d :: ds) = (hasTwice c cs || hasTwice c ds) := by
  induction cs with
  | nil => cases ds <;> simp [hasTwice, hd]
  | cons a cs ih =>
    cases cs with
    | nil =>
      rw [List.nil_append] at ih
      simp [hasTwice, hd, ih]
    | cons b cs =>
      simp only [List.cons_append, hasTwice] at ih ⊢
      rw [ih, Bool.or_assoc]

/-- The characters that make an expression of a text. -/
theorem isExpression_append_cons {d : Char} (hd : d ∉ ['(', '{', '[']) (cs ds : List Char) :
    isExpression (cs ++ d :: ds) = (isExpression cs || isExpression ds) := by
  simp only [List.mem_cons, List.not_mem_nil, or_false, not_or] at hd
  obtain ⟨hparen, hbrace, hbracket⟩ := hd
  have hopen : (cs ++ d :: ds).contains '(' = (cs.contains '(' || ds.contains '(') := by
    simp [Ne.symm hparen]
  simp only [isExpression, hopen, hasTwice_append_cons hbrace, hasTwice_append_cons hbracket]
  ac_rfl

/-- A name is an expression just when one of its parts is. -/
theorem isExpression_intercalate (parts : List (List Char)) :
    isExpression (['.'].intercalate parts) = parts.any isExpression := by
  induction parts with
  | nil => rfl
  | cons part rest ih =>
    cases rest with
    | nil => simp
    | cons next others =>
      rw [List.intercalate_cons_cons, List.append_assoc, List.singleton_append,
        isExpression_append_cons (by decide), ih]
      rfl

/-! ## Names that are left alone -/

/-- Quoting puts no point into a part of a name. -/
theorem notMem_quoteUnquoted {part : List Char} (h : '.' ∉ part) :
    '.' ∉ manticore.quoteUnquoted part := by
  have hquote : '.' ≠ backQuote := by decide
  rw [quoteUnquoted]
  split <;> simp [manticore, h, hquote]

/-- The parts of a quoted name are the parts of the name, quoted. -/
theorem splitOn_quoteChars {cs : List Char} (h : isExpression cs = false) :
    (manticore.quoteChars cs).splitOn '.' = (cs.splitOn '.').map manticore.quoteUnquoted := by
  rw [quoteChars, if_neg (by simp [h])]
  apply List.splitOn_intercalate
  · intro part hpart
    obtain ⟨given, hgiven, rfl⟩ := List.mem_map.1 hpart
    exact notMem_quoteUnquoted (notMem_of_mem_splitOn hgiven)
  · simp

theorem quoteUnquoted_eq_self_iff {part : List Char} :
    manticore.quoteUnquoted part = part ↔ part = ['*'] ∨ backQuote ∈ part := by
  rw [quoteUnquoted]
  split
  · rename_i halone
    simp [halone]
  · rename_i halone
    simp only [halone, iff_false]
    intro heq
    have hlength := congrArg List.length heq
    simp only [manticore, List.length_cons, List.length_append, List.length_nil] at hlength
    omega

theorem quoteUnquoted_quoteUnquoted (part : List Char) :
    manticore.quoteUnquoted (manticore.quoteUnquoted part) = manticore.quoteUnquoted part := by
  rw [quoteUnquoted_eq_self_iff, quoteUnquoted]
  split
  · assumption
  · right
    simp [manticore]

/-- **The names that are left alone** are the expressions, and those whose parts are stars or have
a back-quote in them. -/
theorem quoteChars_eq_self_iff {cs : List Char} :
    manticore.quoteChars cs = cs ↔
      isExpression cs = true ∨ ∀ part ∈ cs.splitOn '.', part = ['*'] ∨ backQuote ∈ part := by
  cases hexpression : isExpression cs with
  | true => simp [quoteChars_of_isExpression _ hexpression]
  | false =>
    have hparts : manticore.quoteChars cs = cs ↔
        (cs.splitOn '.').map manticore.quoteUnquoted = (cs.splitOn '.').map id := by
      constructor
      · intro heq
        rw [← splitOn_quoteChars hexpression, heq, List.map_id]
      · intro heq
        rw [quoteChars, if_neg (by simp [hexpression]), heq, List.map_id, List.intercalate_splitOn]
    simp only [hparts, List.map_inj_left, id_eq, quoteUnquoted_eq_self_iff, Bool.false_eq_true,
      false_or]

/-- A quoted name is left alone. -/
theorem quoteChars_quoteChars (cs : List Char) :
    manticore.quoteChars (manticore.quoteChars cs) = manticore.quoteChars cs := by
  cases hexpression : isExpression cs with
  | true =>
    have hcs := quoteChars_of_isExpression manticore hexpression
    rw [hcs, hcs]
  | false =>
    refine quoteChars_eq_self_iff.2 (.inr fun part hpart => ?_)
    rw [splitOn_quoteChars hexpression] at hpart
    obtain ⟨given, -, rfl⟩ := List.mem_map.1 hpart
    exact quoteUnquoted_eq_self_iff.1 (quoteUnquoted_quoteUnquoted given)

/-! ## Reading a quoted name -/

/-- The part of a name that is written as a piece of the quoted name: the star stands for itself,
and any other part stands between back-quotes. -/
def partOf? : List Char → Option (List Char)
  | [] => none
  | first :: rest =>
    if first :: rest = ['*'] then some ['*']
    else if first = backQuote ∧ rest.getLast? = some backQuote then some rest.dropLast
    else none

/-- A part is read off the piece that it is written as. -/
theorem partOf?_quoteUnquoted {part : List Char} (h : backQuote ∉ part) :
    partOf? (manticore.quoteUnquoted part) = some part := by
  by_cases hstar : part = ['*']
  · rw [hstar, quoteUnquoted_star]
    rfl
  · have hpiece : manticore.quoteUnquoted part = backQuote :: (part ++ [backQuote]) := by
      rw [quoteUnquoted, if_neg (by simp [hstar, h])]
      rfl
    have hnotStar : backQuote :: (part ++ [backQuote]) ≠ ['*'] := by
      intro heq
      exact absurd (List.cons.inj heq).1 (by decide)
    rw [hpiece, partOf?, if_neg hnotStar, if_pos ⟨rfl, List.getLast?_concat⟩, List.dropLast_concat]

/-- A part of a name: it has no point and no back-quote, and it is no expression. -/
structure IsPart (part : String) : Prop where
  /-- It is not divided into parts itself. -/
  undivided : '.' ∉ part.toList
  /-- It is not quoted. -/
  bare : Bare part
  /-- Nothing opens in it. -/
  plain : isExpression part.toList = false

/-- The pieces of a text that stand between points. -/
def pieces (name : String) : List (List Char) := name.toList.splitOn '.'

theorem toList_joined (parts : List String) :
    (".".intercalate parts).toList = ['.'].intercalate (parts.map String.toList) := by
  rw [String.toList_intercalate]
  rfl

/-- The pieces of a quoted name are its parts, quoted one by one. -/
theorem pieces_quote_joined {parts : List String} (hne : parts ≠ [])
    (hparts : ∀ part ∈ parts, IsPart part) :
    pieces (manticore.quote (".".intercalate parts)) =
      parts.map fun part => manticore.quoteUnquoted part.toList := by
  have hdots : ∀ part ∈ parts.map String.toList, '.' ∉ part := by
    simpa using fun part hpart => (hparts part hpart).undivided
  have hplain : isExpression (['.'].intercalate (parts.map String.toList)) = false := by
    rw [isExpression_intercalate]
    simpa using fun part hpart => (hparts part hpart).plain
  rw [pieces, toList_quote, toList_joined, splitOn_quoteChars hplain,
    List.splitOn_intercalate '.' hdots (by simpa using hne), List.map_map]
  rfl

/-- **Quoted names are left alone and can be read.** Where names stand between back-quotes, quoting
a name a second time changes nothing. If parts without points, back-quotes and expressions are
joined by points, the pieces of the quoted name are as many, and the parts are read off them. The
other dialect leaves all names alone. -/
theorem quote_reversible :
    (∀ name, manticore.quote (manticore.quote name) = manticore.quote name) ∧
      (∀ parts : List String, parts ≠ [] → (∀ part ∈ parts, IsPart part) →
        (pieces (manticore.quote (".".intercalate parts))).map partOf? =
          parts.map fun part => some part.toList) ∧
      ∀ name, sphinx.quote name = name := by
  refine ⟨fun name => ?_, fun parts hne hparts => ?_, quote_sphinx⟩
  · rw [← String.toList_inj, toList_quote, toList_quote, quoteChars_quoteChars]
  · rw [pieces_quote_joined hne hparts, List.map_map]
    exact List.map_congr_left fun part hpart => partOf?_quoteUnquoted (hparts part hpart).bare

theorem quote_reversible_shelfStar :
    let parts := ["db", "my shelf", "", "*"]
    parts ≠ [] ∧ (∀ part ∈ parts, IsPart part) ∧
      (pieces (manticore.quote (".".intercalate parts))).map partOf? =
        parts.map fun part => some part.toList := by
  have hparts : ∀ part ∈ ["db", "my shelf", "", "*"], IsPart part := by
    intro part hpart
    simp only [List.mem_cons, List.not_mem_nil, or_false] at hpart
    rcases hpart with rfl | rfl | rfl | rfl <;> exact ⟨by decide, by decide, by decide⟩
  exact ⟨by decide, hparts, quote_reversible.2.1 _ (by decide) hparts⟩

/-! ## Identifiers in back-quotes -/

/-- A text between back-quotes. -/
def backQuoted (body : String) : String := "\x60" ++ body ++ "\x60"

/-- What stands between the points of a text. -/
def innerParts (body : String) : List (List Char) := (pieces body).tail.dropLast

theorem toList_backQuoted (body : String) :
    (backQuoted body).toList = backQuote :: (body.toList ++ [backQuote]) := by
  simp [backQuoted, backQuote]

/-- Back-quotes make no expression of a text. -/
theorem isExpression_backQuoted (body : String) :
    isExpression (backQuoted body).toList = isExpression body.toList := by
  have hquote : backQuote ∉ ['(', '{', '['] := by decide
  have hfront := isExpression_append_cons hquote [] (body.toList ++ [backQuote])
  rw [toList_backQuoted]
  rw [List.nil_append] at hfront
  rw [hfront, isExpression_append_cons hquote]
  simp [isExpression, hasTwice]

theorem intercalate_append_last {α : Type} (between last behind : List α)
    (parts : List (List α)) :
    between.intercalate (parts ++ [last]) ++ behind =
      between.intercalate (parts ++ [last ++ behind]) := by
  induction parts with
  | nil => simp
  | cons first rest ih =>
    have hne (ending : List α) : rest ++ [ending] ≠ [] := by simp
    rw [List.cons_append, List.cons_append, List.intercalate_cons_of_ne_nil (hne _),
      List.intercalate_cons_of_ne_nil (hne _), List.append_assoc, ih]

/-- The pieces of an identifier in back-quotes: the first one has a back-quote in front, the last
one has one behind it, and those between them stand as they are. -/
theorem pieces_backQuoted (body : String) :
    (pieces (backQuoted body) = [backQuote :: (body.toList ++ [backQuote])] ∧
        innerParts body = []) ∨
      ∃ first last, pieces (backQuoted body) =
        (backQuote :: first) :: (innerParts body ++ [last ++ [backQuote]]) := by
  have hquote : '.' ≠ backQuote := by decide
  have hjoined : ['.'].intercalate (pieces body) = body.toList := List.intercalate_splitOn '.'
  have hdots : ∀ part ∈ pieces body, '.' ∉ part := fun part => notMem_of_mem_splitOn
  rw [innerParts, pieces, toList_backQuoted, ← hjoined]
  cases hparts : pieces body with
  | nil => exact absurd hparts (List.splitOn_ne_nil '.' body.toList)
  | cons first rest =>
    rw [hparts] at hdots
    obtain rfl | ⟨inner, last, rfl⟩ := List.eq_nil_or_concat' rest
    · have hfirst := hdots first (List.mem_singleton_self first)
      left
      simp [List.splitOn_eq_singleton, hquote, hfirst]
    · have hwritten : backQuote :: (['.'].intercalate (first :: (inner ++ [last])) ++ [backQuote]) =
          ['.'].intercalate ((backQuote :: first) :: (inner ++ [last ++ [backQuote]])) := by
        have hbehind := intercalate_append_last ['.'] last [backQuote] (first :: inner)
        rw [List.intercalate_cons_cons_left]
        exact congrArg (backQuote :: ·) hbehind
      right
      refine ⟨first, last, ?_⟩
      rw [hwritten, List.tail_cons, List.dropLast_concat]
      apply List.splitOn_intercalate
      · simp only [List.mem_cons, List.mem_append, List.not_mem_nil, or_false] at hdots ⊢
        rintro part (rfl | hpart | rfl)
        · simpa [hquote] using hdots first (.inl rfl)
        · exact hdots part (.inr (.inl hpart))
        · simpa [hquote] using hdots last (.inr (.inr rfl))
      · exact List.cons_ne_nil _ _

/-- Of the pieces of an identifier in back-quotes only those between its points may be quoted. -/
theorem forall_pieces_backQuoted_iff {body : String} (h : Bare body) :
    (∀ part ∈ pieces (backQuoted body), part = ['*'] ∨ backQuote ∈ part) ↔
      ∀ part ∈ innerParts body, part = ['*'] := by
  have hinner : ∀ part ∈ innerParts body, backQuote ∉ part := by
    intro part hpart hmem
    have hpiece : part ∈ pieces body := List.mem_of_mem_tail (List.mem_of_mem_dropLast hpart)
    exact h ((infix_of_mem_splitOn hpiece).subset hmem)
  have hunquoted : (∀ part ∈ innerParts body, part = ['*'] ∨ backQuote ∈ part) ↔
      ∀ part ∈ innerParts body, part = ['*'] :=
    forall₂_congr fun part hpart => by simp [hinner part hpart]
  rw [← hunquoted]
  obtain ⟨hpieces, hnone⟩ | ⟨first, last, hpieces⟩ := pieces_backQuoted body
  · simp [hpieces, hnone]
  · simp [hpieces, or_imp, forall_and]

/-- **The identifiers in back-quotes that are left alone.** Identifiers between back-quotes that are
joined by points are left alone just when there is an expression among them, or when nothing but
stars stands between two points of any of them; any other part there is quoted once more. -/
theorem quote_backQuoted_iff {bodies : List String} (hne : bodies ≠ [])
    (hbare : ∀ body ∈ bodies, Bare body) :
    manticore.quote (".".intercalate (bodies.map backQuoted)) =
        ".".intercalate (bodies.map backQuoted) ↔
      (∃ body ∈ bodies, isExpression body.toList = true) ∨
        ∀ body ∈ bodies, ∀ part ∈ innerParts body, part = ['*'] := by
  have hexpression : isExpression (".".intercalate (bodies.map backQuoted)).toList = true ↔
      ∃ body ∈ bodies, isExpression body.toList = true := by
    simp [isExpression_intercalate, isExpression_backQuoted]
  have hparts : (∀ part ∈ (".".intercalate (bodies.map backQuoted)).toList.splitOn '.',
      part = ['*'] ∨ backQuote ∈ part) ↔
        ∀ body ∈ bodies, ∀ part ∈ innerParts body, part = ['*'] := by
    rw [toList_joined, splitOn_intercalate_flatMap (by simpa using hne), List.map_map,
      List.flatMap_map, List.forall_mem_flatMap]
    exact forall₂_congr fun body hbody => forall_pieces_backQuoted_iff (hbare body hbody)
  rw [← String.toList_inj, toList_quote, quoteChars_eq_self_iff, hexpression, hparts]

theorem quote_backQuoted_iff_shelf :
    let bodies := ["db", "shelf.1", "a.*.b"]
    bodies ≠ [] ∧ (∀ body ∈ bodies, Bare body) ∧
      (manticore.quote (".".intercalate (bodies.map backQuoted)) =
          ".".intercalate (bodies.map backQuoted) ↔
        (∃ body ∈ bodies, isExpression body.toList = true) ∨
          ∀ body ∈ bodies, ∀ part ∈ innerParts body, part = ['*']) := by
  have hbare : ∀ body ∈ ["db", "shelf.1", "a.*.b"], Bare body := by decide
  exact ⟨by decide, hbare, quote_backQuoted_iff (by decide) hbare⟩

/-- An identifier in back-quotes with two points in it is not left alone. -/
theorem not_quote_backQuoted :
    ¬ ∀ body : String, body ≠ "" → Bare body →
      manticore.quote (backQuoted body) = backQuoted body := by
  intro h
  exact absurd (h "a.b.c" (by decide) (by decide)) (by decide)

end SearchSql.Dialect
