import SearchSql.Proofs.Grammar.Reader
import SearchSql.Selection.Basic

/-!
# How texts are put together to conditions

What is read of a text depends only on its parts: a predicate and a condition in parentheses are
operands, operands are connected by AND, and those by OR. Each rule says how a text of the
grammar is read and when the condition that is read holds.

## Main definitions

* `Grammar.IsPredicate` — texts of predicates.
* `Grammar.IsFactor`, `Grammar.IsTerm`, `Grammar.IsCondition` — texts that are read as an
  operand, as operands of AND, and as operands of OR.

## Main statements

* `Grammar.IsPredicate.factor`, `Grammar.IsCondition.parenthesized`,
  `Grammar.IsCondition.denied` — operands.
* `Grammar.IsFactor.and`, `Grammar.IsTerm.or` — two parts that are connected.
* `Grammar.isCondition_intercalate`, `Grammar.isCondition_connected` — any number of parts.
* `Grammar.IsCondition.eval_parse` — the whole text.
-/
namespace SearchSql

/-- Whether what a connective combines holds. -/
def Connective.value : Connective → List Bool → Bool
  | .and, values => values.all id
  | .or, values => values.any id

namespace Grammar

/-- A text of a predicate: it begins with a part of a predicate and does not end before its end. -/
def IsPredicate (cs : List Char) : Prop :=
  ∃ front t rest, lex cs = front ++ t :: rest ∧ (∀ b ∈ front, b.kind = .blank) ∧
    t.kind = .ordinary ∧ Extent.closed.run rest = some .closed

variable (assumed : List Char → Bool)

/-- A text that is read as an operand. -/
def IsFactor (cs : List Char) (value : Bool) : Prop :=
  ∀ disjunct conjunct outer, ∃ l e,
    Reader.run (lex cs) ⟨⟨disjunct, conjunct, false, .missing⟩, outer⟩ = some ⟨l, outer⟩ ∧
      l.disjunct = disjunct ∧ l.conjunct = conjunct ∧ l.factor? = some e ∧
      e.eval assumed = value

/-- A text that is read as operands of AND. -/
def IsTerm (cs : List Char) (value : Bool) : Prop :=
  ∀ disjunct conjunct outer, ∃ l e,
    Reader.run (lex cs) ⟨⟨disjunct, conjunct, false, .missing⟩, outer⟩ = some ⟨l, outer⟩ ∧
      l.disjunct = disjunct ∧ l.factor? = some e ∧
      (l.term e).eval assumed = (conjunct.all (Expr.eval assumed) && value)

/-- A text that is read as operands of OR. -/
def IsCondition (cs : List Char) (value : Bool) : Prop :=
  ∀ disjunct outer, ∃ l e,
    Reader.run (lex cs) ⟨⟨disjunct, none, false, .missing⟩, outer⟩ = some ⟨l, outer⟩ ∧
      l.factor? = some e ∧
      (l.condition e).eval assumed = (disjunct.any (Expr.eval assumed) || value)

variable {assumed}

theorem Level.eval_term (l : Level) (e : Expr) :
    (l.term e).eval assumed = (l.conjunct.all (Expr.eval assumed) && e.eval assumed) := by
  rw [term]
  cases l.conjunct <;> rfl

theorem Level.eval_condition (l : Level) (e : Expr) :
    (l.condition e).eval assumed =
      (l.disjunct.any (Expr.eval assumed) || (l.term e).eval assumed) := by
  rw [condition]
  cases l.disjunct <;> rfl

/-! ## Operands -/

/-- A text of a predicate is an operand; the predicate is known by its text without blanks around
it. -/
theorem IsPredicate.factor {cs : List Char} (h : IsPredicate cs) :
    IsFactor assumed cs (holds assumed (Text.trimChars Text.isBlank cs)) := by
  intro disjunct conjunct outer
  obtain ⟨front, t, rest, hlex, hfront, ht, hrest⟩ := h
  have hblanks := Reader.run_blanks hfront
    (r := ⟨⟨disjunct, conjunct, false, .missing⟩, outer⟩) rfl
  have hfirst : Reader.step ⟨⟨disjunct, conjunct, false, .missing⟩, outer⟩ t =
      some ⟨⟨disjunct, conjunct, false, .predicate [t] .closed⟩, outer⟩ := by
    simp only [Reader.step, ht]
  have hlater := Extent.run_reader hrest
    ⟨⟨disjunct, conjunct, false, .predicate [t] .closed⟩, outer⟩ [t] rfl
  -- the blanks in front are no part of the predicate
  have hspell : Text.trimChars Text.isBlank (spell ([t] ++ rest)) =
      Text.trimChars Text.isBlank cs := by
    have hspace : ∀ c ∈ spell front, Text.isBlank c = true := by
      intro c hc
      obtain ⟨b, hb, hc⟩ := List.mem_flatMap.1 hc
      exact isBlank_of_kind_eq_blank (hfront b hb) c hc
    have hcs : cs = spell front ++ spell ([t] ++ rest) := by
      rw [← spell_append, List.singleton_append, ← hlex, spell_lex]
    rw [hcs, Text.trimChars_append_left _ hspace]
  refine ⟨⟨disjunct, conjunct, false, .predicate ([t] ++ rest) .closed⟩,
    .predicate (Text.trimChars Text.isBlank cs), ?_, rfl, rfl, ?_, rfl⟩
  · rw [hlex, Reader.run_append, hblanks]
    simp only [Option.bind_some, Reader.run_cons, hfirst]
    exact hlater
  · simp [Level.factor?, Operand.expr?, ← hspell]

/-- A condition up to the parenthesis that closes it. -/
theorem IsCondition.run_closing {cs : List Char} {value : Bool} (h : IsCondition assumed cs value)
    (l : Level) (outer : List Level) :
    ∃ e, Reader.run (lex cs ++ [.mark ')']) ⟨.start, l :: outer⟩ =
        some ⟨{ l with operand := .group e }, outer⟩ ∧ e.eval assumed = value := by
  obtain ⟨inner, e, hrun, hfactor, heval⟩ := h none (l :: outer)
  refine ⟨inner.condition e, ?_, by simpa using heval⟩
  have hfinish := Reader.step_eq_finish (r := ⟨inner, l :: outer⟩) hfactor
    (t := .mark ')') (by decide) (by decide)
  have hkind : (Token.mark ')').kind = .closing := by decide
  have hstart : Reader.run (lex cs) ⟨.start, l :: outer⟩ = some ⟨inner, l :: outer⟩ := hrun
  rw [Reader.run_append, hstart, Option.bind_some, Reader.run_cons, hfinish]
  simp only [Reader.finish, hkind, hfactor]
  rfl

/-- A condition in parentheses is an operand. -/
theorem IsCondition.parenthesized {cs : List Char} {value : Bool}
    (h : IsCondition assumed cs value) :
    IsFactor assumed ("(".toList ++ (cs ++ ")".toList)) value := by
  intro disjunct conjunct outer
  obtain ⟨e, hrun, heval⟩ := h.run_closing ⟨disjunct, conjunct, false, .missing⟩ outer
  have hlex : lex ("(".toList ++ (cs ++ ")".toList)) = .mark '(' :: (lex cs ++ [.mark ')']) := by
    rw [lex_append_right (by decide), lex_append_left (by decide)]
    rfl
  have hopening : (Token.mark '(').kind = .opening := by decide
  refine ⟨⟨disjunct, conjunct, false, .group e⟩, e, ?_, rfl, rfl, rfl, heval⟩
  rw [hlex, Reader.run_cons]
  simp only [Reader.step, hopening, Option.bind_some]
  exact hrun

/-- A condition in parentheses that is denied is an operand. -/
theorem IsCondition.denied {cs : List Char} {value : Bool} (h : IsCondition assumed cs value) :
    IsFactor assumed ("NOT (".toList ++ (cs ++ ")".toList)) (!value) := by
  intro disjunct conjunct outer
  obtain ⟨e, hrun, heval⟩ := h.run_closing ⟨disjunct, conjunct, true, .missing⟩ outer
  have hlex : lex ("NOT (".toList ++ (cs ++ ")".toList)) =
      .word ['N', 'O', 'T'] :: .mark ' ' :: .mark '(' :: (lex cs ++ [.mark ')']) := by
    have hend : lex (cs ++ ")".toList) = lex cs ++ lex ")".toList := lex_append_left (by decide) cs
    have hbetween : separates " (".toList := by decide
    have hseam := lex_seam hbetween "NOT".toList (cs ++ ")".toList)
    rw [hend] at hseam
    exact hseam
  have hword : (Token.word ['N', 'O', 'T']).kind = .negation := by decide
  have hblank : (Token.mark ' ').kind = .blank := by decide
  have hopening : (Token.mark '(').kind = .opening := by decide
  refine ⟨⟨disjunct, conjunct, true, .group e⟩, .negation e, ?_, rfl, rfl, rfl, ?_⟩
  · rw [hlex]
    simp only [Reader.run_cons, Reader.step, hword, hblank, hopening, Option.bind_some,
      Bool.not_false]
    exact hrun
  · rw [Expr.eval, heval]

/-! ## Operands that are connected -/

/-- An operand is a term. -/
theorem IsFactor.term {cs : List Char} {value : Bool} (h : IsFactor assumed cs value) :
    IsTerm assumed cs value := by
  intro disjunct conjunct outer
  obtain ⟨l, e, hrun, hdisjunct, hconjunct, hfactor, heval⟩ := h disjunct conjunct outer
  refine ⟨l, e, hrun, hdisjunct, hfactor, ?_⟩
  rw [Level.eval_term, hconjunct, heval]

/-- A term is a condition. -/
theorem IsTerm.condition {cs : List Char} {value : Bool} (h : IsTerm assumed cs value) :
    IsCondition assumed cs value := by
  intro disjunct outer
  obtain ⟨l, e, hrun, hdisjunct, hfactor, heval⟩ := h disjunct none outer
  refine ⟨l, e, hrun, hfactor, ?_⟩
  rw [Level.eval_condition, hdisjunct, heval]
  rfl

/-- An operand and a term with AND between them are a term. -/
theorem IsFactor.and {cs ds : List Char} {x y : Bool} (hcs : IsFactor assumed cs x)
    (hds : IsTerm assumed ds y) : IsTerm assumed (cs ++ (" AND ".toList ++ ds)) (x && y) := by
  intro disjunct conjunct outer
  obtain ⟨l, e, hrun, rfl, rfl, hfactor, heval⟩ := hcs disjunct conjunct outer
  have hblank : (Token.mark ' ').kind = .blank := by decide
  have hword : (Token.word ['A', 'N', 'D']).kind = .conjunction := by decide
  have hconnect := Reader.run_connective (r := ⟨l, outer⟩) hfactor hblank hblank rfl
    (Or.inl ⟨hword, rfl⟩)
  obtain ⟨m, f, hrest, hdisjunct, hfactor', heval'⟩ := hds l.disjunct (some (l.term e)) outer
  refine ⟨m, f, ?_, hdisjunct, hfactor', ?_⟩
  · rw [lex_seam (by decide), Reader.run_append, hrun, Option.bind_some, Reader.run_append]
    exact (congrArg (Option.bind · _) hconnect).trans hrest
  · rw [heval', Option.all_some, Level.eval_term, heval, Bool.and_assoc]

/-- A term and a condition with OR between them are a condition. -/
theorem IsTerm.or {cs ds : List Char} {x y : Bool} (hcs : IsTerm assumed cs x)
    (hds : IsCondition assumed ds y) :
    IsCondition assumed (cs ++ (" OR ".toList ++ ds)) (x || y) := by
  intro disjunct outer
  obtain ⟨l, e, hrun, rfl, hfactor, heval⟩ := hcs disjunct none outer
  have hblank : (Token.mark ' ').kind = .blank := by decide
  have hword : (Token.word ['O', 'R']).kind = .disjunction := by decide
  have hconnect := Reader.run_connective (r := ⟨l, outer⟩) hfactor hblank hblank rfl
    (Or.inr ⟨hword, rfl⟩)
  obtain ⟨m, f, hrest, hfactor', heval'⟩ := hds (some (l.condition e)) outer
  refine ⟨m, f, ?_, hfactor', ?_⟩
  · rw [lex_seam (by decide), Reader.run_append, hrun, Option.bind_some, Reader.run_append]
    exact (congrArg (Option.bind · _) hconnect).trans hrest
  · rw [heval', Option.any_some, Level.eval_condition, heval, Bool.or_assoc]
    rfl

/-! ## Any number of parts -/

theorem isTerm_intercalate {texts : List (List Char)} {values : List Bool}
    (h : List.Forall₂ (IsFactor assumed) texts values) (hne : texts ≠ []) :
    IsTerm assumed (" AND ".toList.intercalate texts) (values.all id) := by
  induction h with
  | nil => exact absurd rfl hne
  | @cons text value texts values hfirst hrest ih =>
    cases hrest with
    | nil => simpa [List.intercalate_singleton] using hfirst.term
    | cons hsecond hothers =>
      have hterm := hfirst.and (ih nofun)
      rw [List.intercalate_cons_cons, List.append_assoc]
      simpa using hterm

/-- Operands with a connective between them. -/
theorem isCondition_intercalate (connective : Connective) {texts : List (List Char)}
    {values : List Bool} (h : List.Forall₂ (IsFactor assumed) texts values) (hne : texts ≠ []) :
    IsCondition assumed ((" " ++ connective.word ++ " ").toList.intercalate texts)
      (connective.value values) := by
  cases connective with
  | and => exact (isTerm_intercalate h hne).condition
  | or =>
    have hword : " " ++ Connective.or.word ++ " " = " OR " := rfl
    rw [hword]
    induction h with
    | nil => exact absurd rfl hne
    | @cons text value texts values hfirst hrest ih =>
      cases hrest with
      | nil => simpa [List.intercalate_singleton, Connective.value] using hfirst.term.condition
      | cons hsecond hothers =>
        have hcondition := hfirst.term.or (ih nofun)
        rw [List.intercalate_cons_cons, List.append_assoc]
        simpa [Connective.value] using hcondition

/-- Parentheses that stand around texts and between them stand around each of them. -/
theorem intercalate_parenthesized (word : String) {texts : List (List Char)} (hne : texts ≠ []) :
    "(".toList ++ ((") " ++ word ++ " (").toList.intercalate texts ++ ")".toList) =
      (" " ++ word ++ " ").toList.intercalate
        (texts.map fun text => "(".toList ++ (text ++ ")".toList)) := by
  induction texts with
  | nil => exact absurd rfl hne
  | cons text texts ih =>
    cases texts with
    | nil => simp [List.intercalate_singleton]
    | cons next others =>
      have hothers := ih nofun
      rw [List.map_cons] at hothers ⊢
      rw [List.intercalate_cons_cons, List.map_cons, List.intercalate_cons_cons, ← hothers]
      simp [List.append_assoc]

/-- **Conditions in parentheses with a connective between them.** -/
theorem isCondition_connected (connective : Connective) {texts : List (List Char)}
    {values : List Bool} (h : List.Forall₂ (IsCondition assumed) texts values)
    (hne : texts ≠ []) :
    IsCondition assumed
      ("(".toList ++ ((") " ++ connective.word ++ " (").toList.intercalate texts ++ ")".toList))
      (connective.value values) := by
  have hfactors : List.Forall₂ (IsFactor assumed)
      (texts.map fun text => "(".toList ++ (text ++ ")".toList)) values := by
    rw [List.forall₂_map_left_iff]
    exact h.imp fun _ _ hcondition => hcondition.parenthesized
  rw [intercalate_parenthesized connective.word hne]
  exact isCondition_intercalate connective hfactors (by simpa using hne)

/-- **What is read of a text holds just when the text was put together to hold.** -/
theorem IsCondition.eval_parse {cs : List Char} {value : Bool}
    (h : IsCondition assumed cs value) : (parse cs).map (Expr.eval assumed) = some value := by
  obtain ⟨l, e, hrun, hfactor, heval⟩ := h none []
  have hstart : Reader.start.run (lex cs) = some ⟨l, []⟩ := hrun
  simp only [parse, hstart, hfactor, Option.map_some, heval]
  rfl

end Grammar

end SearchSql
