import SearchSql.Proofs.Grammar.Rules

/-!
# Conditions that are read by themselves

A text that is a condition by itself is read as the same condition after an OR and inside of
parentheses: nothing in it looks at what has been read before. The reading inside is the
reading by itself, on top of other levels and with a disjunct more on its lowest one.

## Main definitions

* `Grammar.Seated` — one reader above other levels, and one by itself.

## Main statements

* `Grammar.Seated.run` — both readers read on in the same way.
* `Grammar.isCondition_of_parse` — a condition by itself is a condition anywhere.
-/
namespace SearchSql.Grammar

variable {assumed : List Char → Bool}

variable (assumed) in
/-- A level, and the same level with a disjunct more before its own. -/
structure Widened (disjunct : Option Expr) (l wide : Level) : Prop where
  conjunct_eq : wide.conjunct = l.conjunct
  negated_eq : wide.negated = l.negated
  operand_eq : wide.operand = l.operand
  eval_disjunct : wide.disjunct.any (Expr.eval assumed) =
    (disjunct.any (Expr.eval assumed) || l.disjunct.any (Expr.eval assumed))

variable (assumed) in
/-- A reader by itself, and the same one above other levels: the lowest level of the first stands
widened on the others. -/
inductive Seated (disjunct : Option Expr) (outer : List Level) : Reader → Reader → Prop where
  /-- The lowest level is being read. -/
  | lowest {l wide : Level} (h : Widened assumed disjunct l wide) :
    Seated disjunct outer ⟨l, []⟩ ⟨wide, outer⟩
  /-- A level inside of parentheses is being read. -/
  | inner (inside : Level) (levels : List Level) {l wide : Level}
    (h : Widened assumed disjunct l wide) :
    Seated disjunct outer ⟨inside, levels ++ [l]⟩ ⟨inside, levels ++ wide :: outer⟩

namespace Widened

variable {disjunct : Option Expr} {l wide : Level}

theorem factor?_eq (h : Widened assumed disjunct l wide) : wide.factor? = l.factor? := by
  rw [Level.factor?, Level.factor?, h.operand_eq, h.negated_eq]

theorem term_eq (h : Widened assumed disjunct l wide) (e : Expr) : wide.term e = l.term e := by
  rw [Level.term, Level.term, h.conjunct_eq]

theorem eval_condition (h : Widened assumed disjunct l wide) (e : Expr) :
    (wide.condition e).eval assumed =
      (disjunct.any (Expr.eval assumed) || (l.condition e).eval assumed) := by
  rw [Level.eval_condition, Level.eval_condition, h.eval_disjunct, h.term_eq, Bool.or_assoc]

/-- The operand of a level may be another one. -/
theorem withOperand (h : Widened assumed disjunct l wide) (operand : Operand) :
    Widened assumed disjunct { l with operand := operand } { wide with operand := operand } where
  conjunct_eq := h.conjunct_eq
  negated_eq := h.negated_eq
  operand_eq := rfl
  eval_disjunct := h.eval_disjunct

end Widened

namespace Seated

variable {disjunct : Option Expr} {outer : List Level} {r s r' : Reader}

/-- The level that is being read is the same but for its disjunct. -/
theorem level (h : Seated assumed disjunct outer r s) :
    s.level.operand = r.level.operand ∧ s.level.negated = r.level.negated ∧
      s.level.factor? = r.level.factor? := by
  cases h with
  | lowest h => exact ⟨h.operand_eq, h.negated_eq, h.factor?_eq⟩
  | inner inside levels h => exact ⟨rfl, rfl, rfl⟩

/-- The operand that is being read may be another one. -/
theorem withOperand (h : Seated assumed disjunct outer r s) (operand : Operand) :
    Seated assumed disjunct outer { r with level.operand := operand }
      { s with level.operand := operand } := by
  cases h with
  | lowest h => exact .lowest (h.withOperand operand)
  | inner inside levels h => exact .inner _ levels h

/-- The operand that is being read may be denied. -/
theorem withNegation (h : Seated assumed disjunct outer r s) (negated : Bool) :
    Seated assumed disjunct outer { r with level.negated := negated }
      { s with level.negated := negated } := by
  cases h with
  | lowest h => exact .lowest ⟨h.conjunct_eq, rfl, h.operand_eq, h.eval_disjunct⟩
  | inner inside levels h => exact .inner _ levels h

/-- A parenthesis opens. -/
theorem opening (h : Seated assumed disjunct outer r s) :
    Seated assumed disjunct outer ⟨.start, r.level :: r.outer⟩ ⟨.start, s.level :: s.outer⟩ := by
  cases h with
  | lowest h => exact .inner .start [] h
  | inner inside levels h => exact .inner .start (inside :: levels) h

/-- A token that ends an operand ends it in both. -/
theorem finish (h : Seated assumed disjunct outer r s) {t : Token} (hr : r.finish t = some r') :
    ∃ s', s.finish t = some s' ∧ Seated assumed disjunct outer r' s' := by
  obtain ⟨-, -, hfactor⟩ := h.level
  unfold Reader.finish at hr ⊢
  rw [hfactor]
  cases he : r.level.factor? with
  | none =>
    rw [he] at hr
    cases t.kind <;> simp at hr
  | some e =>
    rw [he] at hr
    cases ht : t.kind with
    | conjunction =>
      rw [ht] at hr
      obtain rfl := Option.some.inj hr
      refine ⟨_, rfl, ?_⟩
      cases h with
      | lowest h => exact .lowest ⟨congrArg some (h.term_eq e), rfl, rfl, h.eval_disjunct⟩
      | inner inside levels h => exact .inner _ levels h
    | disjunction =>
      rw [ht] at hr
      obtain rfl := Option.some.inj hr
      refine ⟨_, rfl, ?_⟩
      cases h with
      | lowest h => exact .lowest ⟨rfl, rfl, rfl, h.eval_condition e⟩
      | inner inside levels h => exact .inner _ levels h
    | closing =>
      rw [ht] at hr
      cases h with
      | lowest h => simp at hr
      | inner inside levels h =>
        cases levels with
        | nil =>
          obtain rfl := Option.some.inj hr
          exact ⟨_, rfl, .lowest (h.withOperand _)⟩
        | cons first levels =>
          obtain rfl := Option.some.inj hr
          exact ⟨_, rfl, .inner _ levels h⟩
    | _ =>
      rw [ht] at hr
      simp at hr

/-- One token is read in both. -/
theorem step (h : Seated assumed disjunct outer r s) {t : Token} (hr : r.step t = some r') :
    ∃ s', s.step t = some s' ∧ Seated assumed disjunct outer r' s' := by
  obtain ⟨hoperand, hnegated, -⟩ := h.level
  unfold Reader.step at hr ⊢
  rw [hoperand, hnegated]
  cases hread : r.level.operand with
  | missing =>
    rw [hread] at hr
    cases ht : t.kind with
    | blank =>
      simp only [ht, Option.some.injEq] at hr
      exact ⟨s, rfl, hr ▸ h⟩
    | opening =>
      simp only [ht, Option.some.injEq] at hr
      exact ⟨_, rfl, hr ▸ h.opening⟩
    | negation =>
      simp only [ht, Option.some.injEq] at hr
      exact ⟨_, rfl, hr ▸ h.withNegation _⟩
    | ordinary =>
      simp only [ht, Option.some.injEq] at hr
      exact ⟨_, rfl, hr ▸ h.withOperand _⟩
    | _ => simp [ht] at hr
  | predicate seen extent =>
    rw [hread] at hr
    cases hfurther : extent.step t with
    | none =>
      simp only [hfurther] at hr ⊢
      exact h.finish hr
    | some further =>
      simp only [hfurther, Option.some.injEq] at hr ⊢
      exact ⟨_, rfl, hr ▸ h.withOperand _⟩
  | group e =>
    rw [hread] at hr
    cases ht : t.kind with
    | blank =>
      simp only [ht, Option.some.injEq] at hr
      exact ⟨s, rfl, hr ▸ h⟩
    | _ =>
      simp only [ht] at hr
      exact h.finish hr

/-- **Both readers read on in the same way.** -/
theorem run (h : Seated assumed disjunct outer r s) {tokens : List Token}
    (hr : r.run tokens = some r') :
    ∃ s', s.run tokens = some s' ∧ Seated assumed disjunct outer r' s' := by
  induction tokens generalizing r s with
  | nil =>
    obtain rfl := Option.some.inj hr
    exact ⟨s, rfl, h⟩
  | cons t tokens ih =>
    obtain ⟨next, hstep, hrest⟩ := Option.bind_eq_some_iff.1 hr
    obtain ⟨next', hstep', hseated⟩ := h.step hstep
    obtain ⟨s', hrun, hlast⟩ := ih hseated hrest
    exact ⟨s', by rw [Reader.run_cons, hstep', Option.bind_some, hrun], hlast⟩

end Seated

/-- **A condition by itself is a condition anywhere.** -/
theorem isCondition_of_parse {cs : List Char} {e : Expr} (h : parse cs = some e) :
    IsCondition assumed cs (e.eval assumed) := by
  intro disjunct outer
  unfold parse at h
  split at h
  · rename_i l hrun
    obtain ⟨f, hf, rfl⟩ := Option.map_eq_some_iff.1 h
    have hstart : Seated assumed disjunct outer Reader.start
        ⟨⟨disjunct, none, false, .missing⟩, outer⟩ :=
      .lowest ⟨rfl, rfl, rfl, by simp [Level.start]⟩
    obtain ⟨s, hs, hseated⟩ := hstart.run hrun
    generalize hr : (⟨l, []⟩ : Reader) = r at hseated
    cases hseated with
    | @lowest l' wide hwide =>
      obtain rfl : l = l' := congrArg Reader.level hr
      exact ⟨wide, f, hs, hwide.factor?_eq.trans hf, hwide.eval_condition f⟩
    | inner inside levels hwide => simp at hr
  · cases h

end SearchSql.Grammar
