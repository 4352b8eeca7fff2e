import SearchSql.Proofs.Grammar.Tokens

/-!
# Reading a condition

A condition is read token by token, without knowing how it was written. NOT binds its operand
closer than AND, and AND closer than OR; parentheses open a level of their own. A predicate
goes on until one of these ends it: inside of its own parentheses nothing does, and the first
AND after a BETWEEN belongs to it.

## Main definitions

* `Grammar.Expr`, `Grammar.Expr.eval` — conditions over predicates, and when they hold.
* `Grammar.Reader`, `Grammar.Reader.step` — what has been read so far, and one token more.
* `Grammar.parse` — the condition that a text is.

## Main statements

* `Grammar.Extent.run_reader` — a predicate is read to its end.
* `Grammar.Reader.run_connective` — AND and OR end an operand.
-/
namespace SearchSql.Grammar

/-- A condition over predicates, which are given by their texts. -/
inductive Expr where
  /-- A predicate. -/
  | predicate (text : List Char)
  /-- A condition that is denied. -/
  | negation (e : Expr)
  /-- Both conditions hold. -/
  | conjunction (e f : Expr)
  /-- One of the conditions holds. -/
  | disjunction (e f : Expr)
  deriving DecidableEq, Repr

/-- Whether a predicate holds. That 0 equals 1 does not, the rest is assumed. -/
def holds (assumed : List Char → Bool) (text : List Char) : Bool :=
  if text = ['0', '=', '1'] then false else assumed text

/-- Whether a condition holds. -/
def Expr.eval (assumed : List Char → Bool) : Expr → Bool
  | .predicate text => holds assumed text
  | .negation e => !e.eval assumed
  | .conjunction e f => e.eval assumed && f.eval assumed
  | .disjunction e f => e.eval assumed || f.eval assumed

/-- How far a predicate goes. -/
structure Extent where
  /-- How many of its parentheses are open. -/
  depth : Nat
  /-- Whether a BETWEEN has no AND yet. -/
  isRange : Bool
  deriving DecidableEq, Repr

/-- A predicate that may end. -/
def Extent.closed : Extent := ⟨0, false⟩

/-- A predicate with one token more, unless the token ends it. -/
def Extent.step (x : Extent) (t : Token) : Option Extent :=
  match t.kind, x with
  | .opening, ⟨depth, isRange⟩ => some ⟨depth + 1, isRange⟩
  | .closing, ⟨0, _⟩ => none
  | .closing, ⟨depth + 1, isRange⟩ => some ⟨depth, isRange⟩
  | .range, ⟨0, _⟩ => some ⟨0, true⟩
  | .conjunction, ⟨0, true⟩ => some ⟨0, false⟩
  | .conjunction, ⟨0, false⟩ => none
  | .disjunction, ⟨0, _⟩ => none
  | _, x => some x

/-- The operand that is being read. -/
inductive Operand where
  /-- Nothing of it has been read. -/
  | missing
  /-- Some tokens of a predicate have been read. -/
  | predicate (seen : List Token) (extent : Extent)
  /-- A condition in parentheses has been read. -/
  | group (e : Expr)

/-- The condition that an operand is. -/
def Operand.expr? : Operand → Option Expr
  | .missing => none
  | .predicate seen extent =>
    if extent = .closed then some (.predicate (Text.trimChars Text.isBlank (spell seen))) else none
  | .group e => some e

/-- What has been read since a parenthesis opened. -/
structure Level where
  /-- What stands before the last OR. -/
  disjunct : Option Expr
  /-- What stands between that and the last AND. -/
  conjunct : Option Expr
  /-- Whether the operand is denied. -/
  negated : Bool
  /-- The operand that is being read. -/
  operand : Operand

namespace Level

/-- Nothing has been read. -/
def start : Level := ⟨none, none, false, .missing⟩

/-- The operand, which may be denied. -/
def factor? (l : Level) : Option Expr :=
  l.operand.expr?.map fun e => if l.negated then .negation e else e

/-- An operand with what an AND connects it to. -/
def term (l : Level) (e : Expr) : Expr :=
  match l.conjunct with
  | none => e
  | some left => .conjunction left e

/-- An operand with what an AND or an OR connects it to. -/
def condition (l : Level) (e : Expr) : Expr :=
  match l.disjunct with
  | none => l.term e
  | some left => .disjunction left (l.term e)

end Level

/-- What has been read: the level that is being read, and the levels around it. -/
structure Reader where
  /-- The level that is being read. -/
  level : Level
  /-- The levels around it, the closest first. -/
  outer : List Level

namespace Reader

/-- Nothing has been read. -/
def start : Reader := ⟨.start, []⟩

/-- A token ends the operand. -/
def finish (r : Reader) (t : Token) : Option Reader :=
  match t.kind, r.level.factor?, r.outer with
  | .conjunction, some e, _ =>
    some { r with level := ⟨r.level.disjunct, some (r.level.term e), false, .missing⟩ }
  | .disjunction, some e, _ =>
    some { r with level := ⟨some (r.level.condition e), none, false, .missing⟩ }
  | .closing, some e, l :: outer => some ⟨{ l with operand := .group (r.level.condition e) }, outer⟩
  | _, _, _ => none

/-- One token is read. -/
def step (r : Reader) (t : Token) : Option Reader :=
  match r.level.operand, t.kind with
  | .missing, .blank => some r
  | .missing, .opening => some ⟨.start, r.level :: r.outer⟩
  | .missing, .negation => some { r with level.negated := !r.level.negated }
  | .missing, .ordinary => some { r with level.operand := .predicate [t] .closed }
  | .missing, _ => none
  | .predicate seen extent, _ =>
    match extent.step t with
    | some further => some { r with level.operand := .predicate (seen ++ [t]) further }
    | none => r.finish t
  | .group _, .blank => some r
  | .group _, _ => r.finish t

/-- Tokens are read one after the other. -/
def run : List Token → Reader → Option Reader
  | [], r => some r
  | t :: tokens, r => (r.step t).bind (run tokens)

end Reader

/-- The condition that a text is. -/
def parse (cs : List Char) : Option Expr :=
  match Reader.start.run (lex cs) with
  | some ⟨l, []⟩ => l.factor?.map l.condition
  | _ => none

/-! ## Steps -/

namespace Reader

@[simp] theorem run_nil (r : Reader) : r.run [] = some r := rfl

@[simp] theorem run_cons (t : Token) (tokens : List Token) (r : Reader) :
    r.run (t :: tokens) = (r.step t).bind (run tokens) := rfl

/-- What comes later is read from where the reading has come to. -/
theorem run_append (front back : List Token) (r : Reader) :
    r.run (front ++ back) = (r.run front).bind (run back) := by
  induction front generalizing r with
  | nil => rfl
  | cons t front ih =>
    rw [List.cons_append, run_cons, run_cons, Option.bind_assoc]
    exact Option.bind_congr fun s _ => ih s

/-- Blanks in front of an operand are passed over. -/
theorem run_blanks {tokens : List Token} (h : ∀ t ∈ tokens, t.kind = .blank) {r : Reader}
    (hr : r.level.operand = .missing) : r.run tokens = some r := by
  induction tokens with
  | nil => rfl
  | cons t tokens ih =>
    obtain ⟨ht, hrest⟩ := List.forall_mem_cons.1 h
    have hstep : r.step t = some r := by
      rw [step, hr, ht]
    rw [run_cons, hstep]
    exact ih hrest

end Reader

/-- The tokens of a predicate, read one after the other. -/
def Extent.run : List Token → Extent → Option Extent
  | [], x => some x
  | t :: tokens, x => (x.step t).bind (run tokens)

namespace Extent

@[simp] theorem run_nil (x : Extent) : x.run [] = some x := rfl

@[simp] theorem run_cons (t : Token) (tokens : List Token) (x : Extent) :
    x.run (t :: tokens) = (x.step t).bind (run tokens) := rfl

theorem run_append (front back : List Token) (x : Extent) :
    x.run (front ++ back) = (x.run front).bind (run back) := by
  induction front generalizing x with
  | nil => rfl
  | cons t front ih =>
    rw [List.cons_append, run_cons, run_cons, Option.bind_assoc]
    exact Option.bind_congr fun y _ => ih y

/-- Tokens that do not end a predicate are put to it. -/
theorem run_reader {tokens : List Token} {x y : Extent} (h : x.run tokens = some y)
    (r : Reader) (seen : List Token) (hr : r.level.operand = .predicate seen x) :
    r.run tokens = some { r with level.operand := .predicate (seen ++ tokens) y } := by
  induction tokens generalizing x r seen with
  | nil =>
    obtain rfl := Option.some.inj h
    obtain ⟨⟨disjunct, conjunct, negated, operand⟩, outer⟩ := r
    obtain rfl : operand = _ := hr
    simp
  | cons t tokens ih =>
    obtain ⟨further, hstep, hrest⟩ := Option.bind_eq_some_iff.1 h
    have hread : r.step t =
        some { r with level.operand := .predicate (seen ++ [t]) further } := by
      rw [Reader.step, hr]
      simp only [hstep]
    rw [Reader.run_cons, hread]
    have hlater := ih hrest { r with level.operand := .predicate (seen ++ [t]) further } _ rfl
    simpa using hlater

end Extent

/-! ## The end of an operand -/

/-- A predicate that is an operand may end. -/
theorem Level.extent_eq_closed {disjunct conjunct : Option Expr} {negated : Bool}
    {seen : List Token} {extent : Extent} {e : Expr}
    (h : (⟨disjunct, conjunct, negated, .predicate seen extent⟩ : Level).factor? = some e) :
    extent = .closed := by
  by_contra hne
  simp [factor?, Operand.expr?, hne] at h

namespace Reader

variable {r : Reader} {e : Expr}

/-- A token that can be no part of an operand ends it. -/
theorem step_eq_finish (h : r.level.factor? = some e) {t : Token} (hblank : t.kind ≠ .blank)
    (ht : Extent.closed.step t = none) : r.step t = r.finish t := by
  obtain ⟨⟨disjunct, conjunct, negated, operand⟩, outer⟩ := r
  cases operand with
  | missing => simp [Level.factor?, Operand.expr?] at h
  | predicate seen extent =>
    obtain rfl := Level.extent_eq_closed h
    simp only [step, ht]
  | group g => simp only [step]

/-- A blank behind an operand changes nothing of it. -/
theorem step_blank (h : r.level.factor? = some e) {t : Token} (ht : t.kind = .blank) :
    ∃ operand, r.step t = some { r with level.operand := operand } ∧
      ({ r.level with operand := operand } : Level).factor? = some e := by
  obtain ⟨⟨disjunct, conjunct, negated, operand⟩, outer⟩ := r
  cases operand with
  | missing => simp [Level.factor?, Operand.expr?] at h
  | predicate seen extent =>
    obtain rfl := Level.extent_eq_closed h
    have hextent : Extent.closed.step t = some .closed := by
      simp [Extent.step, ht]
    refine ⟨.predicate (seen ++ [t]) .closed, by simp only [step, hextent], ?_⟩
    -- the blank is trimmed off
    rw [← h]
    simp [Level.factor?, Operand.expr?, Text.trimChars_append_right _ (isBlank_of_kind_eq_blank ht)]
  | group g => exact ⟨.group g, by simp [step, ht], h⟩

/-- A connective with blanks around it ends an operand, and another one is to be read. -/
theorem run_connective (h : r.level.factor? = some e) {before after t : Token}
    (hbefore : before.kind = .blank) (hafter : after.kind = .blank)
    {l : Level} (hl : l.operand = .missing)
    (ht : t.kind = .conjunction ∧ l = ⟨r.level.disjunct, some (r.level.term e), false, .missing⟩ ∨
      t.kind = .disjunction ∧ l = ⟨some (r.level.condition e), none, false, .missing⟩) :
    r.run [before, t, after] = some { r with level := l } := by
  obtain ⟨operand, hstep, hoperand⟩ := step_blank h hbefore
  have hend : Extent.closed.step t = none := by
    rcases ht with ⟨ht, -⟩ | ⟨ht, -⟩ <;> simp [Extent.step, Extent.closed, ht]
  have hkind : t.kind ≠ .blank := by
    rcases ht with ⟨ht, -⟩ | ⟨ht, -⟩ <;> simp [ht]
  have hfinish := step_eq_finish (r := { r with level.operand := operand }) hoperand hkind hend
  have hnext : ({ r with level.operand := operand } : Reader).finish t =
      some { r with level := l } := by
    rcases ht with ⟨ht, rfl⟩ | ⟨ht, rfl⟩
    · simp only [finish, ht, hoperand]
      rfl
    · simp only [finish, ht, hoperand]
      rfl
  have hlast : ({ r with level := l } : Reader).step after = some { r with level := l } := by
    simp only [step, hl, hafter]
  simp only [run_cons, hstep, Option.bind_some, hfinish, hnext, hlast, run_nil]

end Reader

end SearchSql.Grammar
