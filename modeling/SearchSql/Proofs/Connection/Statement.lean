import SearchSql.Connection.Request
import SearchSql.Proofs.Layout.Writing

/-!
# The statements that requests are answered with

All requests for a statement but one are answered in the same way: a layout is written
behind the parameters of the caller. The call for keywords is written by itself.

## Main definitions

* `Connection.compiled?` — the statement that a request is answered with.
* `Connection.statement?` — the parameters of the caller and the layout behind them.

## Main statements

* `Connection.compiled?_eq_compile` — a request with a layout is answered by writing it.
* `Connection.compiled?_eq_some_iff` — what is written, and when.
-/
namespace SearchSql

/-- The statement in an answer. -/
def Answer.compiled? : Answer → Option Compiled
  | .statement compiled => some compiled
  | .selection compiled _ => some compiled
  | _ => none

/-- The parameters of a caller are not written. -/
theorem Layout.charsAt_ofCaller (stem : String) (params : Value) (p : Params) :
    (ofCaller params).charsAt stem p = [] := by
  rw [ofCaller]
  repeat' split
  all_goals rfl

namespace Connection

variable (c : Connection)

/-- The statement that a request is answered with, if it succeeds. -/
def compiled? (r : Request) : Option Compiled := (c.answer r).toOption.bind Answer.compiled?

/-- The layout of a condition by itself, for the columns of some indexes. -/
def conditionLayout (tree names : Value) : Layout :=
  match names.elements? with
  | some names => (Condition.ofValue tree).layout c (c.known (names.filterMap Value.text?))
  | none => [.fault (.misuse .kind)]

/-- What a request writes: the parameters of its caller, and a layout behind them. -/
def statement? : Request → Option (Value × Layout)
  | .build query params => (Query.ofValue query).toOption.map fun q => (params, c.queryLayout q)
  | .condition tree names params => some (params, c.conditionLayout tree names)
  | .store how target cells params => some (params, Layout.ofStore c how target cells)
  | .batch how target names rows params => some (params, Layout.ofBatch c how target names rows)
  | .update target cells tree params options =>
    some (params, Layout.ofUpdate c target cells tree options)
  | .delete target tree params => some (params, Layout.ofDelete c target tree)
  | .truncate target => some (.null, Layout.ofTruncate c target)
  | .snippets target source query options params =>
    some (params, Layout.ofSnippets target source query options)
  | _ => none

/-- A request with a layout is answered by writing it. -/
theorem compiled?_eq_compile {r : Request} {params : Value} {l : Layout}
    (h : c.statement? r = some (params, l)) :
    c.compiled? r = (c.compile params l).toOption := by
  cases r with
  | build query given =>
    cases hq : Query.ofValue query with
    | error f => simp [statement?, hq, Except.toOption] at h
    | ok q =>
      simp only [statement?, hq, Except.toOption, Option.map_some, Option.some.injEq,
        Prod.mk.injEq] at h
      obtain ⟨rfl, rfl⟩ := h
      simp only [compiled?, answer, hq, Connection.build]
      change ((do return Answer.selection (← c.compile given (c.queryLayout q)) _ :
        Checked Answer)).toOption.bind _ = _
      cases c.compile given (c.queryLayout q) <;> rfl
  | condition tree names given =>
    simp only [statement?, Option.some.injEq, Prod.mk.injEq] at h
    obtain ⟨rfl, rfl⟩ := h
    change ((do return Answer.statement (← c.compile given (c.conditionLayout tree names)) :
      Checked Answer)).toOption.bind _ = _
    cases c.compile given (c.conditionLayout tree names) <;> rfl
  | store | batch | update | delete | truncate | snippets =>
    simp only [statement?, Option.some.injEq, Prod.mk.injEq] at h
    obtain ⟨rfl, rfl⟩ := h
    simp only [compiled?, answer]
    generalize c.compile _ _ = written
    cases written <;> rfl
  | _ => simp [statement?] at h

/-- An answer that is no statement has none in it, whether the work for it succeeds or not. -/
theorem compiled?_of_answer {α : Type} (found : Checked α) {f : α → Answer}
    (h : ∀ a, (f a).compiled? = none) :
    ((do return f (← found) : Checked Answer)).toOption.bind Answer.compiled? = none := by
  cases found with
  | error e => rfl
  | ok a => exact h a

/-- A statement without a layout is the call for keywords. -/
theorem exists_keywords_of_compiled? {r : Request} {k : Compiled} (h : c.statement? r = none)
    (hk : c.compiled? r = some k) :
    ∃ target text statistics params, r = .keywords target text statistics params := by
  cases r with
  | keywords target text statistics params => exact ⟨target, text, statistics, params, rfl⟩
  | build query params =>
    cases hq : Query.ofValue query with
    | error f => simp [compiled?, answer, hq, bind, Except.bind, Except.toOption] at hk
    | ok q => simp [statement?, hq, Except.toOption] at h
  | condition | store | batch | update | delete | truncate | snippets => simp [statement?] at h
  | columns v => exact absurd ((compiled?_of_answer _ fun _ => rfl).symm.trans hk) nofun
  | order v => exact absurd ((compiled?_of_answer _ fun _ => rfl).symm.trans hk) nofun
  | window limit offset => exact absurd ((compiled?_of_answer _ fun _ => rfl).symm.trans hk) nofun
  | orderAndWindow sql terms limit offset =>
    exact absurd ((compiled?_of_answer _ fun _ => rfl).symm.trans hk) nofun
  | escapeMatch text => cases text <;> exact absurd hk nofun
  | quote name => exact absurd ((compiled?_of_answer _ fun _ => rfl).symm.trans hk) nofun
  | index | lastInsertId => exact absurd hk nofun

/-- The call for keywords binds the index and then the text, behind the parameters of the
caller. -/
theorem compiled?_keywords_eq_some_iff {target text statistics params : Value} {k : Compiled} :
    c.compiled? (.keywords target text statistics params) = some k ↔
      (Layout.ofCaller params).Sound ∧
        let stem := c.settings.paramStem
        let start := (Layout.ofCaller params).paramsAfter stem .empty
        k = ⟨Layout.keywordsText ((start.bind stem target).nextName stem) (start.nextName stem)
          statistics.truthy, ((start.bind stem target).bind stem text).entries,
          c.dialect.name⟩ := by
  have hkeywords : c.compiled? (.keywords target text statistics params) =
      (c.keywords target text statistics.truthy params).toOption := by
    simp only [compiled?, answer]
    cases c.keywords target text statistics.truthy params <;> rfl
  have hrender (s : String) (p : Params) :=
    Layout.render_eq_ok_iff c.settings.paramStem (l := Layout.ofCaller params) (p := .empty)
      (q := p) (s := s)
  rw [hkeywords]
  constructor
  · intro h
    cases hwritten : (Layout.ofCaller params).render c.settings.paramStem .empty with
    | error f => simp [keywords, hwritten, bind, Except.bind, Except.toOption] at h
    | ok found =>
      obtain ⟨s, p⟩ := found
      obtain ⟨hsound, -, rfl⟩ := (hrender s p).1 hwritten
      simp only [keywords, hwritten, bind, Except.bind, pure, Except.pure, Except.toOption,
        Option.some.injEq] at h
      exact ⟨hsound, h.symm⟩
  · rintro ⟨hsound, rfl⟩
    have hwritten := (hrender (String.ofList _) _).2 ⟨hsound, String.toList_ofList, rfl⟩
    simp [keywords, hwritten, bind, Except.bind, pure, Except.pure, Except.toOption]

/-- What is written behind the parameters of a caller, and when. -/
theorem compile_eq_ok_iff {params : Value} {l : Layout} {k : Compiled} :
    c.compile params l = .ok k ↔
      (Layout.ofCaller params ++ l).Sound ∧
      k.sql.toList = (Layout.ofCaller params ++ l).charsAt c.settings.paramStem .empty ∧
      k.params =
        ((Layout.ofCaller params ++ l).paramsAfter c.settings.paramStem .empty).entries ∧
      k.dialect = c.dialect.name := by
  have hrender (s : String) (p : Params) :=
    Layout.render_eq_ok_iff c.settings.paramStem (l := Layout.ofCaller params ++ l)
      (p := .empty) (q := p) (s := s)
  constructor
  · intro h
    cases hwritten : (Layout.ofCaller params ++ l).render c.settings.paramStem .empty with
    | error f => simp [compile, hwritten, bind, Except.bind] at h
    | ok found =>
      obtain ⟨s, p⟩ := found
      simp only [compile, hwritten, bind, Except.bind, pure, Except.pure, Except.ok.injEq] at h
      obtain ⟨hsound, hs, hp⟩ := (hrender s p).1 hwritten
      subst h hp
      exact ⟨hsound, hs, rfl, rfl⟩
  · rintro ⟨hsound, hsql, hparams, hdialect⟩
    obtain ⟨sql, params', dialect⟩ := k
    have hwritten := (hrender sql _).2 ⟨hsound, hsql, rfl⟩
    simp only at hparams hdialect
    simp [compile, hwritten, bind, Except.bind, pure, Except.pure, hparams, hdialect]

theorem exists_compile_of_sound {params : Value} {l : Layout}
    (h : (Layout.ofCaller params ++ l).Sound) : ∃ k, c.compile params l = .ok k :=
  ⟨⟨String.ofList _, _, _⟩, c.compile_eq_ok_iff.2 ⟨h, String.toList_ofList, rfl, rfl⟩⟩

theorem toOption_compile_of_not_sound {params : Value} {l : Layout}
    (h : ¬ (Layout.ofCaller params ++ l).Sound) : (c.compile params l).toOption = none := by
  cases hk : c.compile params l with
  | error f => rfl
  | ok k => exact absurd (c.compile_eq_ok_iff.1 hk).1 h

/-- What a request with a layout is answered with, and when. -/
theorem compiled?_eq_some_iff {r : Request} {params : Value} {l : Layout} {k : Compiled}
    (h : c.statement? r = some (params, l)) :
    c.compiled? r = some k ↔
      (Layout.ofCaller params ++ l).Sound ∧
      k.sql.toList = (Layout.ofCaller params ++ l).charsAt c.settings.paramStem .empty ∧
      k.params =
        ((Layout.ofCaller params ++ l).paramsAfter c.settings.paramStem .empty).entries ∧
      k.dialect = c.dialect.name := by
  rw [← compile_eq_ok_iff, compiled?_eq_compile c h]
  cases c.compile params l <;> simp [Except.toOption]

end Connection

end SearchSql
