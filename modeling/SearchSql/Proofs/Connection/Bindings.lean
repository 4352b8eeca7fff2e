import SearchSql.Proofs.Connection.Statement
import SearchSql.Proofs.Layout.History

/-!
# What a request overwrites

The parameters of a caller, of a query and of a raw fragment may have any names, also those
that are generated. Then a binding is lost, either the supplied one or the generated one, and
nothing of it is seen in the text.

## Main definitions

* `Connection.run?` — the steps that a request takes with the parameters.

## Main statements

* `Connection.keeps_bindings_iff` — when nothing is overwritten.
* `Connection.not_keeps_bindings` — a supplied value is lost.
-/
namespace SearchSql.Connection

variable (c : Connection)

/-- The steps that a request takes with the parameters. -/
def run? : Request → Option Layout
  | .keywords target text _ params =>
    some (Layout.ofCaller params ++ [.bind target, .bind text])
  | r => (c.statement? r).map fun (params, l) => Layout.ofCaller params ++ l

theorem run?_of_statement? {r : Request} {params : Value} {l : Layout}
    (h : c.statement? r = some (params, l)) : c.run? r = some (Layout.ofCaller params ++ l) := by
  cases r with
  | keywords => exact absurd h nofun
  | _ => simp only [run?, h, Option.map_some]

/-- What is answered with a statement takes steps with the parameters. -/
theorem exists_run?_of_compiled? {r : Request} {k : Compiled} (hk : c.compiled? r = some k) :
    ∃ l, c.run? r = some l := by
  cases hs : c.statement? r with
  | some found => exact ⟨_, c.run?_of_statement? hs⟩
  | none =>
    obtain ⟨target, text, statistics, params, rfl⟩ := c.exists_keywords_of_compiled? hs hk
    exact ⟨_, rfl⟩

/-- A request is answered with the parameters after its steps. -/
theorem params_eq_of_run? {r : Request} {l : Layout} (h : c.run? r = some l) {k : Compiled}
    (hk : c.compiled? r = some k) :
    l.Sound ∧ k.params = (l.paramsAfter c.settings.paramStem .empty).entries := by
  cases hs : c.statement? r with
  | some found =>
    obtain ⟨params, rest⟩ := found
    obtain ⟨hsound, -, hparams, -⟩ := (c.compiled?_eq_some_iff hs).1 hk
    rw [c.run?_of_statement? hs] at h
    obtain rfl := Option.some.inj h
    exact ⟨hsound, hparams⟩
  | none =>
    obtain ⟨target, text, statistics, params, rfl⟩ := c.exists_keywords_of_compiled? hs hk
    obtain ⟨hsound, rfl⟩ := c.compiled?_keywords_eq_some_iff.1 hk
    obtain rfl := Option.some.inj h
    refine ⟨?_, ?_⟩
    · simp [hsound, Piece.isFault]
    · rw [Layout.paramsAfter_append]
      rfl

/-- **When nothing is overwritten.** A request is answered with the parameters after its steps.
Every generated name is a new one, and keeps its value when parameters with their own names come
later, just when no name that was supplied before is the next generated one, and no name that
is supplied later is a generated one with another value. -/
theorem keeps_bindings_iff {r : Request} {l : Layout} (h : c.run? r = some l) :
    (∀ k, c.compiled? r = some k →
        l.Sound ∧ k.params = (l.paramsAfter c.settings.paramStem .empty).entries) ∧
      (l.Throughout c.settings.paramStem (History.Keeps c.settings.paramStem) .start ↔
        l.Throughout c.settings.paramStem (History.Apart c.settings.paramStem) .start) :=
  ⟨fun _ hk => c.params_eq_of_run? h hk, Layout.throughout_keeps_iff History.faithful_start⟩

/-- A condition on a column, with a parameter of its caller. -/
def oneOf (name : String) : Request :=
  .condition (.map [(.text "a", .int 1)]) (.list []) (.map [(.text name, .text "x")])

/-- Nothing is overwritten where the caller has a name of its own. -/
theorem keeps_bindings_iff_oneOf :
    ∃ l, standard.run? (oneOf ":shelf") = some l ∧
      (∀ k, standard.compiled? (oneOf ":shelf") = some k →
        l.Sound ∧ k.params = (l.paramsAfter ":qp" .empty).entries) ∧
      (l.Throughout ":qp" (History.Keeps ":qp") .start ↔
        l.Throughout ":qp" (History.Apart ":qp") .start) :=
  ⟨_, rfl, standard.keeps_bindings_iff rfl⟩

/-- The value of a caller is lost where its name is the next generated one. -/
theorem not_keeps_bindings :
    ∃ l, standard.run? (oneOf ":qp1") = some l ∧
      (standard.compiled? (oneOf ":qp1")).map (·.params) = some [(.text ":qp1", .int 1)] ∧
      ¬ l.Throughout ":qp" (History.Keeps ":qp") .start := by
  refine ⟨[.merge [(.text ":qp1", .text "x")], .text "a=", .bind (.int 1)], rfl, rfl, ?_⟩
  rintro ⟨-, -, hnew, -⟩
  have hname : Params.nextName ":qp" ⟨[(.text ":qp1", .text "x")]⟩ = ":qp1" := by decide
  refine hnew ?_
  change .text (Params.nextName ":qp" ⟨[(.text ":qp1", .text "x")]⟩) ∈ [Value.text ":qp1"]
  rw [hname]
  exact List.mem_singleton_self _

end SearchSql.Connection
