import Mathlib
import SearchSql.Connection.Session
import SearchSql.Proofs.Layout.Writing

/-!
# Steps of a session do not influence each other

A session remembers its connection, the registered dialects and the indexes that its last
query searched. Nothing of the last is seen in an answer. The connection is the one that the
latest successful connect made, with the dialects as they were registered by then: what is
registered later does not change it, and a connect that fails leaves it in place.

## Main definitions

* `Session.after`, `Registry.after` — a session, and the registered dialects, after some steps.
* `Session.Opens` — the steps up to the latest successful connect, and the connection it made.
* `Session.searched` — what the latest query that can be read leaves on a new connection.

## Main statements

* `Session.remembers_after` — what a session remembers of its steps.
* `Session.answers_as_new` — every step is answered as on a new connection.
-/
namespace SearchSql

/-- The registered dialects after a step. -/
def Registry.next (registry : Registry) : Step → Registry
  | .register name dialect => registry.register name dialect
  | _ => registry

/-- The registered dialects after some steps. -/
def Registry.after (steps : List Step) : Registry := steps.foldl Registry.next .standard

theorem Registry.after_snoc (steps : List Step) (step : Step) :
    Registry.after (steps ++ [step]) = (Registry.after steps).next step := by
  simp [Registry.after]

/-- Whether a step asks for the statement of a query that can be read. -/
def Step.readsQuery : Step → Bool
  | .request (.build query _) => (Query.ofValue query).toOption.isSome
  | _ => false

namespace Connection

/-- A connection has the dialect that was asked for, and can be made again with it. -/
theorem ofEndpoint_given {registry : Registry} {endpoint : Endpoint} {c : Connection}
    (h : ofEndpoint registry endpoint = .ok c) (registry' : Registry) :
    ofEndpoint registry' { endpoint with target := .given c.dialect } = .ok c := by
  simp only [ofEndpoint, bind, Except.bind] at h ⊢
  cases hsnapshot : Snapshot.ofOption endpoint.snapshot with
  | error f => simp [hsnapshot] at h
  | ok snapshot =>
    cases hsettings : Settings.ofOption endpoint.settings with
    | error f => simp [hsnapshot, hsettings] at h
    | ok settings =>
      cases hdialect : registry.resolve endpoint.target with
      | error f => simp [hsnapshot, hsettings, hdialect] at h
      | ok dialect =>
        simp only [hsnapshot, hsettings, hdialect, pure, Except.pure, Except.ok.injEq] at h
        subst h
        rfl

/-- What a query that cannot be written leaves is what it meets before the fault. -/
theorem entities_of_build_eq_error {c : Connection} {q : Query} {params : Value} {f : Fault}
    (h : c.build q params = .error f) :
    ∃ front behind : Layout,
      Layout.ofCaller params ++ c.queryLayout q = front ++ .fault f :: behind ∧
      front.Sound ∧ c.entities q params = front.indexes := by
  have hrender : (Layout.ofCaller params ++ c.queryLayout q).render c.settings.paramStem .empty =
      .error f := by
    cases hwritten : (Layout.ofCaller params ++ c.queryLayout q).render c.settings.paramStem
        .empty with
    | error g => simpa [build, compile, hwritten, bind, Except.bind] using h
    | ok found => simp [build, compile, hwritten, bind, Except.bind, pure, Except.pure] at h
  obtain ⟨front, behind, heq, hfront⟩ := Layout.exists_fault_of_render_eq_error hrender
  refine ⟨front, behind, heq, hfront, ?_⟩
  rw [entities, heq, Layout.indexes_append_fault hfront]

end Connection

namespace Session

/-- A session after some steps. -/
def after (s : Session) (steps : List Step) : Session :=
  steps.foldl (fun s step => (s.step step).2) s

/-- A session on a new connection, on which no query has been asked for. -/
def new (registry : Registry) (c : Connection) : Session := ⟨registry, c, []⟩

/-- The steps up to the latest successful connect, the endpoint that is connected to and the
connection that is made. -/
inductive Opens (first : Endpoint) : List Step → Endpoint → Connection → Prop where
  /-- The session starts with a connection. -/
  | start {c : Connection} (h : Connection.ofEndpoint .standard first = .ok c) :
    Opens first [] first c
  /-- A connection takes the place of another one. -/
  | connect {before : List Step} {endpoint : Endpoint} {c : Connection}
    (h : Connection.ofEndpoint (.after before) endpoint = .ok c) :
    Opens first (before ++ [.connect endpoint]) endpoint c

/-- Behind some steps no connect among others succeeds. -/
def NoneConnects (opening since : List Step) : Prop :=
  ∀ front endpoint back, since = front ++ .connect endpoint :: back →
    ∃ f, Connection.ofEndpoint (.after (opening ++ front)) endpoint = .error f

/-- The indexes that the latest query among some steps leaves on a new connection; none if
no query can be read. -/
def searched (registry : Registry) (c : Connection) (steps : List Step) : List String :=
  match steps.reverse.find? Step.readsQuery with
  | some step => ((new registry c).step step).2.entities
  | none => []

theorem noneConnects_nil (opening : List Step) : NoneConnects opening [] := by
  intro front endpoint back h
  simp at h

/-- One step more, which is no connect that succeeds. -/
theorem NoneConnects.snoc {opening since : List Step} (h : NoneConnects opening since)
    {step : Step} (hstep : ∀ endpoint, step = .connect endpoint →
      ∃ f, Connection.ofEndpoint (.after (opening ++ since)) endpoint = .error f) :
    NoneConnects opening (since ++ [step]) := by
  intro front endpoint back heq
  rcases List.eq_nil_or_concat back with rfl | ⟨back, last, rfl⟩
  · obtain ⟨rfl, hlast⟩ := List.append_inj' heq rfl
    exact hstep endpoint (List.singleton_inj.1 hlast)
  · rw [List.concat_eq_append, ← List.cons_append, ← List.append_assoc] at heq
    exact h front endpoint back (List.append_inj' heq rfl).1

@[simp] theorem after_snoc (s : Session) (steps : List Step) (step : Step) :
    s.after (steps ++ [step]) = ((s.after steps).step step).2 := by
  simp [after]

/-- A step is answered from the dialects and the connection alone. -/
theorem step_fst_eq_new (s : Session) (step : Step) :
    (s.step step).1 = ((new s.registry s.connection).step step).1 := by
  cases step with
  | connect endpoint =>
    simp only [Session.step, new]
    cases Connection.ofEndpoint s.registry endpoint <;> rfl
  | _ => rfl

/-- A step changes the registered dialects as far as it registers one. -/
theorem step_registry (s : Session) (step : Step) :
    (s.step step).2.registry = s.registry.next step := by
  cases step with
  | connect endpoint =>
    simp only [Session.step]
    cases Connection.ofEndpoint s.registry endpoint <;> rfl
  | _ => rfl

/-- A step that is no connect that succeeds leaves the connection as it is, and the indexes as
well unless it asks for a query that can be read. That one is answered as on a new
connection, whatever is remembered. -/
theorem step_of_not_opening {s : Session} {step : Step} (h : ∀ endpoint, step = .connect endpoint →
      ∃ f, Connection.ofEndpoint s.registry endpoint = .error f) :
    (s.step step).2.connection = s.connection ∧
      (s.step step).2.entities = if step.readsQuery then
        ((new s.registry s.connection).step step).2.entities else s.entities := by
  cases step with
  | request r =>
    cases r with
    | build query params =>
      cases hread : Query.ofValue query <;>
        simp [Session.step, entitiesAfter, Step.readsQuery, Except.toOption, new, hread]
    | _ => exact ⟨rfl, rfl⟩
  | connect endpoint =>
    obtain ⟨f, hf⟩ := h endpoint rfl
    simp [Session.step, Step.readsQuery, hf]
  | _ => exact ⟨rfl, rfl⟩

@[simp] theorem searched_nil (registry : Registry) (c : Connection) :
    searched registry c [] = [] := rfl

theorem searched_snoc (registry : Registry) (c : Connection) (since : List Step) (step : Step) :
    searched registry c (since ++ [step]) = if step.readsQuery then
      ((new registry c).step step).2.entities else searched registry c since := by
  cases h : step.readsQuery <;> simp [searched, h]

/-- Which dialects are registered makes no difference for what a query leaves. -/
theorem entities_step_new (registry registry' : Registry) (c : Connection) (step : Step) :
    step.readsQuery = true →
      ((new registry c).step step).2.entities = ((new registry' c).step step).2.entities := by
  cases step with
  | request r => exact fun _ => rfl
  | _ => exact fun h => absurd h (by simp [Step.readsQuery])

theorem searched_congr (registry registry' : Registry) (c : Connection) (since : List Step) :
    searched registry c since = searched registry' c since := by
  cases h : since.reverse.find? Step.readsQuery with
  | none => simp [searched, h]
  | some step =>
    simpa [searched, h] using entities_step_new registry registry' c step (List.find?_some h)

/-- What a session remembers of its steps. -/
structure Remembers (first : Endpoint) (steps : List Step) (s : Session) : Prop where
  registry_eq : s.registry = .after steps
  exists_opening : ∃ opening since endpoint, steps = opening ++ since ∧
    Opens first opening endpoint s.connection ∧ NoneConnects opening since ∧
    s.entities = searched s.registry s.connection since

/-- A session remembers where it starts. -/
theorem remembers_start {first : Endpoint} {s : Session} (h : start first = .ok s) :
    Remembers first [] s := by
  simp only [start, bind, Except.bind] at h
  cases hc : Connection.ofEndpoint .standard first with
  | error f => simp [hc] at h
  | ok c =>
    simp only [hc, pure, Except.pure, Except.ok.injEq] at h
    subst h
    exact ⟨rfl, [], [], first, rfl, .start hc, noneConnects_nil [], rfl⟩

/-- What a session remembers is kept up with one step more. -/
theorem Remembers.step {first : Endpoint} {steps : List Step} {s : Session}
    (h : Remembers first steps s) (step : Step) :
    Remembers first (steps ++ [step]) (s.step step).2 := by
  have hregistry : (s.step step).2.registry = .after (steps ++ [step]) := by
    rw [step_registry, h.registry_eq, Registry.after_snoc]
  refine ⟨hregistry, ?_⟩
  by_cases hopens : ∀ endpoint, step = .connect endpoint →
      ∃ f, Connection.ofEndpoint s.registry endpoint = .error f
  · obtain ⟨opening, since, endpoint, rfl, hopening, hsince, hentities⟩ := h.exists_opening
    obtain ⟨hconnection, hleft⟩ := step_of_not_opening hopens
    rw [h.registry_eq] at hopens
    refine ⟨opening, since ++ [step], endpoint, List.append_assoc .., ?_, hsince.snoc hopens, ?_⟩
    · rwa [hconnection]
    · rw [hleft, hconnection, searched_congr _ s.registry, searched_snoc, hentities]
  · -- the connection is new, and nothing has been asked on it
    push Not at hopens
    obtain ⟨endpoint, rfl, hnot⟩ := hopens
    cases hc : Connection.ofEndpoint s.registry endpoint with
    | error f => exact absurd hc (hnot f)
    | ok c =>
      have hmade := hc
      rw [h.registry_eq] at hmade
      refine ⟨steps ++ [.connect endpoint], [], endpoint, (List.append_nil _).symm, ?_,
        noneConnects_nil _, ?_⟩
      · simpa [Session.step, hc] using Opens.connect hmade
      · simp [Session.step, hc]

/-- **What a session remembers** after any steps. -/
theorem remembers_after {first : Endpoint} {s₀ : Session} (h : start first = .ok s₀)
    (steps : List Step) : Remembers first steps (s₀.after steps) := by
  induction steps using List.reverseRecOn with
  | nil => exact remembers_start h
  | append_singleton steps step ih =>
    rw [after_snoc]
    exact ih.step step

/-- The endpoint of a connection makes it again, with the dialect that was found then. -/
theorem Opens.remake {first : Endpoint} {opening : List Step} {endpoint : Endpoint}
    {c : Connection} (h : Opens first opening endpoint c) (registry : Registry) :
    Connection.ofEndpoint registry { endpoint with target := .given c.dialect } = .ok c := by
  cases h with
  | start h => exact Connection.ofEndpoint_given h registry
  | connect h => exact Connection.ofEndpoint_given h registry

/-- A session after some steps, beside one on a new connection. -/
structure IsAsNew (first : Endpoint) (steps : List Step) (s : Session) (opening since : List Step)
    (endpoint : Endpoint) (c : Connection) : Prop where
  /-- The latest connect that succeeds ends the opening. -/
  steps_eq : steps = opening ++ since
  opens : Opens first opening endpoint c
  noneConnects : NoneConnects opening since
  /-- The connection can be made again, whatever has been registered in between. -/
  remake : Connection.ofEndpoint (.after steps) { endpoint with target := .given c.dialect } = .ok c
  /-- Every step is answered as on the new connection. -/
  answer_eq : ∀ step, (s.step step).1 = ((new (.after steps) c).step step).1
  /-- The indexes are those that the latest query leaves on the new connection. -/
  entities_eq : s.entities = searched (.after steps) c since
  /-- A query that cannot be written leaves there what it meets before the fault. -/
  entities_of_fault : ∀ query q params f, Query.ofValue query = .ok q →
    c.build q params = .error f → ∃ front behind : Layout,
      Layout.ofCaller params ++ c.queryLayout q = front ++ .fault f :: behind ∧ front.Sound ∧
        ((new (.after steps) c).step (.request (.build query params))).2.entities = front.indexes

/-- **The steps of a session do not influence each other.** After any steps, whether they
succeeded or not, a session answers as one on a new connection, made of the description of the
indexes, the description of the settings and the dialect that the latest successful connect
found. It remembers the indexes that the latest query behind that connect leaves there, and none
if no query could be read. -/
theorem answers_as_new {first : Endpoint} {s₀ : Session} (h : start first = .ok s₀)
    (steps : List Step) :
    ∃ opening since endpoint c, IsAsNew first steps (s₀.after steps) opening since endpoint c := by
  obtain ⟨hregistry, opening, since, endpoint, heq, hopening, hsince, hentities⟩ :=
    remembers_after h steps
  refine ⟨opening, since, endpoint, _, heq, hopening, hsince, hopening.remake _, ?_, ?_, ?_⟩
  · intro step
    rw [step_fst_eq_new, hregistry]
  · rw [hentities, hregistry]
  · intro query q params f hread hf
    obtain ⟨front, behind, hlayout, hfront, hbefore⟩ := Connection.entities_of_build_eq_error hf
    refine ⟨front, behind, hlayout, hfront, ?_⟩
    simpa [Session.step, entitiesAfter, new, hread] using hbefore

/-- A connection of which only the name of the dialect is given. -/
def shelf : Endpoint := ⟨none, none, .registered "sphinx"⟩

/-- A query that is written, another dialect under the name of the first, a connect that fails,
and a query that fails in a nested one, after its own indexes. -/
def shelfSteps : List Step := [
  .request (.build (.query { Clauses.empty with source := .positional [.text "books"] }) .null),
  .register "sphinx" .manticore,
  .connect ⟨none, none, .registered "other"⟩,
  .request (.build (.query { Clauses.empty with
    source := .positional [.text "authors",
      .query { Clauses.empty with joins := [.text "books"] }] }) .null)]

theorem answers_as_new_shelf :
    ∃ s₀, start shelf = .ok s₀ ∧ (s₀.after shelfSteps).entities = ["authors"] ∧
      ∃ opening since endpoint c,
        IsAsNew shelf shelfSteps (s₀.after shelfSteps) opening since endpoint c :=
  ⟨⟨.standard, .standard, []⟩, rfl, rfl, answers_as_new rfl shelfSteps⟩

end Session
end SearchSql
