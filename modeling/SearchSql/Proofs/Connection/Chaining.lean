import SearchSql.Proofs.Connection.Bindings
import SearchSql.Proofs.Params.Merging

/-!
# Results as parameters of later calls

A call may be given the parameters of earlier results, also put together with each other and
with parameters of other names. What is given then has its numbers below its size, though the
numbers need be neither consecutive nor all there. This is kept by every step of a run, whatever is
put in on the way; so the next name is always a new one, and the result may be given to a later
call in its turn.

## Main definitions

* `Layout.TakesNumbered`, `Layout.NamesAnew` — what is put in during a run, and what follows.
* `Call.Union` — earlier results and parameters with other names, put together.
* `Call.Chained` — calls that are given earlier results.

## Main statements

* `Layout.namesAnew` — a run takes a new name for every value.
* `Call.namesAnew_of_chained` — so does every call of a chain.
-/
namespace SearchSql

namespace Layout

variable (stem : String)

/-- Mappings that are put in have their numbers below their sizes. -/
def TakesNumbered (l : Layout) : Prop :=
  ∀ params ∈ l.merges, Params.WellNumbered stem ⟨Mapping.ofPairs params⟩

/-- A run in which every value gets a new name. -/
structure NamesAnew (l : Layout) (p : Params) : Prop where
  /-- After each step the numbers in use are below the number of parameters. -/
  wellNumbered : ∀ front behind : Layout, l = front ++ behind →
    (front.paramsAfter stem p).WellNumbered stem
  /-- No value is bound under a name that is bound already. -/
  nextName_notMem : ∀ (front : Layout) (v : Value) (behind : Layout),
    l = front ++ .bind v :: behind →
    .text ((front.paramsAfter stem p).nextName stem) ∉ (front.paramsAfter stem p).names
  /-- No two values are bound under one name. -/
  nodup_numbers : ((l.numbers stem p).map (Params.numbered stem)).Nodup

variable {stem}

theorem TakesNumbered.tail {piece : Piece} {l : Layout} (h : TakesNumbered stem (piece :: l)) :
    l.TakesNumbered stem := by
  intro params hparams
  exact h params (((List.sublist_cons_self piece l).filterMap Piece.merge?).subset hparams)

/-- A step keeps the numbers in use below the number of parameters. -/
theorem TakesNumbered.wellNumbered_after {piece : Piece} {l : Layout}
    (h : TakesNumbered stem (piece :: l)) {p : Params} (hp : p.WellNumbered stem) :
    (p.after stem piece).WellNumbered stem := by
  cases piece with
  | bind v => exact hp.bind v
  | merge params => exact hp.merge_of_wellNumbered (h params (by simp [merges, Piece.merge?]))
  | text | indexes | fault => exact hp

/-- So does a run. -/
theorem TakesNumbered.wellNumbered_paramsAfter {l : Layout} (h : l.TakesNumbered stem)
    {p : Params} (hp : p.WellNumbered stem) : (l.paramsAfter stem p).WellNumbered stem := by
  induction l generalizing p with
  | nil => exact hp
  | cons piece l ih => exact ih h.tail (h.wellNumbered_after hp)

theorem TakesNumbered.left {l r : Layout} (h : TakesNumbered stem (l ++ r)) :
    l.TakesNumbered stem := by
  intro params hparams
  refine h params ?_
  rw [merges_append]
  exact List.mem_append_left _ hparams

/-- **Every value gets a new name** in a run that takes in nothing but mappings whose numbers are
below their sizes. -/
theorem namesAnew {l : Layout} (h : l.TakesNumbered stem) {p : Params}
    (hp : p.WellNumbered stem) : l.NamesAnew stem p := by
  have hnumbered (front behind : Layout) (heq : l = front ++ behind) :
      (front.paramsAfter stem p).WellNumbered stem := by
    subst heq
    exact h.left.wellNumbered_paramsAfter hp
  refine ⟨hnumbered, fun front v behind heq => (hnumbered _ _ heq).nextName_notMem, ?_⟩
  exact ((pairwise_numbers_of_wellNumbered hnumbered).imp Nat.ne_of_lt).map _
    fun _ _ hne heq => hne (Params.numbered_injective stem heq)

end Layout

/-- A call to a connection. -/
structure Call where
  /-- The connection. -/
  connection : Connection
  /-- What is asked of it. -/
  request : Request

namespace Call

/-- The steps that a call takes with the parameters. -/
def run? (call : Call) : Option Layout := call.connection.run? call.request

/-- The statement that a call is answered with, if it succeeds. -/
def result? (call : Call) : Option Compiled := call.connection.compiled? call.request

/-- The parameters of the statements that some calls are answered with. -/
def results (calls : List Call) : List Mapping :=
  calls.filterMap fun call => call.result?.map Compiled.params

variable (stem : String)

/-- Earlier results and mappings without numbered names, put together in any way. -/
inductive Union (earlier : List Mapping) : Mapping → Prop where
  /-- The parameters of an earlier result. -/
  | result {m : Mapping} (h : m ∈ earlier) : Union earlier m
  /-- Parameters with other names. -/
  | free {m : Mapping} (h : ∀ n, .text (Params.numbered stem n) ∉ m.keys) :
    Union earlier (Mapping.ofPairs m)
  /-- One put into the other. -/
  | union {m m' : Mapping} (h : Union earlier m) (h' : Union earlier m') :
    Union earlier (m.merge m')

/-- Calls on one stem. Whatever a call puts in, as parameters of its caller, of its query, of a
fragment or of a nested query, is a union of what the calls before it are answered with. -/
def Chained (calls : List Call) : Prop :=
  ∀ front call behind, calls = front ++ call :: behind →
    call.connection.settings.paramStem = stem ∧
      ∀ l, call.run? = some l → ∀ params ∈ l.merges,
        Union stem (results front) (Mapping.ofPairs params)

/-- A mapping whose numbers are below its size, without repeated keys. -/
def IsNumbered (m : Mapping) : Prop := m.IsDict ∧ Params.WellNumbered stem ⟨m⟩

variable {stem}

/-- What is put together of numbered mappings is numbered. -/
theorem Union.isNumbered {earlier : List Mapping} (hearlier : ∀ m ∈ earlier, IsNumbered stem m)
    {m : Mapping} (h : Union stem earlier m) : IsNumbered stem m := by
  induction h with
  | result h => exact hearlier _ h
  | free h =>
    refine ⟨Mapping.isDict_nil.merge _, fun n hn => ?_⟩
    exact absurd (Mapping.text_mem_keys_ofPairs_iff.1 hn) (h n)
  | @union m m' _ _ ihm ihm' =>
    refine ⟨ihm.1.merge m', ihm.2.merge_of_wellNumbered (p := ⟨m⟩) ?_⟩
    rw [Mapping.ofPairs_of_isDict ihm'.1]
    exact ihm'.2

theorem takesNumbered_of_union {earlier : List Mapping}
    (hearlier : ∀ m ∈ earlier, IsNumbered stem m) {l : Layout}
    (h : ∀ params ∈ l.merges, Union stem earlier (Mapping.ofPairs params)) :
    l.TakesNumbered stem :=
  fun params hparams => ((h params hparams).isNumbered hearlier).2

theorem isDict_paramsAfter {l : Layout} {p : Params} (h : p.entries.IsDict) :
    (l.paramsAfter stem p).entries.IsDict := by
  induction l generalizing p with
  | nil => exact h
  | cons piece l ih =>
    refine ih ?_
    cases piece with
    | bind v => exact h.insert _ v
    | merge params => exact h.merge params
    | text | indexes | fault => exact h

/-- The result of a call that is given unions of numbered mappings is numbered. -/
theorem isNumbered_result {call : Call} (hstem : call.connection.settings.paramStem = stem)
    (h : ∀ l, call.run? = some l → l.TakesNumbered stem) {k : Compiled}
    (hk : call.result? = some k) : IsNumbered stem k.params := by
  obtain ⟨l, hl⟩ := call.connection.exists_run?_of_compiled? hk
  obtain ⟨-, hparams⟩ := call.connection.params_eq_of_run? hl hk
  rw [hparams, hstem]
  exact ⟨isDict_paramsAfter Mapping.isDict_nil,
    (h l hl).wellNumbered_paramsAfter (Params.wellNumbered_empty stem)⟩

/-- The results of a chain are numbered, by induction on the calls. -/
theorem Chained.isNumbered_results {front behind : List Call} (h : Chained stem (front ++ behind)) :
    ∀ m ∈ results front, IsNumbered stem m := by
  induction front using List.reverseRecOn generalizing behind with
  | nil => simp [results]
  | append_singleton front call ih =>
    rw [List.append_assoc] at h
    obtain ⟨hstem, hgiven⟩ := h front call behind rfl
    intro m hm
    rw [results, List.filterMap_append, List.mem_append] at hm
    rcases hm with hm | hm
    · exact ih h m hm
    · simp only [List.filterMap_cons, List.filterMap_nil] at hm
      cases hk : call.result? with
      | none => simp [hk] at hm
      | some k =>
        obtain rfl : m = k.params := by simpa [hk] using hm
        exact isNumbered_result hstem
          (fun l hl => takesNumbered_of_union (ih h) (hgiven l hl)) hk

/-- **Results may be given to later calls.** A run that puts in mappings whose numbers are below
their sizes, and starts with such a one, keeps to such ones and takes a new name for every value.
So do all calls of a chain, the failing ones included, and what they are answered with has its
numbers below its size again. -/
theorem namesAnew_of_chained (stem : String) :
    (∀ (l : Layout) (p : Params), p.WellNumbered stem → l.TakesNumbered stem →
        l.NamesAnew stem p) ∧
      ∀ calls, Chained stem calls → ∀ call ∈ calls,
        (∀ l, call.run? = some l → l.NamesAnew stem .empty) ∧
          ∀ k, call.result? = some k → Params.WellNumbered stem ⟨k.params⟩ := by
  refine ⟨fun l p hp hl => Layout.namesAnew hl hp, fun calls h call hcall => ?_⟩
  obtain ⟨front, behind, rfl⟩ := List.append_of_mem hcall
  obtain ⟨hstem, hgiven⟩ := h front call behind rfl
  have htakes (l : Layout) (hl : call.run? = some l) : l.TakesNumbered stem :=
    takesNumbered_of_union h.isNumbered_results (hgiven l hl)
  refine ⟨fun l hl => Layout.namesAnew (htakes l hl) (Params.wellNumbered_empty stem), ?_⟩
  exact fun k hk => (isNumbered_result hstem htakes hk).2

/-- A run that puts in two mappings with numbers, of which the second overlaps what is bound. -/
def overlapping : Layout := [
  .merge [(.text ":shelf", .int 7), (.text ":qp0", .int 1)], .bind (.int 2),
  .merge [(.text ":a", .int 0), (.text ":b", .int 0), (.text ":qp2", .int 2)], .bind (.int 3)]

/-- A condition with a value, and a deletion that is given its result under a name more. -/
def shelved : List Call := [
  ⟨.standard, .condition (.map [(.text "a", .int 1)]) (.list []) .null⟩,
  ⟨.standard, .delete (.text "books") (.map [(.text "b", .int 2)])
    (.map [(.text ":shelf", .int 7), (.text ":qp0", .int 1)])⟩]

theorem namesAnew_of_chained_shelved :
    overlapping.TakesNumbered ":qp" ∧ overlapping.numbers ":qp" .empty = [2, 5] ∧
      overlapping.NamesAnew ":qp" .empty ∧
      Chained ":qp" shelved ∧ results shelved = [[(.text ":qp0", .int 1)],
        [(.text ":shelf", .int 7), (.text ":qp0", .int 1), (.text ":qp2", .int 2)]] ∧
      ∀ call ∈ shelved, (∀ l, call.run? = some l → l.NamesAnew ":qp" .empty) ∧
        ∀ k, call.result? = some k → Params.WellNumbered ":qp" ⟨k.params⟩ := by
  have hnamed (n : Nat) (s : String) (hs : s.toList.take 3 ≠ ":qp".toList) :
      Value.text (Params.numbered ":qp" n) ≠ .text s := by
    rintro ⟨⟩
    simp [Params.numbered] at hs
  have hnumber (m n : Nat) (h : Value.text (Params.numbered ":qp" n) =
      .text (Params.numbered ":qp" m)) : n = m :=
    Params.numbered_injective ":qp" (Value.text.inj h)
  have htakes : overlapping.TakesNumbered ":qp" := by
    intro params hparams n hn
    have hkeys := Mapping.text_mem_keys_ofPairs_iff.1 hn
    have hmerges : params ∈ ([[(.text ":shelf", .int 7), (.text ":qp0", .int 1)],
        [(.text ":a", .int 0), (.text ":b", .int 0), (.text ":qp2", .int 2)]] : List Mapping) :=
      hparams
    simp only [List.mem_cons, List.not_mem_nil, or_false] at hmerges
    rcases hmerges with rfl | rfl
    · simp only [Mapping.keys, List.map_cons, List.map_nil, List.mem_cons, List.not_mem_nil,
        or_false] at hkeys
      obtain rfl : n = 0 := hnumber 0 n (hkeys.resolve_left (hnamed n _ (by decide)))
      decide
    · simp only [Mapping.keys, List.map_cons, List.map_nil, List.mem_cons, List.not_mem_nil,
        or_false] at hkeys
      obtain rfl : n = 2 := hnumber 2 n
        ((hkeys.resolve_left (hnamed n _ (by decide))).resolve_left (hnamed n _ (by decide)))
      decide
  have hchained : Chained ":qp" shelved := by
    rintro (_ | ⟨first, _ | ⟨second, front⟩⟩) call behind heq
    · obtain ⟨rfl, -⟩ := List.cons.inj heq
      refine ⟨rfl, fun l hl params hparams => ?_⟩
      obtain rfl := Option.some.inj hl
      exact absurd hparams List.not_mem_nil
    · obtain ⟨rfl, hrest⟩ := List.cons.inj heq
      obtain ⟨rfl, -⟩ := List.cons.inj hrest
      refine ⟨rfl, fun l hl params hparams => ?_⟩
      obtain rfl := Option.some.inj hl
      obtain rfl := List.mem_singleton.1 hparams
      have hshelf : Union ":qp" (results (shelved.take 1)) [(.text ":shelf", .int 7)] :=
        .free (m := [(.text ":shelf", .int 7)]) fun n hn =>
          hnamed n ":shelf" (by decide) (List.mem_singleton.1 hn)
      exact hshelf.union (.result (m := [(.text ":qp0", .int 1)]) (List.mem_singleton_self _))
    · simp [shelved] at heq
  exact ⟨htakes, rfl, (namesAnew_of_chained ":qp").1 _ _ (Params.wellNumbered_empty ":qp") htakes,
    hchained, rfl, (namesAnew_of_chained ":qp").2 shelved hchained⟩

end Call

end SearchSql
