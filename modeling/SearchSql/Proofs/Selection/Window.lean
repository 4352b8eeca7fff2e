import Mathlib.Data.Nat.Digits.Lemmas
import SearchSql.Proofs.Entities.Request
import SearchSql.Proofs.Layout.Faults
import SearchSql.Proofs.Phrase.Parts
import SearchSql.Proofs.Placeholder.Clause

/-!
# The rows that are returned

How many rows are returned and how many are skipped are given by values of any kind. What does not
denote a count has no effect. Whatever is given, the clause is left out or is a word with one or
two numerals behind it; read back, the numerals are the counts that were given.

## Main definitions

* `Numeral.Denotes` — the count that a value denotes.
* `Numeral.Short` — the values that have few enough digits.
* `Window.read?` — the counts in a clause: how many rows are skipped, and how many returned.
* `Window.written` — the clause for some counts.

## Main statements

* `Numeral.exists_count?` — the count of a value is the one that it denotes.
* `Window.read?_written` — the numerals of a clause are read back.
* `Layout.windowText_eq_written` — the clause as a function of the counts.
* `Connection.window_reads_back` — the clause for every two values, by itself and in a facet.
-/
namespace SearchSql

/-! ## Counts -/

namespace Numeral

/-- The number that digits stand for, each worth ten times as much as the one behind it. -/
def placed (digits : List Char) : Nat :=
  Nat.ofDigits 10 (digits.reverse.map fun a => a.toNat - '0'.toNat)

/-- A value denotes a count: an integer from zero on, or a text of nothing but digits. -/
inductive Denotes : Value → Nat → Prop where
  /-- An integer denotes itself. -/
  | int (n : Nat) : Denotes (.int n) n
  /-- Digits may have zeros in front of them. -/
  | text {s : String} (hne : s ≠ "") (hdigits : ∀ a ∈ s.toList, a.isDigit = true) :
    Denotes (.text s) (placed s.toList)

/-- An integer, or a text of digits, has fewer than 4300 digits. -/
def Short : Value → Prop
  | .int n => (Nat.digits 10 n.natAbs).length < 4300
  | .text s => (∀ a ∈ s.toList, a.isDigit = true) → s.length < 4300
  | _ => True

theorem placed_eq_value (digits : List Char) : placed digits = value digits := by
  rw [placed, value, Nat.ofDigits_eq_foldr, List.foldr_map, List.foldl_eq_foldr_reverse]
  congr 1
  funext a n
  exact Nat.add_comm _ _

theorem isWritable_iff (n : Nat) :
    isWritable n = true ↔ (Nat.digits 10 n).length ≤ maxDigits := by
  rw [isWritable, decide_eq_true_iff, Int.natAbs_natCast,
    Nat.length_toDigits_le_iff (by decide) (by decide), Nat.digits_length_le_iff (by decide)]

theorem Denotes.unique {v : Value} {m n : Nat} (hm : Denotes v m) (hn : Denotes v n) : m = n := by
  cases hm <;> cases hn <;> rfl

theorem isAsciiDigit_eq_isDigit (a : Char) : Text.isAsciiDigit a = a.isDigit := by
  simp only [Text.isAsciiDigit, Char.isDigit, UInt32.le_iff_toNat_le, ge_iff_le]
  rfl

/-- A text of few digits stands for a number with few digits. -/
theorem length_digits_placed_le {digits : List Char} (h : ∀ a ∈ digits, a.isDigit = true) :
    (Nat.digits 10 (placed digits)).length ≤ digits.length := by
  have hlt : placed digits < 10 ^ (digits.reverse.map fun a => a.toNat - '0'.toNat).length := by
    refine Nat.ofDigits_lt_base_pow_length (by decide) fun d hd => ?_
    obtain ⟨a, ha, rfl⟩ := List.mem_map.1 hd
    have hdigit := h a (List.mem_reverse.1 ha)
    rw [← isAsciiDigit_eq_isDigit, Text.isAsciiDigit, Bool.and_eq_true, decide_eq_true_iff,
      decide_eq_true_iff] at hdigit
    change a.toNat - 48 < 10
    omega
  rwa [List.length_map, List.length_reverse, ← Nat.digits_length_le_iff (by decide)] at hlt

theorem count?_text (s : String) : count? (.text s) =
    if s ≠ "" ∧ ∀ a ∈ s.toList, a.isDigit = true then
      if s.length ≤ maxDigits then .ok (some (placed s.toList)) else .error (.misuse .meaningless)
    else .ok none := by
  have hdigits : s.toList.all Text.isAsciiDigit = true ↔ ∀ a ∈ s.toList, a.isDigit = true := by
    simp only [List.all_eq_true, isAsciiDigit_eq_isDigit]
  have hblank : s.toList.isEmpty = true ↔ s = "" := by simp
  simp only [count?, placed_eq_value, ← hdigits, Ne, ← hblank, String.length_toList]
  cases s.toList.isEmpty <;> cases s.toList.all Text.isAsciiDigit <;> simp

theorem denotes_int_iff {m : Int} {n : Nat} : Denotes (.int m) n ↔ m = n := by
  constructor
  · intro h
    cases h
    rfl
  · rintro rfl
    exact .int n

theorem denotes_text_iff {s : String} {n : Nat} : Denotes (.text s) n ↔
    (s ≠ "" ∧ ∀ a ∈ s.toList, a.isDigit = true) ∧ placed s.toList = n := by
  constructor
  · intro h
    cases h with
    | text hne hdigits => exact ⟨⟨hne, hdigits⟩, rfl⟩
  · rintro ⟨⟨hne, hdigits⟩, rfl⟩
    exact .text hne hdigits

/-- **The count of a value is the one that it denotes**, and it has a numeral. -/
theorem exists_count? {v : Value} (h : Short v) :
    ∃ found, count? v = .ok found ∧ (∀ n, Denotes v n ↔ found = some n) ∧
      ∀ n, found = some n → isWritable n = true := by
  cases v with
  | int m =>
    by_cases hm : 0 ≤ m
    · obtain ⟨n, rfl⟩ := Int.eq_ofNat_of_zero_le hm
      refine ⟨some n, by simp [count?], fun k => by simp [denotes_int_iff], fun k hk => ?_⟩
      obtain rfl := Option.some.inj hk
      exact (isWritable_iff n).2 (Nat.le_of_lt h)
    · refine ⟨none, by simp [count?, hm], fun k => ?_, by simp⟩
      rw [denotes_int_iff]
      refine iff_of_false ?_ (by simp)
      rintro rfl
      exact hm (Int.natCast_nonneg k)
  | text s =>
    by_cases hcount : s ≠ "" ∧ ∀ a ∈ s.toList, a.isDigit = true
    · have hlength : s.length < maxDigits := h hcount.2
      refine ⟨some (placed s.toList), by rw [count?_text, if_pos hcount, if_pos hlength.le],
        fun k => ?_, fun k hk => ?_⟩
      · rw [denotes_text_iff, and_iff_right hcount, Option.some_inj]
      · obtain rfl := Option.some.inj hk
        refine (isWritable_iff _).2 ((length_digits_placed_le hcount.2).trans ?_)
        rw [String.length_toList]
        exact hlength.le
    · refine ⟨none, by rw [count?_text, if_neg hcount], fun k => ?_, by simp⟩
      rw [denotes_text_iff]
      exact iff_of_false (fun hk => hcount hk.1) (by simp)
  | _ =>
    -- Nothing else denotes a count.
    refine ⟨none, rfl, fun k => iff_of_false (fun hk => ?_) (by simp), by simp⟩
    cases hk

end Numeral

/-! ## Clauses -/

namespace Window

open Numeral

/-- The number that a numeral denotes. There is no needless zero in front. -/
def numeral? (cs : List Char) : Option Nat :=
  if cs ≠ [] ∧ cs.all Char.isDigit ∧ (cs.head? = some '0' → cs = ['0']) then some (placed cs)
  else none

/-- How many rows are skipped, and how many are returned. One numeral tells what is returned. -/
def counts? : List (List Char) → Option (Nat × Nat)
  | [returned] => (numeral? returned).map (0, ·)
  | [skipped, returned] => (numeral? skipped).bind fun m => (numeral? returned).map (m, ·)
  | _ => none

/-- The counts in a clause, between commas. -/
def read? (s : String) : Option (Nat × Nat) :=
  match s.toList with
  | 'L' :: 'I' :: 'M' :: 'I' :: 'T' :: ' ' :: rest => counts? (rest.splitOn ',')
  | _ => none

/-- No numeral but that of zero begins with a zero. -/
theorem head?_toDigits_ne {n : Nat} (h : n ≠ 0) : (Nat.toDigits 10 n).head? ≠ some '0' := by
  induction n using Nat.strongRecOn with
  | ind n ih =>
    rcases Nat.lt_or_ge n 10 with hn | hn
    · rw [Nat.toDigits_of_lt_base hn]
      interval_cases n <;> simp_all
    · rw [Nat.toDigits_of_base_le (by decide) hn, List.head?_append_of_ne_nil _ (by simp)]
      exact ih (n / 10) (Nat.div_lt_self (Nat.pos_of_ne_zero h) (by decide))
        (Nat.div_pos hn (by decide)).ne'

theorem numeral?_toString (n : Nat) : numeral? (toString n).toList = some n := by
  have hchars : (toString n).toList = Nat.toDigits 10 n := Nat.toList_repr
  have hplaced : placed (Nat.toDigits 10 n) = n :=
    (placed_eq_value _).trans Nat.ofDigitChars_ten_toDigits
  have hdigits : (Nat.toDigits 10 n).all Char.isDigit = true :=
    List.all_eq_true.2 fun a ha => Nat.isDigit_of_mem_toDigits (by decide) (by decide) ha
  rw [hchars, numeral?, if_pos, hplaced]
  refine ⟨Nat.toDigits_ne_nil, hdigits, fun hzero => ?_⟩
  by_cases h : n = 0
  · rw [h]
    rfl
  · exact absurd hzero (head?_toDigits_ne h)

theorem comma_notMem_toString (n : Nat) : ',' ∉ (toString n).toList := by
  simpa using Layout.notMem_toDigits (a := ',') (by decide) n

/-- What stands behind the word is read piece by piece. -/
theorem read?_numerals {counts : List Nat} (hne : counts ≠ []) :
    read? ("LIMIT " ++ ",".intercalate (counts.map toString)) =
      counts? (counts.map fun n => (toString n).toList) := by
  have hchars (s : String) : ("LIMIT " ++ s).toList =
      'L' :: 'I' :: 'M' :: 'I' :: 'T' :: ' ' :: s.toList := String.toList_append
  have hpieces : ∀ piece ∈ counts.map fun n => (toString n).toList, ',' ∉ piece := by
    intro piece hpiece
    obtain ⟨n, -, rfl⟩ := List.mem_map.1 hpiece
    exact comma_notMem_toString n
  have hsplit := List.splitOn_intercalate ',' hpieces (by simpa using hne)
  rw [read?, hchars, String.toList_intercalate, List.map_map]
  exact congrArg counts? hsplit

/-- How many rows are returned is read back. -/
theorem read?_returned (n : Nat) : read? ("LIMIT " ++ toString n) = some (0, n) := by
  have hread := read?_numerals (List.cons_ne_nil n [])
  rw [List.map_singleton, String.intercalate_singleton] at hread
  rw [hread, List.map_singleton, counts?, numeral?_toString, Option.map_some]

/-- How many rows are skipped and how many are returned are read back. -/
theorem read?_skipped (m n : Nat) :
    read? ("LIMIT " ++ toString m ++ "," ++ toString n) = some (m, n) := by
  have hread := read?_numerals (List.cons_ne_nil m [n])
  rw [List.map_cons, List.map_singleton, String.intercalate_cons_cons, String.intercalate_singleton,
    ← String.append_assoc, ← String.append_assoc] at hread
  rw [hread, List.map_cons, List.map_singleton, counts?, numeral?_toString, numeral?_toString,
    Option.bind_some, Option.map_some]

/-- The clause for rows of which some are skipped, if any are, and so many are returned, where
`usual` stands for a number that is missing. -/
def written (usual : Nat) : Option Nat → Option Nat → String
  | none, none => ""
  | none, some n => "LIMIT " ++ toString n
  | some m, returned => "LIMIT " ++ toString m ++ "," ++ toString (returned.getD usual)

variable {usual : Nat} {skipped returned : Option Nat}

theorem written_eq_empty_iff :
    written usual skipped returned = "" ↔ skipped = none ∧ returned = none := by
  rcases skipped with _ | m <;> rcases returned with _ | n <;> simp [written]

/-- **What is written is read back.** -/
theorem read?_written (h : written usual skipped returned ≠ "") :
    read? (written usual skipped returned) = some (skipped.getD 0, returned.getD usual) := by
  match skipped, returned with
  | none, none => exact absurd rfl h
  | none, some n => exact read?_returned n
  | some m, returned => exact read?_skipped m _

end Window

namespace Layout

variable (c : Connection) {limit offset : Value}

open Numeral

/-- An offset of zero has no effect, just as one that is no count. -/
theorem windowText_eq_written {skipped returned : Option Nat}
    (hoffset : count? offset = .ok skipped) (hlimit : count? limit = .ok returned)
    (hskipped : ∀ m, skipped = some m → isWritable m = true)
    (hreturned : isWritable (returned.getD c.settings.defaultLimit) = true) :
    windowText c limit offset =
      .ok (Window.written c.settings.defaultLimit (skipped.filter (0 < ·)) returned) := by
  have hwrite {n : Nat} (h : isWritable n = true) : write n = .ok (toString n) :=
    write_eq_ok_iff.2 ⟨h, rfl⟩
  have hpositive : ∀ m, skipped.filter (0 < ·) = some m → write m = .ok (toString m) :=
    fun m hm => hwrite (hskipped m (Option.filter_eq_some_iff.1 hm).1)
  have hlast := hwrite hreturned
  simp only [windowText, hoffset, hlimit, bind, Except.bind]
  cases hfilter : skipped.filter (0 < ·) with
  | none =>
    cases returned with
    | none => rfl
    | some n =>
      rw [Option.getD_some] at hlast
      simp only [hlast]
      rfl
  | some m =>
    cases returned with
    | none =>
      rw [Option.getD_none] at hlast
      simp only [hpositive m hfilter, hlast]
      rfl
    | some n =>
      rw [Option.getD_some] at hlast
      simp only [hpositive m hfilter, hlast]
      rfl

/-- The clause for every two values that are short enough. -/
theorem exists_windowText (hlimit : Short limit) (hoffset : Short offset)
    (hdefault : Short (.int c.settings.defaultLimit)) :
    ∃ s, windowText c limit offset = .ok s ∧
      (s = "" ↔ (∀ n, ¬ Denotes limit n) ∧ ∀ m, Denotes offset m → m = 0) ∧
      (s ≠ "" → ∃ m n, Window.read? s = some (m, n) ∧
        (Denotes offset m ∨ m = 0 ∧ ∀ k, ¬ Denotes offset k) ∧
        (Denotes limit n ∨ n = c.settings.defaultLimit ∧ ∀ k, ¬ Denotes limit k)) := by
  obtain ⟨skipped, hskipped, hoffsetIff, hskippedShort⟩ := exists_count? hoffset
  obtain ⟨returned, hreturned, hlimitIff, hreturnedShort⟩ := exists_count? hlimit
  have hlast : isWritable (returned.getD c.settings.defaultLimit) = true := by
    cases returned with
    | none => exact (isWritable_iff _).2 (Nat.le_of_lt hdefault)
    | some n => exact hreturnedShort n rfl
  have hgiven (found : Option Nat) (usual : Nat) :
      found = some (found.getD usual) ∨ found.getD usual = usual ∧ ∀ k, found ≠ some k := by
    cases found with
    | none => exact .inr ⟨rfl, nofun⟩
    | some n => exact .inl rfl
  have hzero : (skipped.filter (0 < ·)).getD 0 = skipped.getD 0 := by
    rcases skipped with _ | _ | m <;> rfl
  simp only [hoffsetIff, hlimitIff]
  refine ⟨_, windowText_eq_written c hskipped hreturned hskippedShort hlast, ?_, fun h =>
    ⟨skipped.getD 0, returned.getD c.settings.defaultLimit, ?_, hgiven _ _, hgiven _ _⟩⟩
  · rw [Window.written_eq_empty_iff, Option.filter_eq_none_iff, and_comm,
      Option.eq_none_iff_forall_ne_some]
    simp
  · rw [Window.read?_written h, hzero]

/-- A facet ends in the same text, if it ends in any. -/
theorem charsAt_ofFacet {s : String} {facet : Facet}
    (h : windowText c facet.limit facet.offset = .ok s) (stem : String) (p : Params) :
    (ofFacet c (.ok facet)).charsAt stem p =
      (ofFacet c (.ok { facet with limit := .null, offset := .null })).charsAt stem p ++
        if s = "" then [] else ' ' :: s.toList := by
  have hpresent : ∃ l ∈ [ofFields c facet.fields, ofCheckedOrder c facet.order], l ≠ [] :=
    ⟨_, List.mem_cons_self .., Part.ofFields_ne_nil c facet.fields⟩
  have hsplit (window : Layout) : joinPresent " "
      [ofFields c facet.fields, ofCheckedOrder c facet.order, window] =
        joinPresent " " [ofFields c facet.fields, ofCheckedOrder c facet.order] ++
          after " " window := by
    rw [← joinPresent_singleton " " window, ← joinPresent_append hpresent,
      joinPresent_singleton, List.cons_append, List.singleton_append]
  have hnone : ofWindow c .null .null = [] := rfl
  have hwindow : ofWindow c facet.limit facet.offset = ofText s := by rw [ofWindow, h]
  have hbehind (q : Params) :
      (after " " (ofText s)).charsAt stem q = if s = "" then [] else ' ' :: s.toList := by
    by_cases hs : s = ""
    · rw [hs]
      rfl
    · rw [if_neg hs, ofText, if_neg (by simpa using hs)]
      change " ".toList ++ (s.toList ++ []) = _
      rw [List.append_nil]
      rfl
  simp only [ofFacet, hsplit, hnone, hwindow, charsAt_cons, charsAt_append, after_nil,
    List.append_nil, List.append_assoc, hbehind]

end Layout

namespace Connection

variable (c : Connection)

open Numeral

theorem clause_ofText (s : String) : c.clause (Layout.ofText s) = .ok s := by
  by_cases hs : s = ""
  · rw [hs]
    rfl
  · have htext : Layout.ofText s = Layout.ofTexts [s] := by
      rw [Layout.ofText, if_neg (by simpa using hs)]
      rfl
    rw [htext, clause_eq, Layout.fault?_ofTexts, Option.elim_none, Layout.charsAt_ofTexts,
      String.ofList_toList]
    simp

/-- **The clause for the rows that are returned, whatever is given for them**: a word with one or
two numerals, or nothing if no rows are skipped and the limit is no count. The numerals are read
back as the counts that were given; what is missing is no rows that are skipped, and the default
number of rows that are returned. A facet with the same limit and offset ends in the same text. -/
theorem window_reads_back {limit offset : Value} (hlimit : Short limit) (hoffset : Short offset)
    (hdefault : Short (.int c.settings.defaultLimit)) :
    ∃ s, c.window limit offset = .ok s ∧
      (s = "" ∨ (∃ n : Nat, s = "LIMIT " ++ toString n) ∨
        ∃ m n : Nat, s = "LIMIT " ++ toString m ++ "," ++ toString n) ∧
      (s = "" ↔ (∀ n, ¬ Denotes limit n) ∧ ∀ m, Denotes offset m → m = 0) ∧
      (s ≠ "" → ∃ m n, Window.read? s = some (m, n) ∧
        (Denotes offset m ∨ m = 0 ∧ ∀ k, ¬ Denotes offset k) ∧
        (Denotes limit n ∨ n = c.settings.defaultLimit ∧ ∀ k, ¬ Denotes limit k)) ∧
      ∀ (q : Query) (key : String) (m : Mapping), (some key, .map m) ∈ q.facets.toEntries →
        (m.named? "limit").getD .null = limit → (m.named? "offset").getD .null = offset →
        ∀ params k names, c.answer (.build (.query q) params) = .ok (.selection k names) →
          let facet := Facet.ofMapping (.text key) m
          let unbounded : Facet := { facet with limit := .null, offset := .null }
          ∃ start, let written (f : Facet) :=
              (Layout.ofFacet c (.ok f)).charsAt c.settings.paramStem start
            written facet <:+: k.sql.toList ∧
              written facet = written unbounded ++ if s = "" then [] else ' ' :: s.toList := by
  obtain ⟨s, hs, hempty, hread⟩ := Layout.exists_windowText c hlimit hoffset hdefault
  refine ⟨s, ?_, Layout.windowText_cases hs, hempty, hread, ?_⟩
  · have hwindow : Layout.ofWindow c limit offset = Layout.ofText s := by rw [Layout.ofWindow, hs]
    rw [window, hwindow, clause_ofText]
  · rintro q key m hfacet rfl rfl params k names h
    obtain ⟨_, hq, hbuild, -⟩ := answer_build_eq_ok_iff.1 h
    obtain rfl := Except.ok.inj hq
    have hfacets : Layout.ofFacets c (Selection.ofQuery q).facets ∈
        (Selection.ofQuery q).clauses c := List.mem_of_getElem? (i := 9) rfl
    have hgiven : Layout.ofFacet c (.ok (Facet.ofMapping (.text key) m)) ∈
        (Selection.ofQuery q).facets.map (Layout.ofFacet c) := by
      rw [Selection.ofQuery_facets, List.map_map]
      exact List.mem_map_of_mem (f := Layout.ofFacet c ∘ Facet.ofEntry) hfacet
    obtain ⟨start, hstart⟩ := exists_charsAt_clause hbuild hfacets
      (Layout.infix_join c.settings.separator hgiven)
    exact ⟨start, hstart, Layout.charsAt_ofFacet c hs c.settings.paramStem start⟩

/-- Books with a facet of their authors, of whom the first twenty are skipped. -/
def authorsFacet : Query :=
  { Clauses.empty with
    source := .positional [.text "books"]
    facets := .keyed [
      (.text "author", .map [(.text "limit", .text "007"), (.text "offset", .int 20)])] }

theorem window_reads_back_authorsFacet :
    Short (.text "007") ∧ Short (.int 20) ∧ Short (.int standard.settings.defaultLimit) ∧
      standard.window (.text "007") (.int 20) = .ok "LIMIT 20,7" ∧
      Window.read? "LIMIT 20,7" = some (20, 7) ∧ Denotes (.int 20) 20 ∧ Denotes (.text "007") 7 ∧
      ∃ k names, standard.answer (.build (.query authorsFacet) .null) = .ok (.selection k names) ∧
        " LIMIT 20,7".toList <:+: k.sql.toList := by
  have hlimit : Short (.text "007") := fun _ => by decide
  have hoffset : Short (.int 20) := by simp [Short]
  have hdefault : Short (.int standard.settings.defaultLimit) := by
    simp [Short, standard]
  have hseven : Denotes (.text "007") 7 := by
    have hplaced : placed "007".toList = 7 := (placed_eq_value _).trans (by decide)
    rw [← hplaced]
    exact .text (by decide) (by simp)
  have hwritten : standard.window (.text "007") (.int 20) = .ok "LIMIT 20,7" := rfl
  obtain ⟨s, hs, -, -, hread, hfacet⟩ := window_reads_back standard hlimit hoffset hdefault
  obtain rfl := Except.ok.inj (hwritten.symm.trans hs)
  refine ⟨hlimit, hoffset, hdefault, hwritten, ?_, .int 20, hseven, ?_⟩
  · obtain ⟨m, n, hcounts, hm, hn⟩ := hread (by decide)
    rw [hcounts, (hm.resolve_right fun h => h.2 20 (.int 20)).unique (.int 20),
      (hn.resolve_right fun h => h.2 7 hseven).unique hseven]
  · refine ⟨⟨"SELECT * FROM books FACET author LIMIT 20,7", [], "sphinx"⟩, ["books"], rfl, ?_⟩
    obtain ⟨start, hin, hends⟩ := hfacet authorsFacet "author" _ (List.mem_cons_self ..) rfl rfl
      .null _ _ rfl
    rw [hends] at hin
    exact (List.suffix_append ..).isInfix.trans hin

end Connection

end SearchSql
