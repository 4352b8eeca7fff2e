import Mathlib
import SearchSql.Escape.Like

/-!
# The longest key at each position

The keys of a table are tried in an order that depends on their lengths only. Of the keys that
start at a position two of one length are the same, so the first one that is found is the longest,
in whatever order the table has them; and it is a key of the table, so there is something to put in
its place.

## Main definitions

* `Replacement.IsLongest` — the key that counts at a position.
* `Replacement.Substituted` — a text and what it becomes, read once from the left.

## Main statements

* `Replacement.find?_tried_eq_some_iff` — the key that is found is the longest.
* `Replacement.Substituted.apply_eq` — applying a table succeeds, and substitutes.
* `Replacement.translate_scans_longest` — what a text becomes, for all tables of texts.
-/
namespace SearchSql.Replacement

/-! ## The order in which keys are tried -/

theorem insertKey_perm (key : List Char) (keys : List (List Char)) :
    (insertKey key keys).Perm (key :: keys) := by
  induction keys with
  | nil => exact .refl _
  | cons other rest ih =>
    rw [insertKey]
    split
    · exact .refl _
    · exact (ih.cons other).trans (.swap key other rest)

theorem tried_perm (keys : List (List Char)) : (tried keys).Perm keys := by
  induction keys with
  | nil => exact .refl _
  | cons key rest ih => exact (insertKey_perm key (tried rest)).trans (ih.cons key)

theorem mem_tried {key : List Char} {keys : List (List Char)} : key ∈ tried keys ↔ key ∈ keys :=
  (tried_perm keys).mem_iff

/-- A key is put behind the longer ones. -/
theorem pairwise_insertKey (key : List Char) {keys : List (List Char)}
    (h : keys.Pairwise fun first second => second.length ≤ first.length) :
    (insertKey key keys).Pairwise fun first second => second.length ≤ first.length := by
  induction keys with
  | nil => exact List.pairwise_singleton _ _
  | cons other rest ih =>
    obtain ⟨hother, hrest⟩ := List.pairwise_cons.1 h
    rw [insertKey]
    split
    · rename_i hle
      refine List.pairwise_cons.2 ⟨fun k hk => ?_, h⟩
      rcases List.mem_cons.1 hk with rfl | hk
      · exact hle
      · exact (hother k hk).trans hle
    · rename_i hlt
      refine List.pairwise_cons.2 ⟨fun k hk => ?_, ih hrest⟩
      rcases List.mem_cons.1 ((insertKey_perm key rest).mem_iff.1 hk) with rfl | hk
      · omega
      · exact hother k hk

theorem pairwise_tried (keys : List (List Char)) :
    (tried keys).Pairwise fun first second => second.length ≤ first.length := by
  induction keys with
  | nil => exact .nil
  | cons key rest ih => exact pairwise_insertKey key ih

/-! ## The key that counts -/

/-- A key that a text starts with, and no longer key does. -/
structure IsLongest (keys : List (List Char)) (cs key : List Char) : Prop where
  /-- It is one of the keys. -/
  mem : key ∈ keys
  /-- The text starts with it. -/
  isPrefix : key <+: cs
  /-- The text starts with no longer one. -/
  length_le : ∀ other ∈ keys, other <+: cs → other.length ≤ key.length

/-- Two keys of one length that a text starts with are the same. -/
theorem IsLongest.unique {keys : List (List Char)} {cs key other : List Char}
    (h : IsLongest keys cs key) (h' : IsLongest keys cs other) : key = other := by
  have hlength : key.length = other.length :=
    Nat.le_antisymm (h'.length_le key h.mem h.isPrefix) (h.length_le other h'.mem h'.isPrefix)
  exact (List.prefix_of_prefix_length_le h.isPrefix h'.isPrefix hlength.le).eq_of_length hlength

/-- **The key that is found is the longest.** -/
theorem find?_tried_eq_some_iff {keys : List (List Char)} {cs key : List Char} :
    (tried keys).find? (·.isPrefixOf cs) = some key ↔ IsLongest keys cs key := by
  have hlongest {found : List Char} (h : (tried keys).find? (·.isPrefixOf cs) = some found) :
      IsLongest keys cs found := by
    obtain ⟨hfound, before, behind, heq, hbefore⟩ := List.find?_eq_some_iff_append.1 h
    refine ⟨mem_tried.1 (heq ▸ by simp), isPrefix_of_find? h, fun other hother hprefix => ?_⟩
    -- what stands before the key is no beginning of the text, what stands behind it is no longer
    have hordered := pairwise_tried keys
    rw [heq] at hordered
    rw [← mem_tried, heq, List.mem_append, List.mem_cons] at hother
    rcases hother with hother | rfl | hother
    · have hnot := hbefore other hother
      simp [List.isPrefixOf_iff_prefix.2 hprefix] at hnot
    · exact le_rfl
    · exact (List.pairwise_cons.1 (List.pairwise_append.1 hordered).2.1).1 other hother
  constructor
  · exact hlongest
  · intro h
    cases hfound : (tried keys).find? (·.isPrefixOf cs) with
    | none =>
      have hnot := List.find?_eq_none.1 hfound key (mem_tried.2 h.mem)
      simp [h.isPrefix] at hnot
    | some found => rw [(hlongest hfound).unique h]

theorem find?_tried_eq_none_iff {keys : List (List Char)} {cs : List Char} :
    (tried keys).find? (·.isPrefixOf cs) = none ↔ ∀ key ∈ keys, ¬ key <+: cs := by
  simp [List.find?_eq_none, mem_tried]

/-! ## Substitution -/

/-- What a text becomes by a table of texts, in one pass from the left. Nothing is asked of what has
been put in. -/
inductive Substituted (pairs : List (String × String)) : List Char → List Char → Prop where
  /-- Nothing is left. -/
  | done : Substituted pairs [] []
  /-- The longest key that starts here is replaced. -/
  | replaced {key value : String} {rest out : List Char} (hmem : (key, value) ∈ pairs)
    (hlongest : ∀ pair ∈ pairs, pair.1.toList <+: key.toList ++ rest →
      pair.1.toList.length ≤ key.toList.length)
    (hrest : Substituted pairs rest out) :
    Substituted pairs (key.toList ++ rest) (value.toList ++ out)
  /-- No key starts here. -/
  | kept {a : Char} {rest out : List Char} (hnone : ∀ pair ∈ pairs, ¬ pair.1.toList <+: a :: rest)
    (hrest : Substituted pairs rest out) : Substituted pairs (a :: rest) (a :: out)

variable {pairs : List (String × String)}

/-- The keys of a table of texts. -/
def keysOf (pairs : List (String × String)) : List (List Char) :=
  pairs.map fun pair => pair.1.toList

theorem map_fst_ofNamed (pairs : List (String × String)) :
    (ofNamed pairs).pairs.map Prod.fst = keysOf pairs := by
  simp [ofNamed, keysOf]

/-- Each key of a table has its replacement. -/
theorem find_ofNamed (hkeys : (pairs.map Prod.fst).Nodup) {key value : String}
    (hmem : (key, value) ∈ pairs) : (ofNamed pairs).find key.toList = .ok value.toList := by
  induction pairs with
  | nil => cases hmem
  | cons pair rest ih =>
    obtain ⟨hnew, hrest⟩ := List.nodup_cons.1 hkeys
    rcases List.mem_cons.1 hmem with rfl | hmem
    · simp [find, ofNamed]
    · have hne : (key.toList == pair.1.toList) = false := by
        rw [beq_eq_false_iff_ne, Ne, String.toList_inj]
        rintro rfl
        exact hnew (List.mem_map.2 ⟨_, hmem, rfl⟩)
      simpa [find, ofNamed, List.lookup_cons, hne] using ih hrest hmem

/-- What a key covers is passed over. -/
theorem stretches_eq_drop (keys : List (List Char)) (covered : Nat) (cs : List Char) :
    stretches keys covered cs = stretches keys 0 (cs.drop covered) := by
  induction covered generalizing cs with
  | zero => rw [List.drop_zero]
  | succ n ih =>
    cases cs with
    | nil => simp only [List.drop_nil, stretches]
    | cons a rest => rw [stretches, ih, List.drop_succ_cons]

/-- No key of the table is empty, and none has two replacements. -/
structure IsTable (pairs : List (String × String)) : Prop where
  /-- A key is written with characters. -/
  ne_empty : ∀ pair ∈ pairs, pair.1 ≠ ""
  /-- A key has one replacement. -/
  nodup_keys : (pairs.map Prod.fst).Nodup

theorem IsTable.nil_notMem (h : IsTable pairs) : [] ∉ keysOf pairs := by
  intro hnil
  obtain ⟨pair, hpair, hempty⟩ := List.mem_map.1 hnil
  exact h.ne_empty pair hpair (String.toList_eq_nil_iff.1 hempty)

/-- What a text is cut into becomes what the text becomes, by induction on the way the text is
read. -/
theorem Substituted.exists_mapM_eq (h : IsTable pairs) {cs out : List Char}
    (hcs : Substituted pairs cs out) :
    ∃ parts, (stretches (tried (keysOf pairs)) 0 cs).mapM (ofNamed pairs).replace = .ok parts ∧
      parts.flatten = out := by
  induction hcs with
  | done =>
    refine ⟨[], ?_, rfl⟩
    rw [stretches, if_neg fun hnil => h.nil_notMem (mem_tried.1 hnil)]
    rfl
  | @replaced key value rest out hmem hlongest _ ih =>
    obtain ⟨parts, hparts, rfl⟩ := ih
    refine ⟨value.toList :: parts, ?_, rfl⟩
    have hfound : (tried (keysOf pairs)).find? (·.isPrefixOf (key.toList ++ rest)) =
        some key.toList := by
      refine find?_tried_eq_some_iff.2 ⟨List.mem_map_of_mem hmem, List.prefix_append _ _, ?_⟩
      intro other hother hprefix
      obtain ⟨pair, hpair, rfl⟩ := List.mem_map.1 hother
      exact hlongest pair hpair hprefix
    have hreplace : (ofNamed pairs).replace (.hit key.toList) = .ok value.toList :=
      find_ofNamed h.nodup_keys hmem
    obtain ⟨d, tail, hkey⟩ := List.exists_cons_of_ne_nil
      (mt String.toList_eq_nil_iff.1 (h.ne_empty (key, value) hmem))
    rw [hkey] at hfound hreplace ⊢
    simp only [List.cons_append] at hfound ⊢
    simp only [stretches, hfound]
    rw [stretches_eq_drop, List.drop_left, List.mapM_cons, hreplace, hparts]
    rfl
  | @kept a rest out hnone _ ih =>
    obtain ⟨parts, hparts, rfl⟩ := ih
    refine ⟨[a] :: parts, ?_, rfl⟩
    have hfound : (tried (keysOf pairs)).find? (·.isPrefixOf (a :: rest)) = none := by
      rw [find?_tried_eq_none_iff]
      rintro key hkey
      obtain ⟨pair, hpair, rfl⟩ := List.mem_map.1 hkey
      exact hnone pair hpair
    simp only [stretches, hfound]
    rw [List.mapM_cons, hparts]
    rfl

theorem Substituted.apply_eq (h : IsTable pairs) {s : String} {out : List Char}
    (hs : Substituted pairs s.toList out) :
    (ofNamed pairs).apply s = .ok (String.ofList out) := by
  obtain ⟨parts, hparts, rfl⟩ := hs.exists_mapM_eq h
  rw [apply, map_fst_ofNamed, hparts]
  rfl

/-- Every text becomes something: at each position a key starts or none does. -/
theorem exists_substituted (h : IsTable pairs) (cs : List Char) :
    ∃ out, Substituted pairs cs out := by
  induction hn : cs.length using Nat.strong_induction_on generalizing cs with
  | _ n ih =>
    subst hn
    cases cs with
    | nil => exact ⟨[], .done⟩
    | cons a rest =>
      cases hfound : (tried (keysOf pairs)).find? (·.isPrefixOf (a :: rest)) with
      | none =>
        obtain ⟨out, hout⟩ := ih rest.length (by simp) rest rfl
        have hnone := find?_tried_eq_none_iff.1 hfound
        exact ⟨a :: out, .kept (fun pair hpair => hnone _ (List.mem_map_of_mem hpair)) hout⟩
      | some found =>
        have hlongest := find?_tried_eq_some_iff.1 hfound
        obtain ⟨pair, hpair, hkey⟩ := List.mem_map.1 hlongest.mem
        obtain ⟨back, hback⟩ := hlongest.isPrefix
        have hpos : 0 < found.length := by
          refine List.length_pos_iff.2 fun hnil => h.nil_notMem ?_
          exact hnil ▸ hlongest.mem
        obtain ⟨out, hout⟩ := ih back.length (by simp [← hback]; omega) back rfl
        refine ⟨pair.2.toList ++ out, ?_⟩
        rw [← hback, ← hkey]
        refine .replaced hpair (fun other hother hprefix => ?_) hout
        rw [hkey, hback] at hprefix
        rw [hkey]
        exact hlongest.length_le _ (List.mem_map_of_mem hother) hprefix

/-- The order of a table does not count. -/
theorem Substituted.congr {others : List (String × String)}
    (hsame : ∀ pair, pair ∈ pairs ↔ pair ∈ others) {cs out : List Char}
    (h : Substituted pairs cs out) : Substituted others cs out := by
  induction h with
  | done => exact .done
  | replaced hmem hlongest _ ih =>
    exact .replaced ((hsame _).1 hmem) (fun pair hpair => hlongest pair ((hsame pair).2 hpair)) ih
  | kept hnone _ ih => exact .kept (fun pair hpair => hnone pair ((hsame pair).2 hpair)) ih

theorem IsTable.perm {others : List (String × String)} (h : IsTable pairs)
    (hperm : others.Perm pairs) : IsTable others :=
  ⟨fun pair hpair => h.ne_empty pair (hperm.mem_iff.1 hpair),
    (hperm.map Prod.fst).nodup_iff.2 h.nodup_keys⟩

/-! ## Tables that are given as values -/

theorem keysOf?_texts (pairs : List (String × String)) :
    keysOf? (pairs.map fun pair => .text pair.1) = some (keysOf pairs) := by
  induction pairs with
  | nil => rfl
  | cons pair rest ih =>
    rw [keysOf?] at ih
    simp only [keysOf?, List.map_cons, List.mapM_cons, ih]
    rfl

theorem ofValue_tableValue (hne : pairs ≠ []) :
    ofValue (Like.tableValue pairs) = .ok (some (ofNamed pairs)) := by
  have htruthy : (Like.tableValue pairs).truthy = true := by
    simpa [Like.tableValue, Value.truthy] using hne
  have helements : (Like.tableValue pairs).elements? =
      some (pairs.map fun pair => .text pair.1) := by
    simp [Like.tableValue, Value.elements?]
  rw [ofValue, htruthy, helements]
  simp only [Bool.not_true, Bool.false_eq_true, if_false, Option.bind_some, keysOf?_texts,
    Like.tableValue, ofNamed, keysOf, List.map_map, List.zip_map']
  rfl

/-- Without a table a text stays as it is. -/
theorem substituted_nil (cs : List Char) : Substituted [] cs cs := by
  induction cs with
  | nil => exact .done
  | cons a rest ih => exact .kept nofun ih

/-- A text is translated by a mapping of texts as the table of its pairs says. -/
theorem translate_tableValue (h : IsTable pairs) (s : String) :
    translate (.text s) (Like.tableValue pairs) = ((ofNamed pairs).apply s).map .text := by
  by_cases hne : pairs = []
  · subst hne
    rw [(substituted_nil s.toList).apply_eq h, String.ofList_toList]
    rfl
  · rw [translate, ofValue_tableValue hne]
    rfl

theorem Substituted.translate_eq (h : IsTable pairs) {s : String} {out : List Char}
    (hs : Substituted pairs s.toList out) :
    translate (.text s) (Like.tableValue pairs) = .ok (.text (String.ofList out)) := by
  rw [translate_tableValue h, hs.apply_eq h]
  rfl

/-- What is replaced is a key of the table. -/
theorem mem_of_hit_mem_stretches {keys : List (List Char)} {covered : Nat} {cs key : List Char}
    (h : .hit key ∈ stretches keys covered cs) : key ∈ keys := by
  fun_induction stretches keys covered cs with
  | case1 covered hnil =>
    obtain ⟨⟩ := List.mem_singleton.1 h
    exact hnil
  | case2 => cases h
  | case3 covered c cs ih => exact ih h
  | case4 c cs hfound ih =>
    simp only [List.mem_cons, Stretch.hit.injEq, reduceCtorEq, false_or] at h
    rcases h with rfl | h
    · exact List.mem_of_find?_eq_some hfound
    · exact ih h
  | case5 c cs d tail hfound ih =>
    simp only [List.mem_cons, Stretch.hit.injEq] at h
    rcases h with rfl | h
    · exact List.mem_of_find?_eq_some hfound
    · exact ih h
  | case6 c cs hfound ih =>
    simp only [List.mem_cons, reduceCtorEq, false_or] at h
    exact ih h

/-- **Translation substitutes the longest keys in one pass from the left.** It succeeds for every
text and every mapping of texts that are not empty to texts: the result is what the text becomes
when, from the left, the longest key that starts at a position is replaced, and a character at which
no key starts stays. All that is looked up are keys of the mapping, and the order of its pairs does
not count. -/
theorem translate_scans_longest (h : IsTable pairs) (s : String) :
    ∃ t : String, translate (.text s) (Like.tableValue pairs) = .ok (.text t) ∧
      (∀ out, Substituted pairs s.toList out ↔ out = t.toList) ∧
      (∀ key, .hit key ∈ stretches (tried (keysOf pairs)) 0 s.toList → key ∈ keysOf pairs) ∧
      ∀ others, others.Perm pairs →
        translate (.text s) (Like.tableValue others) = .ok (.text t) := by
  obtain ⟨out, hout⟩ := exists_substituted h s.toList
  refine ⟨String.ofList out, hout.translate_eq h, fun other => ⟨fun hother => ?_, ?_⟩, ?_, ?_⟩
  · have heq := (hother.translate_eq h).symm.trans (hout.translate_eq h)
    rw [String.toList_ofList, ← String.ofList_inj]
    simpa using heq
  · rintro rfl
    rwa [String.toList_ofList]
  · exact fun key hkey => mem_tried.1 (mem_of_hit_mem_stretches hkey)
  · intro others hperm
    exact (hout.congr fun pair => hperm.mem_iff.symm).translate_eq (h.perm hperm)

/-- Keys that begin with other keys, and that occur in replacements. -/
def overlapping : List (String × String) :=
  [("a", "ab"), ("ab", "a"), ("abc", "%"), ("ba", "c"), ("c", "abc")]

theorem translate_scans_longest_overlapping :
    IsTable overlapping ∧ ∃ t : String,
      translate (.text "aabcabba") (Like.tableValue overlapping) = .ok (.text t) ∧
        (∀ out, Substituted overlapping "aabcabba".toList out ↔ out = t.toList) ∧
        t = "ab%ac" ∧ ∀ others, others.Perm overlapping →
          translate (.text "aabcabba") (Like.tableValue others) = .ok (.text t) := by
  have htable : IsTable overlapping := ⟨by decide, by decide⟩
  obtain ⟨t, ht, hsubstituted, -, hperm⟩ := translate_scans_longest htable "aabcabba"
  refine ⟨htable, t, ht, hsubstituted, ?_, hperm⟩
  have hwritten : translate (.text "aabcabba") (Like.tableValue overlapping) =
      .ok (.text "ab%ac") := rfl
  rw [hwritten] at ht
  cases ht
  rfl

end SearchSql.Replacement
