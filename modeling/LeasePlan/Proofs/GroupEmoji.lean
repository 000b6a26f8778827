import Mathlib
import LeasePlan.Proofs.EmojiText

namespace LeasePlan.Emoji

/-- The names in a list in which each name stands before its code points. -/
def entriesOf : List (List Char) → List (List Char × List Char)
  | n :: code :: r => (n, code) :: entriesOf r
  | _ => []

theorem exists_entry {name e : List Char} {l : List (List Char)} (h : findIn name l = some e) :
    ∃ code, (name, code) ∈ entriesOf l ∧ e = charsOf code := by
  fun_induction findIn name l with
  | case1 code r =>
    cases h
    exact ⟨code, List.mem_cons_self, rfl⟩
  | case2 n code r hne ih =>
    obtain ⟨found, hfound, he⟩ := ih h
    exact ⟨found, List.mem_cons_of_mem _ hfound, he⟩
  | case3 => cases h

/-- A character of the groups of addresses and ranges. -/
def isGroupChar (c : Char) : Bool :=
  ('0' ≤ c && c ≤ '9') || ('a' ≤ c && c ≤ 'f') || c = '.' || c = '-'

/-- The names that are made of characters of groups, with their emoji. -/
def groupEmoji : List (List Char × Char) :=
  [(['a'], '🅰'), (['a', 'b'], '🆎'), (['a', 'b', 'c'], '🔤'), (['a', 'b', 'c', 'd'], '🔡'),
    (['b'], '🅱'), (['b', 'e', 'd'], '🛏'), (['b', 'e', 'e'], '🐝'), (['c', 'd'], '💿'),
    (['1', '0', '0'], '💯'), (['1', '2', '3', '4'], '🔢'), (['-', '1'], '👎')]

def groupNames : List (List Char) := groupEmoji.map Prod.fst

def isGroupEntry (e : List Char × List Char) : Bool :=
  match charsOf e.2 with
  | [c] => groupEmoji.contains (e.1, c)
  | _ => false

/-- All names of a line that are made of characters of groups are among the listed ones. -/
def Listed (line : String) : Prop :=
  ∀ e ∈ entriesOf (Text.parts ' ' line.toList), (!e.1.all isGroupChar || isGroupEntry e) = true

/-- As the characters of a literal are known at once, nothing has to be decoded. -/
theorem listed_of_ofList {line : String} {cs : List Char} (hline : line = String.ofList cs)
    (h : ((entriesOf (Text.parts ' ' cs)).all fun e =>
      !e.1.all isGroupChar || isGroupEntry e) = true) : Listed line := by
  intro e he
  rw [hline, String.toList_ofList] at he
  exact List.all_eq_true.1 h e he

theorem listed_namesOf {c : Char} (hc : isGroupChar c = true) :
    ∀ line ∈ namesOf c, Listed line := by
  unfold namesOf
  split
  all_goals first
    | exact absurd hc (by decide)
    | repeat refine List.forall_mem_cons.2 ⟨listed_of_ofList rfl (by decide +kernel), ?_⟩
      exact List.forall_mem_nil _

theorem isGroupEntry_of_find? {name e : List Char} (hname : ∀ c ∈ name, isGroupChar c = true)
    (h : find? name = some e) : ∃ c, (name, c) ∈ groupEmoji ∧ e = [c] := by
  cases name with
  | nil => cases h
  | cons c r =>
    rw [find?] at h
    obtain ⟨line, hline, hfind⟩ := List.exists_of_findSome?_eq_some h
    obtain ⟨code, hcode, rfl⟩ := exists_entry hfind
    have hlisted := listed_namesOf (hname c List.mem_cons_self) line hline _ hcode
    rw [List.all_eq_true.2 hname, Bool.not_true, Bool.false_or, isGroupEntry] at hlisted
    split at hlisted
    next d hd => exact ⟨d, List.contains_iff_mem.1 hlisted, hd⟩
    · cases hlisted

/-- A name is found if it stands in a line of its first letter. -/
theorem isSome_find? {c : Char} {r : List Char} {line : String} {cs : List Char}
    (hmem : line ∈ namesOf c) (hline : line = String.ofList cs)
    (h : (findIn (c :: r) (Text.parts ' ' cs)).isSome = true) : (find? (c :: r)).isSome = true := by
  rw [find?, List.findSome?_isSome_iff]
  refine ⟨line, hmem, ?_⟩
  rwa [hline, String.toList_ofList]

theorem isSome_find?_groupNames : ∀ n ∈ groupNames, (find? n).isSome = true := by
  have hA (k : Nat) (h : k < namesA.length) : namesA[k] ∈ namesOf 'a' := List.getElem_mem h
  have hB (k : Nat) (h : k < namesB.length) : namesB[k] ∈ namesOf 'b' := List.getElem_mem h
  have hC (k : Nat) (h : k < namesC.length) : namesC[k] ∈ namesOf 'c' := List.getElem_mem h
  have hdigit (k : Nat) (h : k < namesOther.length) : namesOther[k] ∈ namesOf '1' :=
    List.getElem_mem h
  have hdash (k : Nat) (h : k < namesOther.length) : namesOther[k] ∈ namesOf '-' :=
    List.getElem_mem h
  simp only [groupNames, groupEmoji, List.map_cons, List.map_nil, List.forall_mem_cons]
  refine ⟨?_, ?_, ?_, ?_, ?_, ?_, ?_, ?_, ?_, ?_, ?_, List.forall_mem_nil _⟩
  · exact isSome_find? (hA 0 (by decide)) rfl (by decide +kernel)
  · exact isSome_find? (hA 0 (by decide)) rfl (by decide +kernel)
  · exact isSome_find? (hA 1 (by decide)) rfl (by decide +kernel)
  · exact isSome_find? (hA 1 (by decide)) rfl (by decide +kernel)
  · exact isSome_find? (hB 0 (by decide)) rfl (by decide +kernel)
  · exact isSome_find? (hB 38 (by decide)) rfl (by decide +kernel)
  · exact isSome_find? (hB 38 (by decide)) rfl (by decide +kernel)
  · exact isSome_find? (hC 11 (by decide)) rfl (by decide +kernel)
  · exact isSome_find? (hdigit 0 (by decide)) rfl (by decide +kernel)
  · exact isSome_find? (hdigit 0 (by decide)) rfl (by decide +kernel)
  · exact isSome_find? (hdash 0 (by decide)) rfl (by decide +kernel)

section Groups

variable {n : List Char}

theorem splitWish_of_groupChars (h : ∀ c ∈ n, isGroupChar c = true) : splitWish n = (n, []) := by
  have hmissing {wish : List Char} {d : Char} (hd : d ∈ wish) (hno : isGroupChar d = false) :
      ¬ wish.isSuffixOf n = true := by
    intro hs
    have hmem : d ∈ n := (List.isSuffixOf_iff_suffix.1 hs).subset hd
    exact Bool.false_ne_true (hno.symm.trans (h d hmem))
  have hemoji : 'm' ∈ "-emoji".toList := by decide
  have htext : 't' ∈ "-text".toList := by decide
  rw [splitWish, if_neg (hmissing hemoji (by decide)), if_neg (hmissing htext (by decide))]

theorem toNat_of_groupChar {c : Char} (h : isGroupChar c = true) :
    (45 ≤ c.toNat ∧ c.toNat ≤ 57) ∨ (97 ≤ c.toNat ∧ c.toNat ≤ 102) := by
  simp only [isGroupChar, Bool.or_eq_true, Bool.and_eq_true, decide_eq_true_eq] at h
  rcases h with ((⟨h0, h9⟩ | ⟨ha, hf⟩) | rfl) | rfl
  · exact .inl ⟨Nat.le_trans (by decide) h0, h9⟩
  · exact .inr ⟨ha, hf⟩
  · exact .inl (by decide)
  · exact .inl (by decide)

theorem lower_of_groupChar {c : Char} (h : isGroupChar c = true) : Text.lower c = c := by
  have hrange := toNat_of_groupChar h
  rw [Text.lower]
  simp only [Bool.or_eq_true, Bool.and_eq_true, decide_eq_true_eq]
  rw [if_neg (by omega), if_neg (by omega), if_neg (by omega)]

theorem find?_wish_of_groupChars (h : ∀ c ∈ n, isGroupChar c = true) :
    find? ((splitWish n).1.map Text.lower) = find? n := by
  rw [splitWish_of_groupChars h, List.map_congr_left fun c hc => lower_of_groupChar (h c hc),
    List.map_id']

theorem isKnown_iff_of_groupChars (h : ∀ c ∈ n, isGroupChar c = true) :
    isKnown n = true ↔ n ∈ groupNames := by
  rw [isKnown, find?_wish_of_groupChars h]
  constructor
  · intro hsome
    obtain ⟨e, he⟩ := Option.isSome_iff_exists.1 hsome
    obtain ⟨c, hc, -⟩ := isGroupEntry_of_find? h he
    exact List.mem_map_of_mem hc
  · exact isSome_find?_groupNames n

theorem shown_of_groupChars (h : ∀ c ∈ n, isGroupChar c = true) (hknown : isKnown n = true) :
    ∃ c, (n, c) ∈ groupEmoji ∧ shown n = [c] := by
  have hfind := find?_wish_of_groupChars h
  rw [isKnown] at hknown
  obtain ⟨e, he⟩ := Option.isSome_iff_exists.1 hknown
  obtain ⟨c, hc, rfl⟩ := isGroupEntry_of_find? h (hfind.symm.trans he)
  refine ⟨c, hc, ?_⟩
  rw [shown]
  dsimp only
  rw [he, splitWish_of_groupChars h]
  rfl

theorem isSpace_of_groupChar {c : Char} (h : isGroupChar c = true) : Text.isSpace c = false := by
  have hrange := toNat_of_groupChar h
  simp only [Text.isSpace, Text.isBlank, Bool.or_eq_false_iff, Bool.and_eq_false_iff,
    decide_eq_false_iff_not]
  omega

end Groups

/-- A text of groups with colons and points between them. -/
def IsGroups (cs : List Char) : Prop := ∀ c ∈ cs, c = ':' ∨ isGroupChar c = true

/-- The names that are looked up in a text of groups. -/
def namesIn (cs : List Char) : List (List Char) := betweenColons (Text.parts ':' cs)

/-- No listed name is looked up in a text of groups. -/
def IsNameless (cs : List Char) : Prop := ∀ n ∈ namesIn cs, n ∉ groupNames

instance (cs : List Char) : Decidable (IsNameless cs) :=
  List.decidableBAll (fun n => n ∉ groupNames) (namesIn cs)

section Texts

variable {cs : List Char}

theorem mem_of_mem_betweenColons {n : List Char} {ps : List (List Char)}
    (h : n ∈ betweenColons ps) : n ∈ ps := by
  fun_induction betweenColons ps with
  | case1 p name next ps ih =>
    rcases List.mem_cons.1 h with rfl | h
    · exact List.mem_cons_of_mem p List.mem_cons_self
    · exact List.mem_cons_of_mem p (List.mem_cons_of_mem name (ih h))
  | case2 => cases h

theorem IsGroups.of_mem_parts (h : IsGroups cs) {p : List Char} (hp : p ∈ Text.parts ':' cs) :
    ∀ c ∈ p, isGroupChar c = true := by
  intro c hc
  refine (h c (Text.subset_of_mem_parts hp hc)).resolve_left ?_
  rintro rfl
  exact Text.not_mem_of_mem_parts hp hc

theorem IsGroups.isSpace (h : IsGroups cs) {c : Char} (hc : c ∈ cs) : Text.isSpace c = false := by
  rcases h c hc with rfl | hgroup
  · decide
  · exact isSpace_of_groupChar hgroup

theorem forall_namesIn_iff (h : IsGroups cs) :
    (∀ n ∈ namesIn cs, isKnown n = false) ↔ IsNameless cs := by
  apply forall₂_congr
  intro n hn
  have hchars := h.of_mem_parts (mem_of_mem_betweenColons hn)
  rw [← isKnown_iff_of_groupChars hchars, Bool.not_eq_true]

theorem candidates_of_groups (h : IsGroups cs) : candidates cs = namesIn cs := by
  rw [candidates, List.splitOnP_eq_singleton fun c hc => h.isSpace hc, List.flatMap_singleton]
  rfl

/-- A text of groups stays as it is exactly if no listed name is looked up in it. -/
theorem replace_eq_self_iff_of_groups (h : IsGroups cs) : replace cs = cs ↔ IsNameless cs := by
  have hshown : ∀ n ∈ betweenColons (Text.parts ':' cs), isKnown n = true →
      ∃ c ∈ (shown n).head?, c ≠ ':' := by
    intro n hn hknown
    have hchars := h.of_mem_parts (mem_of_mem_betweenColons hn)
    obtain ⟨c, hc, heq⟩ := shown_of_groupChars hchars hknown
    refine ⟨c, heq ▸ rfl, ?_⟩
    have hno : ∀ e ∈ groupEmoji, e.2 ≠ ':' := by decide
    exact hno _ hc
  have hiff := replace_joined_eq_self_iff
    (fun p hp => IsBody.of_mem_parts (fun c hc => h.isSpace hc) hp) hshown
  rw [Text.joined_parts] at hiff
  exact hiff.trans (forall_namesIn_iff h)

theorem isBody_of_groupChars {p : List Char} (h : ∀ c ∈ p, isGroupChar c = true) : IsBody p := by
  intro c hc
  refine ⟨?_, isSpace_of_groupChar (h c hc)⟩
  rintro rfl
  exact Bool.false_ne_true (h ':' hc)

theorem shown_le_of_groupChars {n : List Char} (h : ∀ c ∈ n, isGroupChar c = true) :
    (shown n).length ≤ n.length + 2 ∧
      ∀ c ∈ shown n, c = ':' ∨ c ∈ n ∨ c ∈ groupEmoji.map Prod.snd := by
  cases hknown : isKnown n with
  | false =>
    rw [shown_of_unknown hknown]
    simp only [List.length_cons, List.length_append, List.length_nil, List.mem_cons,
      List.mem_append, List.not_mem_nil, or_false]
    exact ⟨Nat.le_refl _, by tauto⟩
  | true =>
    obtain ⟨c, hc, heq⟩ := shown_of_groupChars h hknown
    rw [heq, List.length_singleton, List.forall_mem_singleton]
    exact ⟨by omega, .inr (.inr (List.mem_map_of_mem hc))⟩

theorem replace_joined_of_groups {ps : List (List Char)}
    (hps : ∀ p ∈ ps, ∀ c ∈ p, isGroupChar c = true) :
    (replace (Text.joined ':' ps)).length ≤ (Text.joined ':' ps).length ∧
      ∀ c ∈ replace (Text.joined ':' ps),
        c ∈ Text.joined ':' ps ∨ c ∈ groupEmoji.map Prod.snd := by
  induction ps using betweenColons.induct with
  | case1 p name next ps ih =>
    rw [List.forall_mem_cons, List.forall_mem_cons] at hps
    obtain ⟨hp, hname, hps⟩ := hps
    obtain ⟨hlength, hmem⟩ := ih hps
    have hjoined : Text.joined ':' (p :: name :: next :: ps) =
        p ++ ':' :: (name ++ ':' :: Text.joined ':' (next :: ps)) := rfl
    rw [hjoined, replace_between (isBody_of_groupChars hp).colon_not_mem
      (isBody_of_groupChars hname)]
    obtain ⟨hshownLength, hshownMem⟩ := shown_le_of_groupChars hname
    constructor
    · simp only [List.length_append, List.length_cons]
      omega
    · intro c hc
      simp only [List.mem_append, List.mem_cons] at hc ⊢
      rcases hc with hc | hc | hc
      · exact .inl (.inl hc)
      · have hcase := hshownMem c hc
        tauto
      · have hcase := hmem c hc
        tauto
  | case2 ps hshort =>
    have hsame : replace (Text.joined ':' ps) = Text.joined ':' ps := by
      have hnone : betweenColons ps = [] := by
        rw [betweenColons]
        exact hshort
      have hnames (P : List Char → Prop) : ∀ n ∈ betweenColons ps, P n := by
        rw [hnone]
        exact List.forall_mem_nil _
      exact (replace_joined_eq_self_iff (fun p hp => isBody_of_groupChars (hps p hp))
        (hnames _)).2 (hnames _)
    rw [hsame]
    exact ⟨Nat.le_refl _, fun c hc => .inl hc⟩

/-- An emoji takes no more room than its name with the colons. -/
theorem replace_of_groups (h : IsGroups cs) :
    (replace cs).length ≤ cs.length ∧ ∀ c ∈ replace cs, c ∈ cs ∨ c ∈ groupEmoji.map Prod.snd := by
  have hjoined := replace_joined_of_groups fun p hp => h.of_mem_parts hp
  rwa [Text.joined_parts] at hjoined

end Texts

end LeasePlan.Emoji
