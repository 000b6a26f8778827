import Mathlib
import LeasePlan.Config.Dump
import LeasePlan.Document.Scalar
import LeasePlan.Proofs.Numerals
import LeasePlan.Proofs.RawTexts

namespace LeasePlan

namespace Text

variable {α : Type} {sep : α}

theorem not_mem_joined {c : α} {ps : List (List α)} (hc : c ≠ sep) (h : ∀ p ∈ ps, c ∉ p) :
    c ∉ joined sep ps := by
  induction ps with
  | nil => exact List.not_mem_nil
  | cons p ps ih =>
    rw [List.forall_mem_cons] at h
    cases ps with
    | nil => exact h.1
    | cons q qs =>
      rw [joined, List.mem_append, List.mem_cons, not_or, not_or]
      exact ⟨h.1, hc, ih h.2⟩

theorem mem_joined {ps : List (List α)} (h : 2 ≤ ps.length) : sep ∈ joined sep ps := by
  match ps, h with
  | p :: q :: qs, _ =>
    rw [joined]
    exact List.mem_append_right p List.mem_cons_self

theorem subset_joined {p : List α} {ps : List (List α)} (hp : p ∈ ps) :
    p ⊆ joined sep ps := by
  induction ps with
  | nil => cases hp
  | cons q ps ih =>
    cases ps with
    | nil => exact (List.mem_singleton.1 hp) ▸ List.Subset.refl p
    | cons r rs =>
      rw [joined]
      rcases List.mem_cons.1 hp with rfl | hp
      · exact List.subset_append_left p _
      · exact fun c hc => List.mem_append_right q (List.mem_cons_of_mem sep (ih hp hc))

variable [DecidableEq α]

theorem parts_of_not_mem {cs : List α} (h : sep ∉ cs) : parts sep cs = [cs] := by
  induction cs with
  | nil => rfl
  | cons c cs ih =>
    rw [List.mem_cons, not_or] at h
    rw [parts, if_neg (Ne.symm h.1), ih h.2]

theorem parts_append_sep (sep : α) (a b : List α) :
    parts sep (a ++ sep :: b) = parts sep a ++ parts sep b := by
  induction a with
  | nil => simp only [List.nil_append, parts, ↓reduceIte, List.singleton_append]
  | cons c a ih =>
    rw [List.cons_append, parts, parts, ih]
    by_cases h : c = sep
    · rw [if_pos h, if_pos h, List.cons_append]
    · rw [if_neg h, if_neg h]
      cases hp : parts sep a with
      | nil => exact absurd hp (parts_ne_nil sep a)
      | cons p ps => rfl

theorem parts_joined {ps : List (List α)} (hne : ps ≠ []) (h : ∀ p ∈ ps, sep ∉ p) :
    parts sep (joined sep ps) = ps := by
  induction ps with
  | nil => exact absurd rfl hne
  | cons p ps ih =>
    rw [List.forall_mem_cons] at h
    cases ps with
    | nil => exact parts_of_not_mem h.1
    | cons q qs =>
      rw [joined, parts_append_sep, parts_of_not_mem h.1, ih (List.cons_ne_nil q qs) h.2]
      rfl

/-- A text without the separator belongs to the first piece of every text that it begins. -/
theorem exists_parts_append {a : List α} (h : sep ∉ a) (b : List α) :
    ∃ p ps, parts sep (a ++ b) = (a ++ p) :: ps := by
  induction a with
  | nil =>
    cases hp : parts sep b with
    | nil => exact absurd hp (parts_ne_nil sep b)
    | cons p ps => exact ⟨p, ps, hp⟩
  | cons c a ih =>
    rw [List.mem_cons, not_or] at h
    obtain ⟨p, ps, hp⟩ := ih h.2
    refine ⟨p, ps, ?_⟩
    rw [List.cons_append, parts, if_neg (Ne.symm h.1), hp]
    rfl

theorem subset_of_mem_parts {cs p : List α} (hp : p ∈ parts sep cs) : p ⊆ cs := by
  have h : p ⊆ joined sep (parts sep cs) := subset_joined hp
  rwa [joined_parts] at h

theorem not_mem_of_mem_parts {cs p : List α} (h : p ∈ parts sep cs) : sep ∉ p := by
  induction cs generalizing p with
  | nil =>
    obtain rfl := List.mem_singleton.1 h
    exact List.not_mem_nil
  | cons c cs ih =>
    rw [parts] at h
    by_cases hc : c = sep
    · rw [if_pos hc, List.mem_cons] at h
      rcases h with rfl | h
      · exact List.not_mem_nil
      · exact ih h
    · rw [if_neg hc] at h
      cases hps : parts sep cs with
      | nil => exact absurd hps (parts_ne_nil sep cs)
      | cons q qs =>
        rw [hps] at h ih
        rcases List.mem_cons.1 h with rfl | h
        · rw [List.mem_cons, not_or]
          exact ⟨Ne.symm hc, ih List.mem_cons_self⟩
        · exact ih (List.mem_cons_of_mem q h)

theorem cut_of_not_mem {cs : List α} (h : sep ∉ cs) : cut sep cs = (cs, none) := by
  induction cs with
  | nil => rfl
  | cons c cs ih =>
    rw [List.mem_cons, not_or] at h
    rw [cut, if_neg (Ne.symm h.1), ih h.2]

theorem cut_append {a : List α} (h : sep ∉ a) (b : List α) :
    cut sep (a ++ sep :: b) = (a, some b) := by
  induction a with
  | nil => rw [List.nil_append, cut, if_pos rfl]
  | cons c a ih =>
    rw [List.mem_cons, not_or] at h
    rw [List.cons_append, cut, if_neg (Ne.symm h.1), ih h.2]

theorem subset_of_cut {cs r : List α} (h : (cut sep cs).2 = some r) : r ⊆ cs := by
  induction cs with
  | nil => cases h
  | cons c cs ih =>
    rw [cut] at h
    split_ifs at h
    · cases h
      exact List.subset_cons_self c r
    · exact List.subset_cons_of_subset c (ih h)

end Text

namespace Address

theorem length_fields (base count n : Nat) : (fields base count n).length = count := by
  induction count generalizing n with
  | zero => rfl
  | succ count ih => rw [fields, List.length_append, ih, List.length_singleton]

theorem lt_of_mem_fields {base count n d : Nat} (hb : 0 < base) (h : d ∈ fields base count n) :
    d < base := by
  induction count generalizing n with
  | zero => cases h
  | succ count ih =>
    rcases List.mem_append.1 h with h | h
    · exact ih h
    · rw [List.mem_singleton.1 h]
      exact Nat.mod_lt n hb

theorem ofDigits_fields (base count n : Nat) :
    Numeral.ofDigits base (fields base count n) = n % base ^ count := by
  induction count generalizing n with
  | zero => rw [pow_zero, Nat.mod_one]; rfl
  | succ count ih =>
    rw [fields, Numeral.ofDigits_concat, ih, pow_succ', Nat.mod_mul, Nat.add_comm, Nat.mul_comm]

theorem fields_ofDigits {base : Nat} {ds : List Nat} (h : ∀ d ∈ ds, d < base) :
    fields base ds.length (Numeral.ofDigits base ds) = ds := by
  induction ds using List.reverseRecOn with
  | nil => rfl
  | append_singleton ds d ih =>
    have hd : d < base := h d List.mem_concat_self
    have hdiv : (base * Numeral.ofDigits base ds + d) / base = Numeral.ofDigits base ds := by
      rw [Nat.mul_add_div (Nat.zero_lt_of_lt hd), Nat.div_eq_of_lt hd, Nat.add_zero]
    have hmod : (base * Numeral.ofDigits base ds + d) % base = d := by
      rw [Nat.mul_add_mod, Nat.mod_eq_of_lt hd]
    rw [List.length_append, List.length_singleton, fields, Numeral.ofDigits_concat, Nat.mul_comm,
      hdiv, hmod, ih fun e he => h e (List.mem_append_left [d] he)]

theorem octet?_decimal {n : Nat} (h : n < 256) : octet? (Numeral.decimal n) = some n := by
  have hlen : (Numeral.decimal n).length ≤ 3 :=
    (Nat.length_toDigits_le_iff (by decide) (by decide)).2 (by omega)
  have hzero : ¬ ((Numeral.decimal n).head? = some '0' ∧ (Numeral.decimal n).length ≠ 1) := by
    rintro ⟨hhead, hone⟩
    by_cases hn : n = 0
    · rw [hn] at hone
      exact hone rfl
    · exact Numeral.head?_decimal hn hhead
  rw [octet?, if_neg (Nat.not_lt.2 hlen), if_neg (by simpa using hzero), Numeral.decimal?_decimal,
    Option.filter_some, if_pos (by simpa using h)]

theorem octet?_eq_none {c : Char} {cs : List Char} (hc : c ∈ cs)
    (h : Numeral.digit? c = none) : octet? cs = none := by
  rw [octet?, Numeral.decimal?_eq_none hc h]
  split
  · rfl
  · split <;> rfl

theorem readDotted_dotted {n : Nat} (h : n < Family.v4.size) : readDotted (dotted n) = some n := by
  have hoctets : (Text.parts '.' (dotted n)).mapM octet? = some (octets n) := by
    rw [dotted, Text.parts_joined]
    · exact mapM_map_eq_some fun d hd => octet?_decimal (lt_of_mem_fields (by decide) hd)
    · exact List.ne_nil_of_length_pos (by rw [List.length_map, octets, length_fields]; decide)
    · rintro p hp
      obtain ⟨d, -, rfl⟩ := List.mem_map.1 hp
      exact Numeral.not_mem_decimal rfl d
  rw [readDotted, hoctets, Option.bind_eq_bind, Option.bind_some, octets, length_fields, if_pos rfl,
    ofDigits_fields]
  exact congrArg some (Nat.mod_eq_of_lt h)

/-- Four octets have no colon. -/
theorem readDotted_eq_none {a : List Char} (hc : ':' ∈ a) (hd : '.' ∉ a) (b : List Char) :
    readDotted (a ++ b) = none := by
  obtain ⟨p, ps, hp⟩ := Text.exists_parts_append hd b
  rw [readDotted, mapM_eq_none (x := a ++ p) (by rw [hp]; exact List.mem_cons_self)
    (octet?_eq_none (List.mem_append_left p hc) rfl)]
  rfl

theorem group?_hexadecimal {n : Nat} (h : n < 65536) : group? (Numeral.hexadecimal n) = some n := by
  have hlen : (Numeral.hexadecimal n).length ≤ 4 :=
    (Nat.length_toDigits_le_iff (by decide) (by decide)).2 (by omega)
  rw [group?, if_neg (Nat.not_lt.2 hlen), Numeral.hexadecimal?_hexadecimal]

theorem not_mem_hexGroups {c : Char} (hc : c ≠ ':') (h : Numeral.hexDigit? c = none)
    (gs : List Nat) : c ∉ hexGroups gs := by
  refine Text.not_mem_joined hc fun p hp => ?_
  obtain ⟨g, -, rfl⟩ := List.mem_map.1 hp
  exact Numeral.not_mem_hexadecimal h g

/-- The pieces of written groups, of which there is one also if there is no group. -/
theorem parts_hexGroups (gs : List Nat) : Text.parts ':' (hexGroups gs) =
    if gs = [] then [[]] else gs.map Numeral.hexadecimal := by
  split
  next h => rw [h]; rfl
  next h =>
    refine Text.parts_joined (mt List.map_eq_nil_iff.1 h) fun p hp => ?_
    obtain ⟨g, -, rfl⟩ := List.mem_map.1 hp
    exact Numeral.not_mem_hexadecimal rfl g

theorem hexadecimal_ne_nil (n : Nat) : Numeral.hexadecimal n ≠ [] := Nat.toDigits_ne_nil

theorem mapM_group? {gs : List Nat} (h : ∀ g ∈ gs, g < 65536) :
    (gs.map Numeral.hexadecimal).mapM group? = some gs :=
  mapM_map_eq_some fun g hg => group?_hexadecimal (h g hg)

theorem side?_parts {gs : List Nat} (h : ∀ g ∈ gs, g < 65536) :
    side? (Text.parts ':' (hexGroups gs)) = some gs := by
  rw [parts_hexGroups, side?]
  cases gs with
  | nil => rfl
  | cons g gs =>
    rw [if_neg (List.cons_ne_nil g gs), if_neg, mapM_group? h]
    intro heq
    exact hexadecimal_ne_nil g (List.cons.inj heq).1

/-- All pieces of written groups but the first are not empty. -/
theorem span_tail_parts (gs : List Nat) (rest : List (List Char)) :
    ((Text.parts ':' (hexGroups gs)).tail ++ rest).span (fun p => !p.isEmpty) =
      ((Text.parts ':' (hexGroups gs)).tail ++ rest.takeWhile (fun p => !p.isEmpty),
        rest.dropWhile fun p => !p.isEmpty) := by
  have hne : ∀ p ∈ (Text.parts ':' (hexGroups gs)).tail, (!p.isEmpty) = true := by
    rw [parts_hexGroups]
    cases gs with
    | nil => exact nofun
    | cons g gs =>
      intro p hp
      obtain ⟨g', -, rfl⟩ := List.mem_map.1 hp
      simp only [List.isEmpty_eq_false_iff.2 (hexadecimal_ne_nil g'), Bool.not_false]
  rw [List.span_eq_takeWhile_dropWhile, List.takeWhile_append_of_pos hne,
    List.dropWhile_append_of_pos hne]

theorem readGroups_hexGroups {gs : List Nat} (hlen : gs.length = 8) (h : ∀ g ∈ gs, g < 65536) :
    readGroups (Text.parts ':' (hexGroups gs)) = some gs := by
  have hspan := span_tail_parts gs []
  have hgs : (Text.parts ':' (hexGroups gs)).mapM group? = some gs := by
    rw [parts_hexGroups, if_neg (by rintro rfl; cases hlen), mapM_group? h]
  cases hp : Text.parts ':' (hexGroups gs) with
  | nil => exact absurd hp (Text.parts_ne_nil _ _)
  | cons first inner =>
    rw [hp, List.tail_cons, List.append_nil, List.takeWhile_nil, List.append_nil,
      List.dropWhile_nil] at hspan
    rw [hp] at hgs
    simp only [readGroups, hspan, hgs, Option.bind_eq_bind, Option.bind_some, hlen, ↓reduceIte]

/-- A gap stands for as many zeros as the groups on its sides leave. -/
theorem readGroups_gap {hi lo : List Nat} (hlen : hi.length + lo.length < 8)
    (hhi : ∀ g ∈ hi, g < 65536) (hlo : ∀ g ∈ lo, g < 65536) :
    readGroups (Text.parts ':' (hexGroups hi ++ ':' :: ':' :: hexGroups lo)) =
      some (hi ++ List.replicate (8 - (hi.length + lo.length)) 0 ++ lo) := by
  have hgap : Text.parts ':' (':' :: hexGroups lo) = [] :: Text.parts ':' (hexGroups lo) := by
    simp only [Text.parts, ↓reduceIte]
  have hspan := span_tail_parts hi ([] :: Text.parts ':' (hexGroups lo))
  have hside := side?_parts hhi
  have hside' := side?_parts hlo
  rw [Text.parts_append_sep, hgap]
  cases hl : Text.parts ':' (hexGroups lo) with
  | nil => exact absurd hl (Text.parts_ne_nil _ _)
  | cons low lows =>
    cases hh : Text.parts ':' (hexGroups hi) with
    | nil => exact absurd hh (Text.parts_ne_nil _ _)
    | cons first inner =>
      rw [hh, hl, List.tail_cons] at hspan
      rw [hh] at hside
      rw [hl] at hside'
      simp only [List.takeWhile_cons, List.dropWhile_cons, List.isEmpty_nil, Bool.not_true,
        Bool.false_eq_true, ↓reduceIte, List.append_nil] at hspan
      simp only [List.cons_append, readGroups, hspan, hside, hside', Option.bind_eq_bind,
        Option.bind_some, hlen, ↓reduceIte]

theorem expandLast_eq {ps : List (List Char)} (h : ∀ p ∈ ps, '.' ∉ p) :
    expandLast ps = some ps := by
  induction ps with
  | nil => rfl
  | cons p ps ih =>
    rw [List.forall_mem_cons] at h
    cases ps with
    | nil =>
      simp only [expandLast, List.contains_eq_mem, h.1, decide_false, Bool.false_eq_true,
        ↓reduceIte]
    | cons q qs => rw [expandLast, ih h.2, Option.map_some]

theorem take_eq_replicate {k : Nat} {gs : List Nat} (h : k ≤ zeroRun gs) :
    gs.take k = List.replicate k 0 := by
  induction gs generalizing k with
  | nil =>
    rw [Nat.le_zero.1 h]
    rfl
  | cons g gs ih =>
    cases k with
    | zero => rfl
    | succ k =>
      rw [zeroRun, List.takeWhile_cons] at h
      by_cases hg : g = 0
      · rw [if_pos (by simpa only [decide_eq_true_eq] using hg), List.length_cons] at h
        rw [List.take_succ_cons, hg, ih (Nat.le_of_succ_le_succ h), List.replicate_succ]
      · rw [if_neg (by simpa only [decide_eq_true_eq] using hg)] at h
        cases h

/-- What the search for the longest gap keeps: where it starts there are so many zeros. -/
theorem longestGap_le (gs : List Nat) :
    (longestGap gs).2 ≤ zeroRun (gs.drop (longestGap gs).1) := by
  have hfold (is : List Nat) (best : Nat × Nat) (hbest : best.2 ≤ zeroRun (gs.drop best.1)) :
      let gap := is.foldl (fun best i =>
        if best.2 < zeroRun (gs.drop i) then (i, zeroRun (gs.drop i)) else best) best
      gap.2 ≤ zeroRun (gs.drop gap.1) := by
    induction is generalizing best with
    | nil => exact hbest
    | cons i is ih =>
      refine ih _ ?_
      dsimp only
      split
      · exact Nat.le_refl _
      · exact hbest
  exact hfold _ (0, 0) (Nat.zero_le _)

/-- The groups around the longest gap and the zeros in it are all groups. -/
theorem split_longestGap (gs : List Nat) :
    let gap := longestGap gs
    gs.take gap.1 ++ List.replicate gap.2 0 ++ gs.drop (gap.1 + gap.2) = gs := by
  intro gap
  rw [← take_eq_replicate (longestGap_le gs), ← List.drop_drop, List.append_assoc,
    List.take_append_drop, List.take_append_drop]

theorem length_longestGap (gs : List Nat) :
    let gap := longestGap gs
    (gs.take gap.1).length + gap.2 + (gs.drop (gap.1 + gap.2)).length = gs.length := by
  intro gap
  have h := congrArg List.length (split_longestGap gs)
  simpa only [List.length_append, List.length_replicate] using h

theorem not_mem_colons {c : Char} (hc : c ≠ ':') (h : Numeral.hexDigit? c = none) (n : Nat) :
    c ∉ colons n := by
  unfold colons
  dsimp only
  split
  · exact not_mem_hexGroups hc h _
  · simp only [List.mem_append, List.mem_cons, not_mem_hexGroups hc h, hc, or_self,
      not_false_eq_true]

theorem colon_mem_colons (n : Nat) : ':' ∈ colons n := by
  unfold colons
  dsimp only
  split
  · refine Text.mem_joined ?_
    rw [List.length_map, groups, length_fields]
    decide
  · exact List.mem_append_right _ List.mem_cons_self

theorem readGroups_colons (n : Nat) :
    readGroups (Text.parts ':' (colons n)) = some (groups n) := by
  have hlt : ∀ g ∈ groups n, g < 65536 := fun g hg => lt_of_mem_fields (by decide) hg
  have hlen : (groups n).length = 8 := length_fields _ _ _
  unfold colons
  dsimp only
  split
  · exact readGroups_hexGroups hlen hlt
  next hgap =>
    have hsum := length_longestGap (groups n)
    rw [hlen] at hsum
    have hzeros : 8 - (((groups n).take (longestGap (groups n)).1).length +
        ((groups n).drop ((longestGap (groups n)).1 + (longestGap (groups n)).2)).length) =
          (longestGap (groups n)).2 := by
      omega
    rw [readGroups_gap (by omega) (fun g hg => hlt g (List.mem_of_mem_take hg))
      (fun g hg => hlt g (List.mem_of_mem_drop hg)), hzeros, split_longestGap]

theorem readColons_colons {n : Nat} (h : n < Family.v6.size) : readColons (colons n) = some n := by
  have hdot : '.' ∉ colons n := not_mem_colons (by decide) rfl n
  have hparts : ∀ p ∈ Text.parts ':' (colons n), '.' ∉ p :=
    fun p hp hmem => hdot (Text.subset_of_mem_parts hp hmem)
  rw [readColons, expandLast_eq hparts, Option.bind_eq_bind, Option.bind_some, readGroups_colons,
    Option.map_some, groups, ofDigits_fields]
  exact congrArg some (Nat.mod_eq_of_lt h)

theorem text_v4 (n : Number4) : (v4 n).text = RawText.ofChars (dotted n.val) := List.append_nil _

theorem text_v6 (n : Number6) (z : Option Zone) :
    (v6 n z).text = RawText.ofChars (colons n.val) ++ zoneText z := rfl

theorem readV4_text (n : Number4) : readV4 (v4 n).text = some (v4 n) := by
  rw [text_v4, readV4, RawText.chars?_ofChars, Option.bind_eq_bind, Option.bind_some,
    readDotted_dotted n.isLt]
  exact dif_pos n.isLt

theorem readV4_colons (n : Nat) (rest : RawText) :
    readV4 (RawText.ofChars (colons n) ++ rest) = none := by
  rw [readV4]
  cases h : RawText.chars? (RawText.ofChars (colons n) ++ rest) with
  | none => rfl
  | some cs =>
    obtain ⟨b, rfl⟩ := RawText.exists_append_of_chars? h
    rw [Option.bind_eq_bind, Option.bind_some,
      readDotted_eq_none (colon_mem_colons n) (not_mem_colons (by decide) rfl n)]
    rfl

theorem readV6_text (n : Number6) (z : Option Zone) : readV6 (v6 n z).text = some (v6 n z) := by
  have hpercent : .char '%' ∉ RawText.ofChars (colons n.val) :=
    mt RawText.mem_ofChars.1 (not_mem_colons (by decide) rfl n.val)
  cases z with
  | none =>
    rw [text_v6, zoneText, List.append_nil, readV6, Text.cut_of_not_mem hpercent]
    dsimp only
    rw [RawText.chars?_ofChars, Option.bind_eq_bind, Option.bind_some, readColons_colons n.isLt]
    exact dif_pos n.isLt
  | some z =>
    rw [text_v6, zoneText, readV6, Text.cut_append hpercent]
    dsimp only
    rw [RawText.chars?_ofChars, Option.bind_eq_bind, Option.bind_some, readColons_colons n.isLt]
    exact (dif_pos n.isLt).trans (dif_pos z.valid)

/-- Reading undoes writing. -/
theorem parse?_text (a : Address) : parse? a.text = some a := by
  rw [parse?]
  cases a with
  | v4 n =>
    rw [readV4_text]
    rfl
  | v6 n z =>
    rw [readV6_text, text_v6, readV4_colons]
    rfl

end Address

theorem Data.address?_ofRaw (t : RawText) : (ofRaw t).address? = Address.parse? t := by
  cases h : t.isBroken with
  | false =>
    obtain ⟨s, rfl⟩ := RawText.exists_ofString h
    rw [ofRaw_ofString]
    rfl
  | true =>
    rw [ofRaw, h]
    rfl

/-- An address is read from what is written for it. -/
theorem Data.readAddress_ofAddress? (a : Option Address) : (ofAddress? a).readAddress = .ok a := by
  cases a with
  | none => rfl
  | some a =>
    have h : (ofRaw a.text).address? = some a := (address?_ofRaw _).trans (Address.parse?_text a)
    rw [ofAddress?, readAddress, h]
    exact ofRaw_ne_null _

end LeasePlan
