import Mathlib
import LeasePlan.Config.Parse
import LeasePlan.Proofs.Irrelevance
import LeasePlan.Proofs.Reordering

namespace LeasePlan

namespace Data

variable {α : Type}

/-- The name that the key of an interface stands for: a text, or bytes that spell one. -/
def name? (key : Data) : Option RawText := key.readText.toOption

/-- An entry for the interface of a name, read from a key and a value. -/
def Names (read : Data → Checked α) (e : Data × Data) (p : RawText × α) : Prop :=
  e.1.readText = .ok p.1 ∧ read e.2 = .ok p.2

theorem readNames_eq_ok_iff {read : Data → Checked α} {es : List (Data × Data)} {m : NameMap α} :
    readNames read (mapping es) = .ok m ↔
      ∃ ps, List.Forall₂ (Names read) es ps ∧ NameMap.ofList ps = m := by
  simp only [readNames, map_eq_ok, Checked.all_eq_ok, List.forall₂_map_left_iff,
    Checked.under_eq_ok, Checked.both_eq_ok]
  exact Iff.rfl

theorem map_name?_eq {read : Data → Checked α} {es : List (Data × Data)} {ps : List (RawText × α)}
    (h : List.Forall₂ (Names read) es ps) :
    es.map (fun e => name? e.1) = ps.map fun p => some p.1 := by
  induction h with
  | nil => rfl
  | cons hp _ ih => rw [List.map_cons, List.map_cons, ih, name?, hp.1, Except.toOption]

theorem nodup_of_apart {read : Data → Checked α} {es : List (Data × Data)} {ps : List (RawText × α)}
    (ha : ApartBy name? es) (h : List.Forall₂ (Names read) es ps) : (ps.map Prod.fst).Nodup := by
  have hmap : (es.map fun e => name? e.1).Pairwise fun k l => ∀ s, k = some s → l ≠ some s :=
    List.pairwise_map.2 ha
  rw [map_name?_eq h, List.pairwise_map] at hmap
  refine List.pairwise_map.2 (hmap.imp fun hpq heq => ?_)
  exact hpq _ rfl (congrArg some heq.symm)

end Data

namespace NameMap

variable {α : Type}

theorem put_of_not_mem {name : RawText} {value : α} {es : List (RawText × α)}
    (h : name ∉ es.map Prod.fst) : put name value es = es ++ [(name, value)] := by
  induction es with
  | nil => rfl
  | cons e es ih =>
    obtain ⟨n, v⟩ := e
    rw [List.map_cons, List.mem_cons, not_or] at h
    rw [put, if_neg (Ne.symm h.1), ih h.2, List.cons_append]

theorem entries_foldl_insert {ps : List (RawText × α)} {m : NameMap α}
    (h : ((m.entries ++ ps).map Prod.fst).Nodup) :
    (ps.foldl (fun m e => m.insert e.1 e.2) m).entries = m.entries ++ ps := by
  induction ps generalizing m with
  | nil => exact (List.append_nil _).symm
  | cons p ps ih =>
    have hnot : p.1 ∉ m.entries.map Prod.fst := by
      rw [List.map_append, List.nodup_append] at h
      exact fun hn => h.2.2 p.1 hn p.1 List.mem_cons_self rfl
    have hput : (m.insert p.1 p.2).entries ++ ps = m.entries ++ p :: ps :=
      calc (m.insert p.1 p.2).entries ++ ps
        _ = (m.entries ++ [p]) ++ ps := congrArg (· ++ ps) (put_of_not_mem hnot)
        _ = m.entries ++ p :: ps := List.append_assoc ..
    rw [List.foldl_cons, ih, hput]
    rw [hput]
    exact h

/-- Entries with names that are all different are put in as they are. -/
theorem entries_ofList {ps : List (RawText × α)} (h : (ps.map Prod.fst).Nodup) :
    (ofList ps).entries = ps :=
  entries_foldl_insert (m := empty) h

theorem find?_ofList_perm {ps qs : List (RawText × α)} (h : (ps.map Prod.fst).Nodup)
    (hp : qs.Perm ps) (n : RawText) : (ofList ps).find? n = (ofList qs).find? n := by
  ext a
  rw [find?_eq_some_iff, find?_eq_some_iff, entries_ofList h,
    entries_ofList ((hp.map Prod.fst).nodup_iff.2 h), hp.mem_iff]

end NameMap

namespace Data

variable {α : Type}

/-- The keys of the interfaces stand for different names. -/
def NamesApart (d : Data) : Prop :=
  ∀ es is, d = mapping es → field? "interfaces" es = some (mapping is) → ApartBy name? is

theorem ApartBy.congr {κ : Type} {read? : Data → Option κ} {es fs : List (Data × Data)}
    (h : ApartBy read? es) (hk : es.map Prod.fst = fs.map Prod.fst) : ApartBy read? fs := by
  have hmap : (es.map Prod.fst).Pairwise fun k l => ∀ s, read? k = some s → read? l ≠ some s :=
    List.pairwise_map.2 h
  rw [hk] at hmap
  exact List.pairwise_map.1 hmap

theorem apartBy_of_reorders {κ : Type} {read? : Data → Option κ} {es fs : List (Data × Data)}
    (hr : Reorders (mapping es) (mapping fs)) (h : ApartBy read? es) : ApartBy read? fs := by
  cases hr with
  | entries _ hp => exact h.perm hp
  | value before after key _ =>
    refine h.congr ?_
    simp only [List.map_append, List.map_cons]

theorem Reorders.exists_mapping {d : Data} {fs : List (Data × Data)}
    (h : Reorders d (mapping fs)) : ∃ es, d = mapping es := by
  cases h with
  | entries => exact ⟨_, rfl⟩
  | value => exact ⟨_, rfl⟩

theorem NamesApart.reorders {d e : Data} (hr : Reorders d e) (h : d.NamesApart) :
    e.NamesApart := by
  rintro fs js rfl hf
  obtain ⟨es, rfl⟩ := hr.exists_mapping
  rcases field?_reorders hr "interfaces" with heq | ⟨v, w, hv, hw, hvw⟩
  · exact h es js rfl (heq.trans hf)
  · cases hw.symm.trans hf
    obtain ⟨is, rfl⟩ := hvw.exists_mapping
    exact apartBy_of_reorders hvw (h es is rfl hv)

/-- Reordering keys leaves what is found under each name, if no two keys stand for one name. -/
theorem readNames_reorders {read : Data → Checked α} (h : Steady read) {d e : Data}
    (hr : Reorders d e) {m : NameMap α} (hd : readNames read d = .ok m) :
    ∃ k, readNames read e = .ok k ∧
      ((∀ es, d = mapping es → ApartBy name? es) → ∀ n, m.find? n = k.find? n) := by
  cases hr with
  | entries hk hp =>
    obtain ⟨ps, hps, rfl⟩ := readNames_eq_ok_iff.1 hd
    obtain ⟨qs, hqs, hperm⟩ := List.perm_comp_forall₂ hp.symm hps
    refine ⟨_, readNames_eq_ok_iff.2 ⟨qs, hqs, rfl⟩, fun ha => ?_⟩
    exact NameMap.find?_ofList_perm (nodup_of_apart (ha _ rfl) hps) hperm
  | value before after key hvw =>
    obtain ⟨ps, hps, rfl⟩ := readNames_eq_ok_iff.1 hd
    refine ⟨_, readNames_eq_ok_iff.2 ⟨ps, forall₂_replace (fun p hp => ?_) hps, rfl⟩,
      fun _ _ => rfl⟩
    exact ⟨hp.1, h _ _ hvw _ hp.2⟩
  | item => cases hd

theorem readConfig_eq_ok_iff {es : List (Data × Data)} {c : Config} :
    readConfig (mapping es) = .ok c ↔
      (fieldOr "interfaces" NameMap.empty (readNames (readNullable readInterface)) es =
          .ok c.interfaces ∧
        fieldOr "local_domain_name" [] readText es = .ok c.domainName ∧
        fieldOr "icmp_timeout" Duration.second readDuration es = .ok c.icmpTimeout ∧
        fieldOr "enabled" false readBool es = .ok c.enabled) ∧
      onlyFields ["interfaces", "local_domain_name", "icmp_timeout", "enabled"] es = .ok () := by
  rw [readConfig, readObject_eq_ok_iff, configFields, map_eq_ok]
  refine and_congr_left fun _ => ?_
  simp only [Checked.both_eq_ok, Prod.exists]
  constructor
  · rintro ⟨i, n, t, e, h, rfl⟩
    exact h
  · intro h
    exact ⟨_, _, _, _, h, rfl⟩

theorem fieldOr_names_reorders {es fs : List (Data × Data)}
    (hr : Reorders (mapping es) (mapping fs)) {read : Data → Checked α} (h : Steady read)
    {m : NameMap α} (hm : fieldOr "interfaces" NameMap.empty (readNames read) es = .ok m) :
    ∃ k, fieldOr "interfaces" NameMap.empty (readNames read) fs = .ok k ∧
      ((mapping es).NamesApart → ∀ n, m.find? n = k.find? n) := by
  unfold fieldOr at hm ⊢
  rcases field?_reorders hr "interfaces" with heq | ⟨v, w, hv, hw, hvw⟩
  · rw [← heq]
    exact ⟨m, hm, fun _ _ => rfl⟩
  · rw [hv] at hm
    rw [hw]
    obtain ⟨k, hk, hfind⟩ := readNames_reorders h hvw (Checked.under_eq_ok.1 hm)
    refine ⟨k, Checked.under_eq_ok.2 hk, fun ha => hfind ?_⟩
    rintro is rfl
    exact ha es is rfl hv

/-- A reordered document is read to a configuration with the same service. -/
theorem readConfig_reorders {d e : Data} (hr : Reorders d e) {c : Config}
    (hd : readConfig d = .ok c) : ∃ c', readConfig e = .ok c' ∧
      (d.NamesApart → Service.assemble (some c) = Service.assemble (some c')) := by
  have hmapping {es fs : List (Data × Data)} (hr : Reorders (mapping es) (mapping fs))
      (hd : readConfig (mapping es) = .ok c) : ∃ c', readConfig (mapping fs) = .ok c' ∧
        ((mapping es).NamesApart → Service.assemble (some c) = Service.assemble (some c')) := by
    obtain ⟨⟨hi, hn, ht, he⟩, ho⟩ := readConfig_eq_ok_iff.1 hd
    obtain ⟨m, hm, hfind⟩ :=
      fieldOr_names_reorders hr (steady_readNullable steady_readInterface) hi
    refine ⟨{ c with interfaces := m }, readConfig_eq_ok_iff.2 ⟨⟨hm, ?_, ?_, ?_⟩, ?_⟩, ?_⟩
    · exact steadyFields_fieldOr _ _ steady_readText es fs hr _ hn
    · exact steadyFields_fieldOr _ _ steady_readDuration es fs hr _ ht
    · exact steadyFields_fieldOr _ _ steady_readBool es fs hr _ he
    · exact steadyFields_onlyFields _ es fs hr _ ho
    · intro ha
      exact Service.assemble_eq_of_alike
        (Config.alike_of_find? (fun v => .inl rfl) rfl rfl rfl (hfind ha))
  cases hr with
  | entries hk hp => exact hmapping (.entries hk hp) hd
  | value before after key hvw => exact hmapping (.value before after key hvw) hd
  | item => cases hd

theorem readConfig_reordered {d e : Data} (hr : Reordered d e) {c : Config}
    (hd : readConfig d = .ok c) : ∃ c', readConfig e = .ok c' ∧
      (d.NamesApart → Service.assemble (some c) = Service.assemble (some c')) := by
  induction hr using Relation.ReflTransGen.head_induction_on generalizing c with
  | refl => exact ⟨c, hd, fun _ => rfl⟩
  | head hstep _ ih =>
    obtain ⟨c₁, h₁, heq₁⟩ := readConfig_reorders hstep hd
    obtain ⟨c₂, h₂, heq₂⟩ := ih h₁
    exact ⟨c₂, h₂, fun ha => (heq₁ ha).trans (heq₂ (ha.reorders hstep))⟩

theorem Reordered.symm {d e : Data} (h : Reordered d e) : Reordered e d := by
  induction h using Relation.ReflTransGen.head_induction_on with
  | refl => exact .refl
  | head hstep _ ih => exact ih.tail hstep.symm

end Data

namespace Config

theorem parse_eq_ok_iff {source : Mention} {d : Data} {c : Config} :
    parse source d = .ok c ↔ d.readConfig = .ok c := by
  cases d with
  | mapping es =>
    rw [parse]
    cases (Data.mapping es).readConfig with
    | ok c' => simp only [Except.ok.injEq]
    | error is =>
      dsimp only
      cases Failure.outOfRange? is <;> simp only [reduceCtorEq]
  | _ => simp only [parse, Data.readConfig, Data.readObject, Checked.fail, reduceCtorEq]

/-- The order of keys decides neither whether a document is read nor, if the keys of its interfaces
stand for different names, what its configuration is assembled to. -/
theorem parse_reordered {d e : Data} (h : d.Reordered e) (source source' : Mention) :
    ((∃ c, parse source d = .ok c) ↔ ∃ c, parse source' e = .ok c) ∧
      (d.NamesApart → ∀ c c', parse source d = .ok c → parse source' e = .ok c' →
        Service.assemble (some c) = Service.assemble (some c')) := by
  simp only [parse_eq_ok_iff]
  refine ⟨⟨?_, ?_⟩, ?_⟩
  · rintro ⟨c, hc⟩
    obtain ⟨c', hc', -⟩ := Data.readConfig_reordered h hc
    exact ⟨c', hc'⟩
  · rintro ⟨c, hc⟩
    obtain ⟨c', hc', -⟩ := Data.readConfig_reordered h.symm hc
    exact ⟨c', hc'⟩
  · intro ha c c' hc hc'
    obtain ⟨c'', hc'', heq⟩ := Data.readConfig_reordered h hc
    cases hc''.symm.trans hc'
    exact heq ha

end Config

namespace Data

/-- An enabled configuration with these interfaces. -/
def withInterfaces (is : List (Data × Data)) : Data :=
  mapping [(text "interfaces", mapping is), (text "local_domain_name", text "lan"),
    (text "enabled", bool true)]

/-- The settings of an interface that uses neither protocol. -/
def unused : Data := mapping [(text "ipv4", mapping []), (text "ipv6", mapping [])]

theorem apartBy_pair {κ : Type} {read? : Data → Option κ} {e f : Data × Data}
    (h : read? e.1 ≠ read? f.1) : ApartBy read? [e, f] :=
  List.pairwise_pair.2 fun _ he hf => h (he.trans hf.symm)

theorem withInterfaces_reordered {e f : Data × Data} (h : text? e.1 ≠ text? f.1) :
    (withInterfaces [e, f]).Reordered (withInterfaces [f, e]) :=
  .single (.value [] _ _ (.entries (apartBy_pair h) (.swap ..)))

end Data

namespace Config

/-- An enabled configuration with one interface. -/
def lone (i : Option InterfaceConfig) : Config where
  interfaces := { entries := [("a", i)], nodup := List.nodup_singleton _ }
  domainName := "lan"
  enabled := true

theorem sortedNames_lone (i : Option InterfaceConfig) : (lone i).interfaces.sortedNames = ["a"] :=
  List.mergeSort_singleton _

open Data in
/-- The order of keys matters if a text and the bytes that spell it are keys of interfaces: the
later entry is the one that counts. -/
theorem parse_spelled_twice : ∃ c c', ∃ s e,
    (withInterfaces [(text "a", null), (bytes [97], unused)]).Reordered
        (withInterfaces [(bytes [97], unused), (text "a", null)]) ∧
      parse memory (withInterfaces [(text "a", null), (bytes [97], unused)]) = .ok c ∧
      parse memory (withInterfaces [(bytes [97], unused), (text "a", null)]) = .ok c' ∧
      Service.assemble (some c) = .ok (some s) ∧ Service.assemble (some c') = .error e := by
  have hr : (withInterfaces [(text "a", null), (bytes [97], unused)]).Reordered
      (withInterfaces [(bytes [97], unused), (text "a", null)]) :=
    withInterfaces_reordered (by decide)
  have hs : Service.assemble (some (lone (some { v4 := some {}, v6 := some {} }))) =
      .ok (some ⟨true, [], []⟩) := by
    rw [Service.assemble_some, validate_some, checkInterfaces, sortedNames_lone]
    rfl
  have he : Service.assemble (some (lone none)) = .error (.ofCause (.nilInterface "a")) := by
    refine Service.assemble_of_invalid ?_
    rw [validate_some, checkInterfaces, sortedNames_lone]
    rfl
  exact ⟨_, _, _, _, hr, rfl, rfl, hs, he⟩

open Data in
/-- Of two interfaces without settings the same one is blamed, whichever comes first. -/
theorem parse_reordered_nulls : ∃ c c',
    (withInterfaces [(text "wan", null), (text "lan", null)]).Reordered
        (withInterfaces [(text "lan", null), (text "wan", null)]) ∧
      (withInterfaces [(text "wan", null), (text "lan", null)]).NamesApart ∧
      parse memory (withInterfaces [(text "wan", null), (text "lan", null)]) = .ok c ∧
      parse memory (withInterfaces [(text "lan", null), (text "wan", null)]) = .ok c' ∧ c ≠ c' ∧
      Service.assemble (some c) = Service.assemble (some c') := by
  have hr : (withInterfaces [(text "wan", null), (text "lan", null)]).Reordered
      (withInterfaces [(text "lan", null), (text "wan", null)]) :=
    withInterfaces_reordered (by decide)
  have ha : (withInterfaces [(text "wan", null), (text "lan", null)]).NamesApart := by
    rintro es is ⟨⟩ ⟨⟩
    exact apartBy_pair (by decide)
  exact ⟨_, _, hr, ha, rfl, rfl, by decide, (parse_reordered hr memory memory).2 ha _ _ rfl rfl⟩

end Config

end LeasePlan
