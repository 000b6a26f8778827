import Mathlib
import LeasePlan.Config.Dump
import LeasePlan.Proofs.AddressText
import LeasePlan.Proofs.DurationText
import LeasePlan.Proofs.KeyOrder

namespace LeasePlan

/-- An option as it is read back: its bytes are the text that was written for them. -/
def DhcpOption.reread (o : DhcpOption) : DhcpOption :=
  { o with value := Utf8.encode (Base64.encode o.value) }

def V4Config.reread (c : V4Config) : V4Config :=
  { c with options := c.options.map DhcpOption.reread }

def V6Config.reread (c : V6Config) : V6Config :=
  { c with options := c.options.map DhcpOption.reread }

def InterfaceConfig.reread (c : InterfaceConfig) : InterfaceConfig where
  v4 := c.v4.map V4Config.reread
  v6 := c.v6.map V6Config.reread

namespace NameMap

variable {α β : Type}

@[ext] theorem ext {m k : NameMap α} (h : m.entries = k.entries) : m = k := by
  cases m
  cases k
  cases h
  rfl

def map (f : α → β) (m : NameMap α) : NameMap β where
  entries := m.entries.map fun e => (e.1, f e.2)
  nodup := by
    rw [List.map_map]
    exact m.nodup

theorem mem_names_foldl_insert {ps : List (RawText × α)} {m : NameMap α} {n : RawText}
    (h : n ∈ (ps.foldl (fun m e => m.insert e.1 e.2) m).names) :
    n ∈ m.names ∨ n ∈ ps.map Prod.fst := by
  induction ps generalizing m with
  | nil => exact .inl h
  | cons p ps ih =>
    rcases ih h with h | h
    · rcases mem_fst_put.1 h with rfl | h
      · exact .inr List.mem_cons_self
      · exact .inl h
    · exact .inr (List.mem_cons_of_mem _ h)

theorem mem_names_ofList {ps : List (RawText × α)} {n : RawText} (h : n ∈ (ofList ps).names) :
    n ∈ ps.map Prod.fst :=
  (mem_names_foldl_insert h).resolve_left List.not_mem_nil

theorem ofList_entries (m : NameMap α) : ofList m.entries = m :=
  ext (entries_ofList m.nodup)

theorem map_eq_self {f : α → α} {m : NameMap α} (h : ∀ e ∈ m.entries, f e.2 = e.2) :
    m.map f = m := by
  apply ext
  have hsame : ∀ e ∈ m.entries, (e.1, f e.2) = e := fun e he => Prod.ext rfl (h e he)
  exact (List.map_congr_left hsame).trans (List.map_id _)

end NameMap

def Config.reread (c : Config) : Config :=
  { c with interfaces := c.interfaces.map (Option.map InterfaceConfig.reread) }

namespace Data

/-- A document without the field of a name. -/
def without (name : String) : Data → Data
  | mapping es => mapping (es.filter fun e => text? e.1 ≠ some name)
  | d => d

theorem insert_of_not_mem {name : String} {value : Data} {fs : List (String × Data)}
    (h : name ∉ fs.map Prod.fst) :
    insert (text name) value (fs.map fun f => (text f.1, f.2)) =
      (fs ++ [(name, value)]).map fun f => (text f.1, f.2) := by
  induction fs with
  | nil => rfl
  | cons f fs ih =>
    rw [List.map_cons, List.mem_cons, not_or] at h
    rw [List.map_cons, insert, if_neg, ih h.2, List.cons_append, List.map_cons]
    exact fun hsame => h.1 (of_decide_eq_true hsame).symm

theorem foldl_insert_text (fs : List (String × Data)) {ps : List (String × Data)}
    (h : ((fs ++ ps).map Prod.fst).Nodup) :
    ps.foldl (fun es p => insert (text p.1) p.2 es) (fs.map fun f => (text f.1, f.2)) =
      (fs ++ ps).map fun f => (text f.1, f.2) := by
  induction ps generalizing fs with
  | nil => rw [List.foldl_nil, List.append_nil]
  | cons p ps ih =>
    have hnot : p.1 ∉ fs.map Prod.fst := by
      rw [List.map_append, List.nodup_append] at h
      exact fun hp => h.2.2 p.1 hp p.1 List.mem_cons_self rfl
    have happend : (fs ++ [p]) ++ ps = fs ++ p :: ps := List.append_assoc ..
    rw [List.foldl_cons, insert_of_not_mem hnot, ih (fs ++ [p]) (happend ▸ h), happend]

section Readers

variable {α β : Type}

theorem fieldOr_eq_ok {name : String} {default : α} {read : Data → Checked α}
    {es : List (Data × Data)} {v : Data} {a : α} (hv : field? name es = some v)
    (ha : read v = .ok a) : fieldOr name default read es = .ok a := by
  rw [fieldOr, hv]
  exact Checked.under_eq_ok.2 ha

theorem requiredField_eq_ok {name : String} {read : Data → Checked α}
    {es : List (Data × Data)} {v : Data} {a : α} (hv : field? name es = some v)
    (ha : read v = .ok a) : requiredField name read es = .ok a := by
  rw [requiredField, hv]
  exact Checked.under_eq_ok.2 ha

/-- An object that has just the known fields is read as its fields are. -/
theorem readObject_object {model : String} {known : List String}
    {fields : List (Data × Data) → Checked α} {fs : List (String × Data)} {a : α}
    (hk : fs.map Prod.fst = known)
    (ha : fields (fs.map fun f => (text f.1, f.2)) = .ok a) :
    readObject model known fields (object fs) = .ok a := by
  refine readObject_eq_ok_iff.2 ⟨ha, onlyFields_eq_ok_iff.2 ?_⟩
  intro k hkey
  rw [List.map_map] at hkey
  obtain ⟨f, hf, rfl⟩ := List.mem_map.1 hkey
  exact if_pos (hk ▸ List.mem_map_of_mem hf)

theorem readNullable_getD {read : Data → Checked β} {write : α → Data} {f : α → β}
    (hread : ∀ a, read (write a) = .ok (f a)) (hobject : ∀ a, ∃ es, write a = mapping es)
    (o : Option α) : readNullable read ((o.map write).getD null) = .ok (o.map f) := by
  cases o with
  | none => rfl
  | some a =>
    obtain ⟨es, hes⟩ := hobject a
    have hokay := hread a
    rw [hes] at hokay
    rw [Option.map_some, Option.getD_some, Option.map_some, hes, readNullable, hokay]
    · rfl
    · exact nofun

theorem readList_map {read : Data → Checked β} {write : α → Data} {f : α → β}
    (hread : ∀ a, read (write a) = .ok (f a)) (as : List α) :
    readList read (list (as.map write)) = .ok (as.map f) := by
  refine readItems_eq_ok_iff.2 ?_
  rw [List.forall₂_map_left_iff, List.forall₂_map_right_iff, List.forall₂_same]
  intro a _
  exact hread a

end Readers

theorem readBelow_val {bound : Nat} (n : Fin bound) : readBelow bound (int n) = .ok n := by
  have hn : ¬ ((n : Nat) : Int) < 0 := by omega
  rw [readBelow, readInt]
  dsimp only [bind, Except.bind]
  rw [if_neg hn]
  exact dif_pos n.isLt

theorem readOption_document (o : DhcpOption) : readOption o.document = .ok o.reread := by
  apply readObject_object
  · rfl
  refine map_eq_ok.2 ⟨(o.code, o.reread.value), Checked.both_eq_ok.2 ⟨?_, ?_⟩, rfl⟩
  · exact requiredField_eq_ok rfl (readBelow_val o.code)
  · apply fieldOr_eq_ok rfl
    rw [readBytes, String.toList_ofList]
    rfl

theorem readV4Config_document (c : V4Config) : readV4Config c.document = .ok c.reread := by
  apply readObject_object
  · rfl
  refine map_eq_ok.2 ⟨(c.gateway, c.mask, c.rangeStart, c.rangeEnd,
    c.options.map DhcpOption.reread, c.lease, c.enabled), ?_, rfl⟩
  simp only [Checked.both_eq_ok]
  exact ⟨fieldOr_eq_ok rfl (readAddress_ofAddress? c.gateway),
    fieldOr_eq_ok rfl (readAddress_ofAddress? c.mask),
    fieldOr_eq_ok rfl (readAddress_ofAddress? c.rangeStart),
    fieldOr_eq_ok rfl (readAddress_ofAddress? c.rangeEnd),
    fieldOr_eq_ok rfl (readList_map readOption_document c.options),
    fieldOr_eq_ok rfl (readDuration_ofDuration c.lease), fieldOr_eq_ok rfl rfl⟩

theorem readV6Config_document (c : V6Config) : readV6Config c.document = .ok c.reread := by
  apply readObject_object
  · rfl
  refine map_eq_ok.2 ⟨(c.rangeStart, c.options.map DhcpOption.reread, c.lease, c.slaacOnly,
    c.allowSlaac, c.enabled), ?_, rfl⟩
  simp only [Checked.both_eq_ok]
  exact ⟨fieldOr_eq_ok rfl (readAddress_ofAddress? c.rangeStart),
    fieldOr_eq_ok rfl (readList_map readOption_document c.options),
    fieldOr_eq_ok rfl (readDuration_ofDuration c.lease), fieldOr_eq_ok rfl rfl,
    fieldOr_eq_ok rfl rfl, fieldOr_eq_ok rfl rfl⟩

theorem readInterface_document (c : InterfaceConfig) :
    readInterface c.document = .ok c.reread := by
  apply readObject_object
  · rfl
  refine map_eq_ok.2 ⟨(c.reread.v4, c.reread.v6), Checked.both_eq_ok.2 ⟨?_, ?_⟩, rfl⟩
  · exact fieldOr_eq_ok rfl (readNullable_getD readV4Config_document (fun _ => ⟨_, rfl⟩) c.v4)
  · exact fieldOr_eq_ok rfl (readNullable_getD readV6Config_document (fun _ => ⟨_, rfl⟩) c.v6)

theorem mem_fst_insert {key value k : Data} {es : List (Data × Data)}
    (h : k ∈ (insert key value es).map Prod.fst) : k = key ∨ k ∈ es.map Prod.fst := by
  induction es with
  | nil => exact .inl (List.mem_singleton.1 h)
  | cons e es ih =>
    rw [insert] at h
    split_ifs at h
    · exact .inr h
    · rcases List.mem_cons.1 h with rfl | h
      · exact .inr List.mem_cons_self
      · exact (ih h).imp_right (List.mem_cons_of_mem _)

/-- The keys of what is built by names are texts without surrogates. -/
theorem isBroken_of_name? {ps : List (String × Data)} {es : List (Data × Data)} {k : Data}
    {n : RawText} (hes : ∀ j ∈ es.map Prod.fst, ∀ t, name? j = some t → t.isBroken = false)
    (hk : k ∈ (ps.foldl (fun es p => insert (text p.1) p.2 es) es).map Prod.fst)
    (hn : name? k = some n) : n.isBroken = false := by
  induction ps generalizing es with
  | nil => exact hes k hk n hn
  | cons p ps ih =>
    refine ih (fun j hj t ht => ?_) hk
    rcases mem_fst_insert hj with rfl | hj
    · cases ht
      exact RawText.isBroken_ofChars _
    · exact hes j hj t ht

end Data

namespace Config

/-- No name of an interface has a lone surrogate. -/
def NamesWhole (c : Config) : Prop := ∀ n ∈ c.interfaces.names, n.isBroken = false

instance (c : Config) : Decidable c.NamesWhole :=
  inferInstanceAs (Decidable (∀ n ∈ c.interfaces.names, n.isBroken = false))

theorem interfacesDocument_eq (m : NameMap (Option InterfaceConfig)) :
    interfacesDocument m = .mapping ((m.entries.map fun e =>
      (e.1.lossy, (e.2.map InterfaceConfig.document).getD .null)).foldl
        (fun es p => Data.insert (.text p.1) p.2 es) []) := by
  rw [interfacesDocument, List.foldl_map]

/-- Names without surrogates are the keys as they are. -/
theorem interfacesDocument_whole {m : NameMap (Option InterfaceConfig)}
    (h : ∀ n ∈ m.names, n.isBroken = false) :
    interfacesDocument m = .object (m.entries.map fun e =>
      (e.1.lossy, (e.2.map InterfaceConfig.document).getD .null)) := by
  have hback : ∀ n ∈ m.names, RawText.ofString n.lossy = n :=
    fun n hn => RawText.ofString_lossy (h n hn)
  have hnodup : ((m.entries.map fun e =>
      (e.1.lossy, (e.2.map InterfaceConfig.document).getD .null)).map Prod.fst).Nodup := by
    rw [List.map_map]
    refine List.Nodup.of_map RawText.ofString ?_
    rw [List.map_map]
    have hsame : m.entries.map (RawText.ofString ∘ Prod.fst ∘ fun e =>
        (e.1.lossy, (e.2.map InterfaceConfig.document).getD .null)) = m.names :=
      List.map_congr_left fun e he => hback e.1 (List.mem_map_of_mem he)
    rw [hsame]
    exact m.nodup
  rw [interfacesDocument_eq, Data.object]
  exact congrArg Data.mapping (Data.foldl_insert_text [] hnodup)

theorem readNames_interfacesDocument {m : NameMap (Option InterfaceConfig)}
    (h : ∀ n ∈ m.names, n.isBroken = false) :
    Data.readNames (Data.readNullable Data.readInterface) (interfacesDocument m) =
      .ok (m.map (Option.map InterfaceConfig.reread)) := by
  rw [interfacesDocument_whole h]
  refine Data.readNames_eq_ok_iff.2
    ⟨(m.map (Option.map InterfaceConfig.reread)).entries, ?_, NameMap.ofList_entries _⟩
  rw [NameMap.map, List.map_map, List.forall₂_map_left_iff, List.forall₂_map_right_iff,
    List.forall₂_same]
  intro e he
  refine ⟨?_, Data.readNullable_getD Data.readInterface_document (fun _ => ⟨_, rfl⟩) e.2⟩
  exact congrArg Except.ok (RawText.ofString_lossy (h e.1 (List.mem_map_of_mem he)))

theorem readConfig_document {c : Config} (h : c.NamesWhole) :
    Data.readConfig c.document = .ok c.reread := by
  apply Data.readObject_object
  · rfl
  refine map_eq_ok.2 ⟨(c.reread.interfaces, c.domainName, c.icmpTimeout, c.enabled), ?_, rfl⟩
  simp only [Checked.both_eq_ok]
  exact ⟨Data.fieldOr_eq_ok rfl (readNames_interfacesDocument h),
    Data.fieldOr_eq_ok rfl (Data.readText_ofRaw c.domainName),
    Data.fieldOr_eq_ok rfl (Data.readDuration_ofDuration c.icmpTimeout),
    Data.fieldOr_eq_ok rfl rfl⟩

theorem dump_without_names (c : Config) : c.dump.without "interface_names" = c.document := rfl

theorem parse_dump_eq {c : Config} (h : c.NamesWhole) (source : Mention) :
    parse source (c.dump.without "interface_names") = .ok c.reread := by
  rw [dump_without_names, parse_eq_ok_iff]
  exact readConfig_document h

/-- The names that are read back from a dump have no surrogates. -/
theorem namesWhole_of_parse_dump {source : Mention} {c d : Config}
    (h : parse source (c.dump.without "interface_names") = .ok d) : d.NamesWhole := by
  rw [dump_without_names, parse_eq_ok_iff] at h
  have hnames : Data.readNames (Data.readNullable Data.readInterface)
      (interfacesDocument c.interfaces) = .ok d.interfaces :=
    Checked.under_eq_ok.1 (Data.readConfig_eq_ok_iff.1 h).1.1
  intro n hn
  rw [interfacesDocument_eq] at hnames
  obtain ⟨ps, hps, hm⟩ := Data.readNames_eq_ok_iff.1 hnames
  rw [← hm] at hn
  have hsome : some n ∈ ps.map fun p => some p.1 := by
    obtain ⟨p, hp, hpn⟩ := List.mem_map.1 (NameMap.mem_names_ofList hn)
    exact List.mem_map.2 ⟨p, hp, congrArg some hpn⟩
  rw [← Data.map_name?_eq hps] at hsome
  obtain ⟨e, he, hen⟩ := List.mem_map.1 hsome
  exact Data.isBroken_of_name? (fun _ hj => absurd hj List.not_mem_nil)
    (List.mem_map_of_mem he) hen

end Config

/-- Neither protocol has options. -/
structure InterfaceConfig.WithoutOptions (i : InterfaceConfig) : Prop where
  v4 : ∀ c ∈ i.v4, c.options = []
  v6 : ∀ c ∈ i.v6, c.options = []

instance (i : InterfaceConfig) : Decidable i.WithoutOptions :=
  decidable_of_iff ((∀ c ∈ i.v4, c.options = []) ∧ ∀ c ∈ i.v6, c.options = [])
    ⟨fun h => ⟨h.1, h.2⟩, fun h => ⟨h.v4, h.v6⟩⟩

theorem InterfaceConfig.WithoutOptions.reread_eq {i : InterfaceConfig} (h : i.WithoutOptions) :
    i.reread = i := by
  have h4 : i.v4.map V4Config.reread = i.v4 := by
    cases hv : i.v4 with
    | none => rfl
    | some c =>
      have hnil := h.v4 c hv
      rw [Option.map_some, V4Config.reread, hnil, List.map_nil, ← hnil]
  have h6 : i.v6.map V6Config.reread = i.v6 := by
    cases hv : i.v6 with
    | none => rfl
    | some c =>
      have hnil := h.v6 c hv
      rw [Option.map_some, V6Config.reread, hnil, List.map_nil, ← hnil]
  rw [reread, h4, h6]

namespace Config

/-- Every list of options is empty. -/
def WithoutOptions (c : Config) : Prop :=
  ∀ e ∈ c.interfaces.entries, ∀ i ∈ e.2, i.WithoutOptions

instance (c : Config) : Decidable c.WithoutOptions :=
  inferInstanceAs (Decidable (∀ e ∈ c.interfaces.entries, ∀ i ∈ e.2, i.WithoutOptions))

theorem WithoutOptions.reread_eq {c : Config} (h : c.WithoutOptions) : c.reread = c := by
  have hsame : c.interfaces.map (Option.map InterfaceConfig.reread) = c.interfaces := by
    apply NameMap.map_eq_self
    intro e he
    cases hi : e.2 with
    | none => rfl
    | some i => rw [Option.map_some, (h e he i hi).reread_eq]
  rw [reread, hsame]

def unpaired : CodePoint := .surrogate ⟨0, by decide⟩

/-- An address in a zone, a lease that runs backwards by a second and a half, an interface without
settings and the least of all durations. -/
def unusual : Config where
  interfaces :=
    { entries :=
        [("dmz", some
            { v6 := some { rangeStart := some (.v6 5 (some ⟨[.char 'e', unpaired], rfl⟩)) } }),
          ("lan", some { v4 := some { lease := ⟨-1500000, by decide, by decide⟩ } }),
          ("wan", none)]
      nodup := by decide }
  domainName := [unpaired]
  icmpTimeout := ⟨Duration.minMicros, Int.le_refl _, by decide⟩
  enabled := true

/-- The only interface has a lone surrogate for a name. -/
def lostName : Config where
  interfaces := { entries := [([unpaired], none)], nodup := by decide }

end Config

end LeasePlan
