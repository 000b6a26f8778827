import Mathlib
import LeasePlan.Proofs.FlowNodes
import LeasePlan.Proofs.PlainNumbers

namespace LeasePlan.Yaml

open Json (Key Number Word Piece Value Slot Items Entries codes text arePortable)

namespace Graph

variable (g : Graph) (known : Nat → Data)

section Scalars

variable {t : Tag} {ns : List Nat} {d : Data}

theorem opening_scalar (ht : isScalarTag t = true) (hd : Value.ofScalar t ns = .ok d) :
    g.opening (.scalar t ns) = .ok (some d) := by
  have htext : g.text? textDepth (.scalar t ns) = some ns := rfl
  simp only [opening, resolve, Node.tag, ht, if_true, htext, hd]
  rfl

theorem valueWith_scalar (ht : isScalarTag t = true) (hd : Value.ofScalar t ns = .ok d) :
    valueWith g known (.scalar t ns) = d := by
  have hvalue : t ≠ .value := by
    rintro rfl
    cases ht
  rw [valueWith, if_neg hvalue, scalarData, opening_scalar g ht hd]

theorem ofCodes_codes {ps : List Piece} (hp : arePortable ps = true) :
    Data.ofCodes (codes ps) = text ps := by
  rw [arePortable, Bool.and_eq_true, decide_eq_true_eq] at hp
  rw [text, hp.2]

theorem ofScalar_text {ps : List Piece} (hp : arePortable ps = true) :
    Value.ofScalar .str (codes ps) = .ok (text ps) := by
  rw [Value.ofScalar, ofCodes_codes hp]

theorem arePortable_of_key {k : Key} (hk : k.isPortable = true) : arePortable k.pieces = true := by
  rw [Key.isPortable, Bool.and_eq_true, Bool.and_eq_true, Bool.and_eq_true] at hk
  exact hk.1.1.2

end Scalars

section Values

theorem mergesWith_entries (entries : Entries) : mergesWith g known entries.nodes = [] := by
  cases entries with
  | last key value => rfl
  | more key value rest => exact mergesWith_entries rest

mutual

theorem valueWith_value {v : Value} (hv : v.isPortable = true) :
    valueWith g known v.node = v.data := by
  cases v with
  | word w => exact valueWith_scalar g known (ofScalar_word w).1 (ofScalar_word w).2
  | number n => exact valueWith_scalar g known (ofScalar_number hv).1 (ofScalar_number hv).2
  | string ps => exact valueWith_scalar g known rfl (ofScalar_text hv)
  | emptyList gap => rfl
  | list items => exact congrArg Data.list (valuesWith_items hv)
  | emptyObject gap => rfl
  | object entries =>
    have hentries := insertAll_entries hv []
    rw [Value.node, valueWith, mergesWith_entries]
    exact congrArg Data.mapping hentries

theorem valueWith_slot {t : Slot} (ht : t.isPortable = true) :
    valueWith g known t.node = t.data := by
  cases t with
  | mk before v after =>
    rw [Slot.isPortable, Bool.and_eq_true, Bool.and_eq_true] at ht
    exact valueWith_value ht.1.2

theorem valuesWith_items {items : Items} (hi : items.isPortable = true) :
    valuesWith g known items.nodes = items.data := by
  cases items with
  | last item => exact congrArg (fun d => [d]) (valueWith_slot hi)
  | more item rest =>
    rw [Items.isPortable, Bool.and_eq_true] at hi
    exact congrArg₂ List.cons (valueWith_slot hi.1) (valuesWith_items hi.2)

/-- The entries are set one after the other over those before them. -/
theorem insertAll_entries {entries : Entries} (he : entries.isPortable = true)
    (seen : List (Data × Data)) :
    insertAll (ownWith g known entries.nodes) seen = entries.dataOver seen := by
  cases entries with
  | last key value =>
    rw [Entries.isPortable, Bool.and_eq_true] at he
    have hkey : valueWith g known key.node = text key.pieces :=
      valueWith_scalar g known rfl (ofScalar_text (arePortable_of_key he.1))
    rw [Entries.dataOver, ← hkey, ← valueWith_slot he.2]
    rfl
  | more key value rest =>
    rw [Entries.isPortable, Bool.and_eq_true, Bool.and_eq_true] at he
    have hkey : valueWith g known key.node = text key.pieces :=
      valueWith_scalar g known rfl (ofScalar_text (arePortable_of_key he.1.1))
    rw [Entries.dataOver, ← insertAll_entries he.2, ← hkey, ← valueWith_slot he.1.2]
    rfl

end

end Values

section Levels

/-- A collection of a portable text. -/
def PortableCollection (n : Node) : Prop :=
  ∃ v : Value, v.isPortable = true ∧ v.isClosed = true ∧ n = v.node

theorem opening_value {v : Value} (hv : v.isPortable = true) :
    g.opening v.node = .ok (if v.isClosed then none else some v.data) := by
  cases v with
  | word w => exact opening_scalar g (ofScalar_word w).1 (ofScalar_word w).2
  | number n => exact opening_scalar g (ofScalar_number hv).1 (ofScalar_number hv).2
  | string ps => exact opening_scalar g rfl (ofScalar_text hv)
  | emptyList gap => rfl
  | list items => rfl
  | emptyObject gap => rfl
  | object entries => rfl

/-- What is left of a value when it has been looked at: itself if it is a collection. -/
theorem openAll_cons {t : Slot} {ns ms : List Node} (ht : t.isPortable = true)
    (hns : g.openAll ns = .ok ms) (hms : ∀ n ∈ ms, PortableCollection n) :
    ∃ ks, g.openAll (t.node :: ns) = .ok ks ∧ ∀ n ∈ ks, PortableCollection n := by
  cases t with
  | mk before v after =>
    rw [Slot.isPortable, Bool.and_eq_true, Bool.and_eq_true] at ht
    have hv := ht.1.2
    have hopening : g.opening (Slot.mk before v after).node = _ := opening_value g hv
    cases hc : v.isClosed with
    | true =>
      rw [hc] at hopening
      refine ⟨v.node :: ms, ?_, List.forall_mem_cons.2 ⟨⟨v, hv, hc, rfl⟩, hms⟩⟩
      rw [openAll, hopening, hns]
      rfl
    | false =>
      rw [hc] at hopening
      refine ⟨ms, ?_, hms⟩
      rw [openAll, hopening, hns]
      rfl

theorem openAll_items {items : Items} (hi : items.isPortable = true) :
    ∃ ns, g.openAll items.nodes = .ok ns ∧ ∀ n ∈ ns, PortableCollection n := by
  cases items with
  | last item => exact openAll_cons g hi rfl (List.forall_mem_nil _)
  | more item rest =>
    rw [Items.isPortable, Bool.and_eq_true] at hi
    obtain ⟨ns, hns, hrest⟩ := openAll_items hi.2
    exact openAll_cons g hi.1 hns hrest

theorem opening_key {k : Key} (hk : k.isPortable = true) :
    g.opening k.node = .ok (some (text k.pieces)) :=
  opening_scalar g rfl (ofScalar_text (arePortable_of_key hk))

/-- The same for the value of an entry; its key is looked at before it. -/
theorem openEntries_cons {k : Key} {t : Slot} {es : List (Node × Node)} {ms : List Node}
    (hk : k.isPortable = true) (ht : t.isPortable = true) (hes : g.openEntries es = .ok ms)
    (hms : ∀ n ∈ ms, PortableCollection n) :
    ∃ ks, g.openEntries ((k.node, t.node) :: es) = .ok ks ∧ ∀ n ∈ ks, PortableCollection n := by
  cases t with
  | mk before v after =>
    rw [Slot.isPortable, Bool.and_eq_true, Bool.and_eq_true] at ht
    have hv := ht.1.2
    have hkey : g.isValueKey k.node = false := rfl
    have hopening : g.opening (Slot.mk before v after).node = _ := opening_value g hv
    cases hc : v.isClosed with
    | true =>
      rw [hc] at hopening
      refine ⟨v.node :: ms, ?_, List.forall_mem_cons.2 ⟨⟨v, hv, hc, rfl⟩, hms⟩⟩
      rw [openEntries, hkey, opening_key g hk, hopening, hes]
      rfl
    | false =>
      rw [hc] at hopening
      refine ⟨ms, ?_, hms⟩
      rw [openEntries, hkey, opening_key g hk, hopening, hes]
      rfl

theorem openEntries_entries {entries : Entries} (he : entries.isPortable = true) :
    ∃ ns, g.openEntries entries.nodes = .ok ns ∧ ∀ n ∈ ns, PortableCollection n := by
  cases entries with
  | last key value =>
    rw [Entries.isPortable, Bool.and_eq_true] at he
    exact openEntries_cons g he.1 he.2 rfl (List.forall_mem_nil _)
  | more key value rest =>
    rw [Entries.isPortable, Bool.and_eq_true, Bool.and_eq_true] at he
    obtain ⟨ns, hns, hrest⟩ := openEntries_entries he.2
    exact openEntries_cons g he.1.1 he.1.2 hns hrest

/-- No name of a text merges another mapping. -/
theorem not_merge_entries (entries : Entries) :
    ∀ e ∈ entries.nodes, g.isMergeKey e.1 = false := by
  cases entries with
  | last key value => exact List.forall_mem_singleton.2 rfl
  | more key value rest => exact List.forall_mem_cons.2 ⟨rfl, not_merge_entries rest⟩

theorem allEntries_of_not_merge {es : List (Node × Node)}
    (h : ∀ e ∈ es, g.isMergeKey e.1 = false) : g.allEntries es = .ok es := by
  have hnone : es.filter (fun e => g.isMergeKey e.1) = [] :=
    List.filter_eq_nil_iff.2 fun e he => by rw [h e he]; exact Bool.false_ne_true
  have hall : es.filter (fun e => !g.isMergeKey e.1) = es :=
    List.filter_eq_self.2 fun e he => by rw [h e he]; rfl
  have hmerged : g.mergedInto mergeDepth [] es = some es := by
    change g.mergedInto (255 + 1) [] es = some es
    rw [mergedInto, hnone, hall]
    rfl
  rw [allEntries, hmerged]

theorem filling_value {v : Value} (hv : v.isPortable = true) (hc : v.isClosed = true) :
    ∃ ns, g.filling v.node = .ok ns ∧ ∀ n ∈ ns, PortableCollection n := by
  cases v with
  | word w => cases hc
  | number n => cases hc
  | string ps => cases hc
  | emptyList gap => exact ⟨[], rfl, List.forall_mem_nil _⟩
  | list items => exact openAll_items g hv
  | emptyObject gap =>
    refine ⟨[], ?_, List.forall_mem_nil _⟩
    have hentries := allEntries_of_not_merge g (List.forall_mem_nil _)
    simp only [Value.node, filling, resolve, hentries]
    rfl
  | object entries =>
    have hentries := allEntries_of_not_merge g (not_merge_entries g entries)
    obtain ⟨ns, hns, hportable⟩ := openEntries_entries g hv
    refine ⟨ns, ?_, hportable⟩
    simp only [Value.node, filling, resolve, hentries]
    exact hns

theorem unseen_portable {ns : List Node} (seen : List Nat)
    (h : ∀ n ∈ ns, PortableCollection n) : unseen seen ns = (ns, seen) := by
  induction ns with
  | nil => rfl
  | cons n ns ih =>
    obtain ⟨⟨v, -, -, rfl⟩, hns⟩ := List.forall_mem_cons.1 h
    have hno (i : Nat) : v.node ≠ .reference i := by
      cases v <;> rintro ⟨⟩
    rw [unseen, ih hns]
    exact hno

theorem mapM_filling {level : List Node} (h : ∀ n ∈ level, PortableCollection n) :
    ∃ next, level.mapM g.filling = .ok next ∧ ∀ n ∈ next.flatten, PortableCollection n := by
  induction level with
  | nil => exact ⟨[], rfl, List.forall_mem_nil _⟩
  | cons n level ih =>
    obtain ⟨⟨v, hv, hc, rfl⟩, hlevel⟩ := List.forall_mem_cons.1 h
    obtain ⟨next, hnext, hportable⟩ := ih hlevel
    obtain ⟨ns, hns, hfirst⟩ := filling_value g hv hc
    refine ⟨ns :: next, ?_, ?_⟩
    · rw [List.mapM_cons, hns, hnext]
      rfl
    · rw [List.flatten_cons]
      exact List.forall_mem_append.2 ⟨hfirst, hportable⟩

/-- Level by level there are only collections of the text. -/
theorem checkLevels_portable (fuel : Nat) (seen : List Nat) {level : List Node}
    (h : ∀ n ∈ level, PortableCollection n) : g.checkLevels fuel seen level = .ok () := by
  induction fuel generalizing level with
  | zero => rfl
  | succ fuel ih =>
    obtain ⟨next, hnext, hportable⟩ := mapM_filling g h
    have hlater := ih hportable
    rw [checkLevels, hnext]
    simp only [Bind.bind, Except.bind, unseen_portable seen hportable, hlater, ite_self]

theorem check_portable {v : Value} (hv : v.isPortable = true) (hc : v.isClosed = true)
    (hroot : g.root = v.node) (fuel : Nat) : g.check fuel = .ok () := by
  have hopening := opening_value g hv
  have hlevels := checkLevels_portable g fuel [] (List.forall_mem_singleton.2 ⟨v, hv, hc, rfl⟩)
  rw [hc] at hopening
  rw [check, hroot, hopening]
  exact hlevels

theorem value_portable {v : Value} (hv : v.isPortable = true) (hroot : g.root = v.node) :
    g.value = v.data := by
  rw [value, hroot]
  exact valueWith_value g _ hv

end Levels

end Graph

end LeasePlan.Yaml
