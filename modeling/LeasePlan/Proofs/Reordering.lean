import Mathlib
import LeasePlan.Config.Reader
import LeasePlan.Proofs.Outcome

namespace LeasePlan

namespace Data

def text? : Data → Option String
  | text s => some s
  | _ => none

/-- No two entries have keys that stand for the same text. -/
def ApartBy {κ : Type} (read? : Data → Option κ) (es : List (Data × Data)) : Prop :=
  es.Pairwise fun e f => ∀ s, read? e.1 = some s → read? f.1 ≠ some s

/-- One mapping inside a value has its entries in another order; no text is its key twice. -/
inductive Reorders : Data → Data → Prop
  | entries {es fs : List (Data × Data)} (hk : ApartBy text? es) (h : es.Perm fs) :
      Reorders (mapping es) (mapping fs)
  | value (before after : List (Data × Data)) (key : Data) {v w : Data} (h : Reorders v w) :
      Reorders (mapping (before ++ (key, v) :: after)) (mapping (before ++ (key, w) :: after))
  | item (before after : List Data) {v w : Data} (h : Reorders v w) :
      Reorders (list (before ++ v :: after)) (list (before ++ w :: after))

/-- Equal up to the order of the entries of any mappings inside. -/
def Reordered : Data → Data → Prop := Relation.ReflTransGen Reorders

theorem ApartBy.perm {κ : Type} {read? : Data → Option κ} {es fs : List (Data × Data)}
    (h : ApartBy read? es) (hp : es.Perm fs) : ApartBy read? fs := by
  refine List.Pairwise.perm h hp ?_
  intro e f hef s hf he
  exact hef s he hf

theorem Reorders.symm {d e : Data} (h : Reorders d e) : Reorders e d := by
  induction h with
  | entries hk h => exact .entries (hk.perm h) h.symm
  | value before after key _ ih => exact .value before after key ih
  | item before after _ ih => exact .item before after ih

end Data

namespace Checked

variable {α β : Type}

theorem under_eq_ok {step : String} {x : Checked α} {a : α} :
    x.under step = .ok a ↔ x = .ok a := by
  cases x with
  | ok b => rfl
  | error is => simp only [under, reduceCtorEq]

theorem all_eq_ok {xs : List (Checked α)} {as : List α} :
    all xs = .ok as ↔ List.Forall₂ (fun x a => x = .ok a) xs as := by
  induction xs generalizing as with
  | nil =>
    simp only [all, Except.ok.injEq, List.forall₂_nil_left_iff, eq_comm]
  | cons x xs ih =>
    simp only [all, map_eq_ok, both_eq_ok, ih, List.forall₂_cons_left_iff, Prod.exists]
    constructor
    · rintro ⟨a, as, ⟨hx, hxs⟩, rfl⟩
      exact ⟨a, as, hx, hxs, rfl⟩
    · rintro ⟨a, as, hx, hxs, rfl⟩
      exact ⟨a, as, ⟨hx, hxs⟩, rfl⟩

end Checked

/-- Replacing an element by one that is related to whatever the old one is related to. -/
theorem forall₂_replace {α β : Type} {R : α → β → Prop} {before after : List α} {v w : α}
    (hvw : ∀ b, R v b → R w b) {bs : List β} (h : List.Forall₂ R (before ++ v :: after) bs) :
    List.Forall₂ R (before ++ w :: after) bs := by
  induction before generalizing bs with
  | nil =>
    cases h with
    | cons hv h => exact .cons (hvw _ hv) h
  | cons a before ih =>
    cases h with
    | cons ha h => exact .cons ha (ih h)

namespace Data

variable {α β : Type}

/-- What is read from a value does not change with the order of keys inside it. -/
def Steady (read : Data → Checked α) : Prop :=
  ∀ d e, Reorders d e → ∀ a, read d = .ok a → read e = .ok a

/-- What is read from the entries of a mapping does not change with the order of its keys. -/
def SteadyFields (fields : List (Data × Data) → Checked α) : Prop :=
  ∀ es fs, Reorders (mapping es) (mapping fs) → ∀ a, fields es = .ok a → fields fs = .ok a

/-- A reader of scalars accepts neither mappings nor lists. -/
theorem steady_of_scalar {read : Data → Checked α} (hm : ∀ es a, read (mapping es) ≠ .ok a)
    (hl : ∀ ds a, read (list ds) ≠ .ok a) : Steady read := by
  intro d e h a hd
  cases h with
  | entries => exact absurd hd (hm _ a)
  | value => exact absurd hd (hm _ a)
  | item => exact absurd hd (hl _ a)

theorem steady_readText : Steady readText :=
  steady_of_scalar (fun _ _ => nofun) fun _ _ => nofun

theorem steady_readBool : Steady readBool :=
  steady_of_scalar (fun _ _ => nofun) fun _ _ => nofun

theorem steady_readBytes : Steady readBytes :=
  steady_of_scalar (fun _ _ => nofun) fun _ _ => nofun

theorem steady_readAddress : Steady readAddress :=
  steady_of_scalar (fun _ _ => nofun) fun _ _ => nofun

theorem steady_readDuration : Steady readDuration :=
  steady_of_scalar (fun _ _ => nofun) fun _ _ => nofun

theorem steady_readBelow (bound : Nat) : Steady (readBelow bound) :=
  steady_of_scalar (fun _ _ => nofun) fun _ _ => nofun

theorem text?_eq_some_iff {k : Data} {s : String} : text? k = some s ↔ k = text s := by
  cases k <;> simp only [text?, reduceCtorEq, Option.some.injEq, text.injEq]

theorem field?_cons (name : String) (e : Data × Data) (es : List (Data × Data)) :
    field? name (e :: es) = if text? e.1 = some name then some e.2 else field? name es := by
  obtain ⟨k, v⟩ := e
  cases k <;> simp only [field?, text?, reduceCtorEq, ↓reduceIte, Option.some.injEq]

theorem field?_eq_some_iff {es : List (Data × Data)} (hk : ApartBy text? es) {name : String}
    {v : Data} : field? name es = some v ↔ (text name, v) ∈ es := by
  induction es with
  | nil => simp only [field?, reduceCtorEq, List.not_mem_nil]
  | cons e es ih =>
    obtain ⟨hhead, htail⟩ := List.pairwise_cons.1 hk
    obtain ⟨k, w⟩ := e
    rw [field?_cons]
    by_cases hkn : text? k = some name
    · have hnot : (text name, v) ∉ es := fun hv => hhead _ hv name hkn rfl
      obtain rfl := text?_eq_some_iff.1 hkn
      simp only [hkn, ↓reduceIte, Option.some.injEq, List.mem_cons, Prod.mk.injEq, true_and, hnot,
        or_false, eq_comm]
    · have hne : text name ≠ k := fun h => hkn (text?_eq_some_iff.2 h.symm)
      simp only [hkn, ↓reduceIte, ih htail, List.mem_cons, Prod.mk.injEq, hne, false_and, false_or]

/-- A field has the same value after reordering, or a value that is itself reordered. -/
theorem field?_reorders {es fs : List (Data × Data)} (h : Reorders (mapping es) (mapping fs))
    (name : String) : field? name es = field? name fs ∨
      ∃ v w, field? name es = some v ∧ field? name fs = some w ∧ Reorders v w := by
  cases h with
  | entries hk h =>
    left
    ext v
    rw [field?_eq_some_iff hk, field?_eq_some_iff (hk.perm h), h.mem_iff]
  | value before after key h =>
    induction before with
    | nil =>
      rw [List.nil_append, List.nil_append, field?_cons, field?_cons]
      by_cases hs : text? key = some name
      · exact .inr ⟨_, _, if_pos hs, if_pos hs, h⟩
      · exact .inl ((if_neg hs).trans (if_neg hs).symm)
    | cons e before ih =>
      rw [List.cons_append, List.cons_append, field?_cons, field?_cons]
      by_cases hs : text? e.1 = some name
      · exact .inl ((if_pos hs).trans (if_pos hs).symm)
      · rw [if_neg hs, if_neg hs]
        exact ih

/-- What depends on one field alone, and is read from its value, is steady. -/
theorem steadyFields_of_field? (name : String) {read : Data → Checked α}
    {f : List (Data × Data) → Checked α}
    (hsame : ∀ es fs, field? name es = field? name fs → f es = f fs)
    (hsome : ∀ es v, field? name es = some v → f es = (read v).under name) (h : Steady read) :
    SteadyFields f := by
  intro es fs hr a hd
  rcases field?_reorders hr name with heq | ⟨v, w, hv, hw, hvw⟩
  · rw [← hsame es fs heq]
    exact hd
  · rw [hsome es v hv, Checked.under_eq_ok] at hd
    rw [hsome fs w hw, Checked.under_eq_ok]
    exact h v w hvw a hd

theorem steadyFields_fieldOr (name : String) (default : α) {read : Data → Checked α}
    (h : Steady read) : SteadyFields (fieldOr name default read) := by
  refine steadyFields_of_field? name (fun es fs heq => ?_) (fun es v hv => ?_) h
  · rw [fieldOr, fieldOr, heq]
  · rw [fieldOr, hv]

theorem steadyFields_requiredField (name : String) {read : Data → Checked α} (h : Steady read) :
    SteadyFields (requiredField name read) := by
  refine steadyFields_of_field? name (fun es fs heq => ?_) (fun es v hv => ?_) h
  · rw [requiredField, requiredField, heq]
  · rw [requiredField, hv]

theorem SteadyFields.both {f : List (Data × Data) → Checked α}
    {g : List (Data × Data) → Checked β} (hf : SteadyFields f) (hg : SteadyFields g) :
    SteadyFields fun es => (f es).both (g es) := by
  intro es fs hr p h
  obtain ⟨h1, h2⟩ := Checked.both_eq_ok.1 h
  exact Checked.both_eq_ok.2 ⟨hf es fs hr _ h1, hg es fs hr _ h2⟩

theorem SteadyFields.map {f : List (Data × Data) → Checked α} (hf : SteadyFields f) (k : α → β) :
    SteadyFields fun es => (f es).map k := by
  intro es fs hr b h
  obtain ⟨a, ha, rfl⟩ := map_eq_ok.1 h
  exact map_eq_ok.2 ⟨a, hf es fs hr a ha, rfl⟩

theorem keys_perm {es fs : List (Data × Data)} (h : Reorders (mapping es) (mapping fs)) :
    (es.map Prod.fst).Perm (fs.map Prod.fst) := by
  cases h with
  | entries hk h => exact h.map Prod.fst
  | value before after key h =>
    simp only [List.map_append, List.map_cons]
    exact List.Perm.refl _

theorem onlyFields_eq_ok_iff {known : List String} {es : List (Data × Data)} :
    onlyFields known es = .ok () ↔ ∀ k ∈ es.map Prod.fst, keyIssue? known k = none := by
  have hnil : (es.filterMap fun e => keyIssue? known e.1) = [] ↔
      ∀ k ∈ es.map Prod.fst, keyIssue? known k = none := by
    simp only [List.filterMap_eq_nil_iff, List.forall_mem_map]
  rw [← hnil, onlyFields]
  split
  next h => simp only [h]
  next h => simp only [h, reduceCtorEq]

theorem keyIssue?_of_isBroken {key : Data} (h : key.isBroken = true)
    (known : List String) : keyIssue? known key = some ⟨[key.step], .keyNotText⟩ := by
  cases key with
  | broken t => rfl
  | _ => cases h

theorem onlyFields_ne_ok_of_broken {known : List String} {es : List (Data × Data)}
    (hb : hasBrokenKey es = true) : onlyFields known es ≠ .ok () := by
  intro h
  obtain ⟨e, he, hs⟩ := List.any_eq_true.1 hb
  have hnone := onlyFields_eq_ok_iff.1 h e.1 (List.mem_map_of_mem he)
  rw [keyIssue?_of_isBroken hs] at hnone
  cases hnone

theorem steadyFields_onlyFields (known : List String) : SteadyFields (onlyFields known) := by
  intro es fs hr u h
  cases u
  rw [onlyFields_eq_ok_iff] at h ⊢
  intro k hk
  exact h k ((keys_perm hr).mem_iff.2 hk)

theorem readObject_eq_ok_iff {model : String} {known : List String}
    {fields : List (Data × Data) → Checked α} {es : List (Data × Data)} {a : α} :
    readObject model known fields (mapping es) = .ok a ↔
      fields es = .ok a ∧ onlyFields known es = .ok () := by
  rw [readObject]
  split
  next hb =>
    refine iff_of_false (by rw [Checked.failInstead]; exact nofun) fun h => ?_
    exact onlyFields_ne_ok_of_broken hb h.2
  next =>
    rw [map_eq_ok]
    simp only [Checked.both_eq_ok, Prod.exists]
    constructor
    · rintro ⟨b, u, h, rfl⟩
      exact h
    · intro h
      exact ⟨a, (), h, rfl⟩

theorem steady_readObject (model : String) (known : List String)
    {fields : List (Data × Data) → Checked α} (h : SteadyFields fields) :
    Steady (readObject model known fields) := by
  have hmapping {es fs : List (Data × Data)} (hr : Reorders (mapping es) (mapping fs)) (a : α)
      (hd : readObject model known fields (mapping es) = .ok a) :
      readObject model known fields (mapping fs) = .ok a := by
    obtain ⟨hf, ho⟩ := readObject_eq_ok_iff.1 hd
    exact readObject_eq_ok_iff.2 ⟨h es fs hr a hf, steadyFields_onlyFields known es fs hr () ho⟩
  intro d e hr a hd
  cases hr with
  | entries hk hp => exact hmapping (.entries hk hp) a hd
  | value before after key hvw => exact hmapping (.value before after key hvw) a hd
  | item before after hvw => cases hd

theorem steady_readNullable {read : Data → Checked α} (h : Steady read) :
    Steady (readNullable read) := by
  intro d e hr a hd
  have hread (x : Data) (hx : x ≠ null) : readNullable read x = (read x).map some := by
    cases x <;> first | rfl | exact absurd rfl hx
  have hdn : d ≠ null := by
    rintro rfl
    cases hr
  have hen : e ≠ null := by
    rintro rfl
    cases hr
  rw [hread d hdn] at hd
  rw [hread e hen]
  obtain ⟨b, hb, rfl⟩ := map_eq_ok.1 hd
  exact map_eq_ok.2 ⟨b, h d e hr b hb, rfl⟩

theorem readItems_eq_ok_iff {read : Data → Checked α} {ds : List Data} {as : List α} :
    readItems read ds = .ok as ↔ List.Forall₂ (fun d a => read d = .ok a) ds as := by
  have hfrom (ds : List Data) (as : List α) (k : Nat) :
      List.Forall₂ (fun x a => x = .ok a)
        ((ds.zipIdx k).map fun d => (read d.1).under (toString d.2)) as ↔
          List.Forall₂ (fun d a => read d = .ok a) ds as := by
    induction ds generalizing as k with
    | nil => simp only [List.zipIdx_nil, List.map_nil, List.forall₂_nil_left_iff]
    | cons d ds ih =>
      simp only [List.zipIdx_cons, List.map_cons, List.forall₂_cons_left_iff, ih,
        Checked.under_eq_ok]
  rw [readItems, Checked.all_eq_ok, hfrom]

theorem steady_readList {read : Data → Checked α} (h : Steady read) : Steady (readList read) := by
  intro d e hr as hd
  cases hr with
  | entries => cases hd
  | value => cases hd
  | item before after hvw =>
    refine readItems_eq_ok_iff.2 (forall₂_replace (fun a ha => ?_) (readItems_eq_ok_iff.1 hd))
    exact h _ _ hvw a ha

theorem steady_readOption : Steady readOption := by
  refine steady_readObject _ _ (SteadyFields.map (SteadyFields.both ?_ ?_) _)
  · exact steadyFields_requiredField _ (steady_readBelow _)
  · exact steadyFields_fieldOr _ _ steady_readBytes

theorem steady_readV4Config : Steady readV4Config := by
  have haddress (name : String) := steadyFields_fieldOr name none steady_readAddress
  have hoptions := steadyFields_fieldOr "options" [] (steady_readList steady_readOption)
  have hlease := steadyFields_fieldOr "lease_duration" Duration.hour steady_readDuration
  have henabled := steadyFields_fieldOr "enabled" false steady_readBool
  refine steady_readObject _ _ (SteadyFields.map ?_ _)
  exact (haddress _).both <| (haddress _).both <| (haddress _).both <| (haddress _).both <|
    hoptions.both <| hlease.both henabled

theorem steady_readV6Config : Steady readV6Config := by
  have hstart := steadyFields_fieldOr "range_start" none steady_readAddress
  have hoptions := steadyFields_fieldOr "options" [] (steady_readList steady_readOption)
  have hlease := steadyFields_fieldOr "lease_duration" Duration.hour steady_readDuration
  have hflag (name : String) := steadyFields_fieldOr name false steady_readBool
  refine steady_readObject _ _ (SteadyFields.map ?_ _)
  exact hstart.both <| hoptions.both <| hlease.both <| (hflag _).both <| (hflag _).both (hflag _)

theorem steady_readInterface : Steady readInterface := by
  have h4 := steadyFields_fieldOr "ipv4" none (steady_readNullable steady_readV4Config)
  have h6 := steadyFields_fieldOr "ipv6" none (steady_readNullable steady_readV6Config)
  exact steady_readObject _ _ (SteadyFields.map (h4.both h6) _)

end Data

end LeasePlan
