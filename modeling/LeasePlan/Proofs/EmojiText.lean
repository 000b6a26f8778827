import Mathlib
import LeasePlan.Console.Emoji
import LeasePlan.Proofs.AddressText

namespace LeasePlan.Emoji

/-- Every second of the texts between colons, if a colon is behind it. -/
def betweenColons : List (List Char) → List (List Char)
  | _ :: name :: next :: ps => name :: betweenColons (next :: ps)
  | _ => []

/-- The texts that are looked up as names. -/
def candidates (cs : List Char) : List (List Char) :=
  (cs.splitOnP Text.isSpace).flatMap fun w => betweenColons (Text.parts ':' w)

theorem candidates_append_space {c : Char} (hc : Text.isSpace c = true) (a b : List Char) :
    candidates (a ++ c :: b) = candidates a ++ candidates b := by
  rw [candidates, List.splitOnP_append_cons a b hc, List.flatMap_append]
  rfl

theorem subset_of_mem_splitOnP {p : Char → Bool} {cs w : List Char} (h : w ∈ cs.splitOnP p) :
    w ⊆ cs := by
  induction cs generalizing w with
  | nil =>
    rw [List.splitOnP_nil, List.mem_singleton] at h
    rw [h]
    exact List.Subset.refl []
  | cons c r ih =>
    rw [List.splitOnP_cons_eq_if_modifyHead] at h
    split at h
    · rcases List.mem_cons.1 h with rfl | hw
      · exact List.nil_subset _
      · exact List.subset_cons_of_subset c (ih hw)
    · cases hsplit : r.splitOnP p with
      | nil => exact absurd hsplit (List.splitOnP_ne_nil p r)
      | cons v vs =>
        rw [hsplit, List.modifyHead_cons] at h
        rw [hsplit] at ih
        rcases List.mem_cons.1 h with rfl | hw
        · exact List.cons_subset_cons c (ih List.mem_cons_self)
        · exact List.subset_cons_of_subset c (ih (List.mem_cons_of_mem v hw))

theorem candidates_of_colon_not_mem {cs : List Char} (h : ':' ∉ cs) : candidates cs = [] := by
  rw [candidates, List.flatMap_eq_nil_iff]
  intro w hw
  have hcolon : ':' ∉ w := fun hmem => h (subset_of_mem_splitOnP hw hmem)
  rw [Text.parts_of_not_mem hcolon]
  rfl

def isKnown (body : List Char) : Bool := (find? ((splitWish body).1.map Text.lower)).isSome

/-- No name is looked up from one side of a space to the other. -/
theorem nameless_append_space {a b : List Char} (ha : ∀ n ∈ candidates a, isKnown n = false)
    (hb : ∀ n ∈ candidates b, isKnown n = false) :
    ∀ n ∈ candidates (a ++ ' ' :: b), isKnown n = false := by
  rw [candidates_append_space (by decide), List.forall_mem_append]
  exact ⟨ha, hb⟩

theorem shown_of_unknown {body : List Char} (h : isKnown body = false) :
    shown body = ':' :: (body ++ [':']) := by
  have hnone : find? ((splitWish body).1.map Text.lower) = none := by
    rwa [isKnown, Option.isSome_eq_false_iff, Option.isNone_iff_eq_none] at h
  rw [shown]
  dsimp only
  rw [hnone]

theorem findIn_ne_nil {name e : List Char} {l : List (List Char)} (h : findIn name l = some e) :
    e ≠ [] := by
  fun_induction findIn name l with
  | case1 code r =>
    cases h
    exact mt List.map_eq_nil_iff.1 (Text.parts_ne_nil '-' code)
  | case2 n code r hne ih => exact ih h
  | case3 => cases h

theorem shown_ne_nil (body : List Char) : shown body ≠ [] := by
  rw [shown]
  dsimp only
  split
  next e he =>
    cases hname : (splitWish body).1.map Text.lower with
    | nil =>
      rw [hname] at he
      cases he
    | cons c r =>
      rw [hname, find?] at he
      obtain ⟨line, -, hline⟩ := List.exists_of_findSome?_eq_some he
      exact List.append_ne_nil_of_left_ne_nil (findIn_ne_nil hline) _
  · exact List.cons_ne_nil _ _

/-- A text between colons and white space. -/
def IsBody (p : List Char) : Prop := ∀ c ∈ p, c ≠ ':' ∧ Text.isSpace c = false

theorem IsBody.of_cons {c : Char} {p : List Char} (h : IsBody (c :: p)) :
    (c ≠ ':' ∧ Text.isSpace c = false) ∧ IsBody p := List.forall_mem_cons.1 h

theorem replaceFrom_none_cons {c : Char} (hc : c ≠ ':') (r : List Char) :
    replaceFrom none (c :: r) = c :: replaceFrom none r := by
  rw [replaceFrom, if_neg hc]

theorem replaceFrom_none_append {p : List Char} (hp : ':' ∉ p) (r : List Char) :
    replaceFrom none (p ++ r) = p ++ replaceFrom none r := by
  induction p with
  | nil => rfl
  | cons c p ih =>
    rw [List.mem_cons, not_or] at hp
    rw [List.cons_append, replaceFrom_none_cons (Ne.symm hp.1), ih hp.2, List.cons_append]

theorem replaceFrom_some_append {q : List Char} (hq : IsBody q) (body r : List Char) :
    replaceFrom (some body) (q ++ r) = replaceFrom (some (q.reverse ++ body)) r := by
  induction q generalizing body with
  | nil => rfl
  | cons c q ih =>
    obtain ⟨⟨hcolon, hspace⟩, hq⟩ := hq.of_cons
    rw [List.cons_append, replaceFrom, if_neg hcolon, hspace, if_neg Bool.false_ne_true, ih hq,
      List.reverse_cons, List.append_assoc, List.singleton_append]

/-- White space gives up a name that is open. -/
theorem replaceFrom_append_space {c : Char} (hc : Text.isSpace c = true)
    (open? : Option (List Char)) (a b : List Char) :
    replaceFrom open? (a ++ c :: b) = replaceFrom open? a ++ c :: replaceFrom none b := by
  have hcolon : c ≠ ':' := by
    rintro rfl
    cases hc
  induction a generalizing open? with
  | nil =>
    cases open? with
    | none => exact replaceFrom_none_cons hcolon b
    | some body =>
      change (if c = ':' then _ else if Text.isSpace c = true then _ else _) = _
      rw [if_neg hcolon, if_pos hc, replaceFrom, List.cons_append]
  | cons d a ih =>
    cases open? with
    | none =>
      rw [List.cons_append, replaceFrom, replaceFrom]
      split
      · exact ih _
      · rw [ih, List.cons_append]
    | some body =>
      rw [List.cons_append, replaceFrom, replaceFrom]
      split
      · rw [ih, List.append_assoc]
      · split
        · rw [ih, List.cons_append, List.append_assoc, List.cons_append]
        · exact ih _

theorem replace_append_space {c : Char} (hc : Text.isSpace c = true) (a b : List Char) :
    replace (a ++ c :: b) = replace a ++ c :: replace b :=
  replaceFrom_append_space hc none a b

theorem replaceFrom_some_ne_nil (body cs : List Char) : replaceFrom (some body) cs ≠ [] := by
  induction cs generalizing body with
  | nil => exact List.cons_ne_nil _ _
  | cons c r ih =>
    rw [replaceFrom]
    split
    · exact List.append_ne_nil_of_left_ne_nil (shown_ne_nil _) _
    · split
      · exact List.cons_ne_nil _ _
      · exact ih _

theorem replace_ne_nil {cs : List Char} (h : cs ≠ []) : replace cs ≠ [] := by
  cases cs with
  | nil => exact absurd rfl h
  | cons c r =>
    rw [replace, replaceFrom]
    split
    · exact replaceFrom_some_ne_nil [] r
    · exact List.cons_ne_nil _ _

theorem replace_between {p q : List Char} (hp : ':' ∉ p) (hq : IsBody q) (r : List Char) :
    replace (p ++ ':' :: (q ++ ':' :: r)) = p ++ (shown q ++ replace r) := by
  rw [replace, replaceFrom_none_append hp, replaceFrom, if_pos rfl, replaceFrom_some_append hq,
    replaceFrom, if_pos rfl, List.append_nil, List.reverse_reverse]
  rfl

theorem replace_open {p q : List Char} (hp : ':' ∉ p) (hq : IsBody q) :
    replace (p ++ ':' :: q) = p ++ ':' :: q := by
  have hall := replaceFrom_some_append hq [] []
  rw [List.append_nil, List.append_nil] at hall
  rw [replace, replaceFrom_none_append hp, replaceFrom, if_pos rfl, hall, replaceFrom,
    List.reverse_reverse]

theorem IsBody.colon_not_mem {p : List Char} (h : IsBody p) : ':' ∉ p :=
  fun hc => (h ':' hc).1 rfl

/-- Without white space a text stays as it is exactly if no text that is looked up is known, if the
emoji of those that are known do not begin with a colon. -/
theorem replace_joined_eq_self_iff {ps : List (List Char)} (hps : ∀ p ∈ ps, IsBody p)
    (hshown : ∀ n ∈ betweenColons ps, isKnown n = true → ∃ c ∈ (shown n).head?, c ≠ ':') :
    replace (Text.joined ':' ps) = Text.joined ':' ps ↔
      ∀ n ∈ betweenColons ps, isKnown n = false := by
  induction ps using betweenColons.induct with
  | case1 p name next ps ih =>
    rw [List.forall_mem_cons, List.forall_mem_cons] at hps
    obtain ⟨hp, hname, hps⟩ := hps
    rw [betweenColons, List.forall_mem_cons] at hshown
    have hjoined : Text.joined ':' (p :: name :: next :: ps) =
        p ++ ':' :: (name ++ ':' :: Text.joined ':' (next :: ps)) := rfl
    rw [hjoined, replace_between hp.colon_not_mem hname, List.append_cancel_left_eq, betweenColons,
      List.forall_mem_cons]
    cases hknown : isKnown name with
    | false =>
      rw [shown_of_unknown hknown, List.cons_append, List.append_assoc, List.singleton_append,
        List.cons_inj_right, List.append_cancel_left_eq, List.cons_inj_right, ih hps hshown.2]
      exact (and_iff_right rfl).symm
    | true =>
      refine iff_of_false ?_ fun h => Bool.false_ne_true h.1.symm
      intro h
      obtain ⟨c, hc, hne⟩ := hshown.1 hknown
      have hfirst := congrArg List.head? h
      rw [List.head?_append, Option.mem_def.1 hc, Option.some_or, List.head?_cons] at hfirst
      exact hne (Option.some.inj hfirst)
  | case2 ps hshort =>
    match ps, hshort with
    | [], _ => exact iff_of_true rfl (List.forall_mem_nil _)
    | [p], _ =>
      have hp : IsBody p := hps p List.mem_cons_self
      exact iff_of_true (replace_of_not_mem hp.colon_not_mem) (List.forall_mem_nil _)
    | [p, q], _ =>
      rw [List.forall_mem_cons, List.forall_mem_singleton] at hps
      exact iff_of_true (replace_open hps.1.colon_not_mem hps.2) (List.forall_mem_nil _)
    | p :: name :: next :: ps, hshort => exact absurd rfl (hshort p name next ps)

theorem IsBody.of_mem_parts {w p : List Char} (hw : ∀ c ∈ w, Text.isSpace c = false)
    (hp : p ∈ Text.parts ':' w) : IsBody p := by
  intro c hc
  refine ⟨?_, hw c (Text.subset_of_mem_parts hp hc)⟩
  rintro rfl
  exact Text.not_mem_of_mem_parts hp hc

/-- A text stays as it is if nothing that is looked up in it is known. -/
theorem replace_eq_self {cs : List Char} (h : ∀ n ∈ candidates cs, isKnown n = false) :
    replace cs = cs := by
  by_cases hspace : ∃ c ∈ cs, Text.isSpace c = true
  · obtain ⟨c, hmem, hc⟩ := hspace
    obtain ⟨a, b, rfl⟩ := List.append_of_mem hmem
    rw [candidates_append_space hc, List.forall_mem_append] at h
    rw [replace_append_space hc, replace_eq_self h.1, replace_eq_self h.2]
  · have hcs : ∀ c ∈ cs, Text.isSpace c = false := by
      intro c hc
      exact eq_false_of_ne_true fun hs => hspace ⟨c, hc, hs⟩
    rw [candidates, List.splitOnP_eq_singleton hcs, List.flatMap_singleton] at h
    have hiff := replace_joined_eq_self_iff (fun p hp => IsBody.of_mem_parts hcs hp)
      fun n hn hknown => absurd hknown (Bool.eq_false_iff.1 (h n hn))
    rw [Text.joined_parts] at hiff
    exact hiff.2 h
termination_by cs.length
decreasing_by
  · subst_vars; simp only [List.length_append, List.length_cons]; omega
  · subst_vars; simp only [List.length_append, List.length_cons]; omega

end LeasePlan.Emoji
