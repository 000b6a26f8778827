import Mathlib
import LeasePlan.Yaml.Document
import LeasePlan.Proofs.FlowTokens

namespace LeasePlan.Json

open Yaml (Node Tag Token codesOf)

def Key.node (k : Key) : Node := .scalar .str (codes k.pieces)

mutual

def Value.node : Value → Node
  | .word w => .scalar (Tag.ofText w.chars) (codesOf w.chars)
  | .number n => .scalar (Tag.ofText n.chars) (codesOf n.chars)
  | .string ps => .scalar .str (codes ps)
  | .emptyList _ => .sequence .seq []
  | .list items => .sequence .seq items.nodes
  | .emptyObject _ => .mapping .map []
  | .object entries => .mapping .map entries.nodes

def Slot.node : Slot → Node
  | .mk _ value _ => value.node

def Items.nodes : Items → List Node
  | .last item => [item.node]
  | .more item rest => item.node :: rest.nodes

def Entries.nodes : Entries → List (Node × Node)
  | .last key value => [(key.node, value.node)]
  | .more key value rest => (key.node, value.node) :: rest.nodes

end

/-- The tokens that a value begins with. -/
def Opens (t : Token) : Prop :=
  (∃ x, t = .scalar x) ∨ t = .flowSequenceStart ∨ t = .flowMappingStart

theorem Value.exists_opens (v : Value) : ∃ t r, v.tokens = t :: r ∧ Opens t := by
  cases v with
  | word w => exact ⟨_, _, rfl, .inl ⟨_, rfl⟩⟩
  | number n => exact ⟨_, _, rfl, .inl ⟨_, rfl⟩⟩
  | string ps => exact ⟨_, _, rfl, .inl ⟨_, rfl⟩⟩
  | emptyList gap => exact ⟨_, _, rfl, .inr (.inl rfl)⟩
  | list items => exact ⟨_, _, rfl, .inr (.inl rfl)⟩
  | emptyObject gap => exact ⟨_, _, rfl, .inr (.inr rfl)⟩
  | object entries => exact ⟨_, _, rfl, .inr (.inr rfl)⟩

theorem Value.one_le_length_tokens (v : Value) : 1 ≤ v.tokens.length := by
  obtain ⟨x, r, hx, -⟩ := v.exists_opens
  rw [hx]
  exact Nat.le_add_left 1 _

theorem Slot.exists_opens (t : Slot) : ∃ x r, t.tokens = x :: r ∧ Opens x := by
  cases t with
  | mk before v after => exact v.exists_opens

theorem Slot.one_le_length_tokens (t : Slot) : 1 ≤ t.tokens.length := by
  cases t with
  | mk before v after => exact v.one_le_length_tokens

end LeasePlan.Json

namespace LeasePlan.Yaml

open Json (Key Value Slot Items Entries Opens)

namespace Composer

/-- The same composer with these tokens left. -/
def reading (s : Composer) (ts : List Token) : Composer := { s with tokens := ts }

section Equations

variable (s : Composer) (r : List Token) (fuel : Nat)

theorem node_scalar (inBlock dashes : Bool) (x : Scalar) :
    node (fuel + 1) inBlock dashes (s.reading (.scalar x :: r)) =
      .ok (.scalar (scalarTag none x) x.codes, s.reading r) := by
  rw [node]
  rfl

theorem node_sequence (inBlock dashes : Bool) :
    node (fuel + 1) inBlock dashes (s.reading (.flowSequenceStart :: r)) =
      (flowItems fuel true (s.reading r)).bind fun p => .ok (.sequence .seq p.1, p.2) := by
  rw [node]
  rfl

theorem node_mapping (inBlock dashes : Bool) :
    node (fuel + 1) inBlock dashes (s.reading (.flowMappingStart :: r)) =
      (flowEntries fuel true (s.reading r)).bind fun p => .ok (.mapping .map p.1, p.2) := by
  rw [node]
  rfl

/-- What is left for items or entries: behind others there is a comma first. -/
def separated (first : Bool) (ts : List Token) : List Token :=
  if first then ts else .flowEntry :: ts

theorem flowItems_end (first : Bool) :
    flowItems (fuel + 1) first (s.reading (.flowSequenceEnd :: r)) = .ok ([], s.reading r) := by
  rw [flowItems]
  rfl

theorem flowItems_item (first : Bool) {t : Token} (ht : Opens t) :
    flowItems (fuel + 1) first (s.reading (separated first (t :: r))) =
      (node fuel false false (s.reading (t :: r))).bind fun p =>
        (flowItems fuel false p.2).bind fun q => .ok (p.1 :: q.1, q.2) := by
  rw [flowItems]
  rcases ht with ⟨x, rfl⟩ | rfl | rfl <;> cases first <;> rfl

theorem flowKey_scalar (x : Scalar) :
    flowKey (fuel + 3) (s.reading (.scalar x :: r)) =
      .ok (.scalar (scalarTag none x) x.codes, s.reading r) := by
  rw [flowKey]
  change flowPart (fuel + 2) (s.reading (.scalar x :: r)) = _
  rw [flowPart]
  change node (fuel + 1) false false (s.reading (.scalar x :: r)) = _
  rw [node_scalar]

theorem flowValue_value {t : Token} (ht : Opens t) :
    flowValue (fuel + 2) (s.reading (.value :: t :: r)) =
      node fuel false false (s.reading (t :: r)) := by
  rw [flowValue]
  change flowPart (fuel + 1) (s.reading (t :: r)) = _
  rw [flowPart]
  rcases ht with ⟨x, rfl⟩ | rfl | rfl <;> rfl

theorem flowEntries_end (first : Bool) :
    flowEntries (fuel + 1) first (s.reading (.flowMappingEnd :: r)) = .ok ([], s.reading r) := by
  rw [flowEntries]
  rfl

theorem flowEntries_key (first : Bool) :
    flowEntries (fuel + 1) first (s.reading (separated first (.key :: r))) =
      (flowKey fuel (s.reading r)).bind fun p => (flowValue fuel p.2).bind fun q =>
        (flowEntries fuel false q.2).bind fun e => .ok ((p.1, q.1) :: e.1, e.2) := by
  rw [flowEntries]
  cases first <;> rfl

end Equations

theorem scalarTag_plain (cs : List Char) :
    scalarTag none ⟨codesOf cs, true⟩ = Tag.ofText cs :=
  congrArg Tag.ofText (map_ofNat_codesOf cs)

/-- An item in brackets that is read as it should be. -/
theorem flowItems_slot {s : Composer} {r : List Token} {fuel : Nat} (first : Bool) {t : Slot}
    (hitem : node fuel false false (s.reading (t.tokens ++ r)) = .ok (t.node, s.reading r)) :
    flowItems (fuel + 1) first (s.reading (separated first (t.tokens ++ r))) =
      (flowItems fuel false (s.reading r)).bind fun q => .ok (t.node :: q.1, q.2) := by
  obtain ⟨x, u, hx, hopens⟩ := t.exists_opens
  rw [hx, List.cons_append] at hitem ⊢
  rw [flowItems_item s (u ++ r) fuel first hopens, hitem]
  rfl

/-- An entry in braces whose value is read as it should be. -/
theorem flowEntries_slot {s : Composer} {r : List Token} {fuel : Nat} (first : Bool) (k : Key)
    {t : Slot}
    (hvalue : node (fuel + 1) false false (s.reading (t.tokens ++ r)) = .ok (t.node, s.reading r)) :
    flowEntries (fuel + 4) first (s.reading (separated first (k.tokens ++ (t.tokens ++ r)))) =
      (flowEntries (fuel + 3) false (s.reading r)).bind fun e =>
        .ok ((k.node, t.node) :: e.1, e.2) := by
  obtain ⟨x, u, hx, hopens⟩ := t.exists_opens
  have hpart : flowValue (fuel + 3) (s.reading (.value :: (t.tokens ++ r))) =
      .ok (t.node, s.reading r) := by
    rw [hx, List.cons_append] at hvalue ⊢
    rw [flowValue_value s (u ++ r) (fuel + 1) hopens, hvalue]
  have hkey := flowEntries_key s
    (.scalar ⟨Json.codes k.pieces, false⟩ :: .value :: (t.tokens ++ r)) (fuel + 3) first
  rw [flowKey_scalar, Except.bind, hpart, Except.bind] at hkey
  exact hkey

mutual

theorem node_value {v : Value} {fuel : Nat} (hf : 4 * v.tokens.length ≤ fuel)
    (inBlock dashes : Bool) (s : Composer) (r : List Token) :
    node fuel inBlock dashes (s.reading (v.tokens ++ r)) = .ok (v.node, s.reading r) := by
  have hlength := v.one_le_length_tokens
  obtain ⟨fuel, rfl⟩ := Nat.exists_eq_add_of_le' (by omega : 1 ≤ fuel)
  cases v with
  | word w =>
    refine (node_scalar s r fuel inBlock dashes _).trans ?_
    rw [scalarTag_plain]
    rfl
  | number n =>
    refine (node_scalar s r fuel inBlock dashes _).trans ?_
    rw [scalarTag_plain]
    rfl
  | string ps =>
    exact node_scalar s r fuel inBlock dashes _
  | emptyList gap =>
    have htwo : (Value.emptyList gap).tokens.length = 2 := rfl
    obtain ⟨fuel, rfl⟩ := Nat.exists_eq_add_of_le' (by omega : 1 ≤ fuel)
    have hnode := node_sequence s (.flowSequenceEnd :: r) (fuel + 1) inBlock dashes
    rw [flowItems_end] at hnode
    exact hnode
  | emptyObject gap =>
    have htwo : (Value.emptyObject gap).tokens.length = 2 := rfl
    obtain ⟨fuel, rfl⟩ := Nat.exists_eq_add_of_le' (by omega : 1 ≤ fuel)
    have hnode := node_mapping s (.flowMappingEnd :: r) (fuel + 1) inBlock dashes
    rw [flowEntries_end] at hnode
    exact hnode
  | list items =>
    rw [Value.tokens, List.length_cons, List.length_append, List.length_singleton] at hf
    have hle : 4 * items.tokens.length + 1 ≤ fuel := by omega
    have hitems := flowItems_items hle true s r
    rw [separated, if_pos rfl] at hitems
    rw [Value.tokens, List.cons_append, List.append_assoc, List.singleton_append, node_sequence,
      hitems]
    rfl
  | object entries =>
    rw [Value.tokens, List.length_cons, List.length_append, List.length_singleton] at hf
    have hle : 4 * entries.tokens.length + 1 ≤ fuel := by omega
    have hentries := flowEntries_entries hle true s r
    rw [separated, if_pos rfl] at hentries
    rw [Value.tokens, List.cons_append, List.append_assoc, List.singleton_append, node_mapping,
      hentries]
    rfl

theorem node_slot {t : Slot} {fuel : Nat} (hf : 4 * t.tokens.length ≤ fuel)
    (inBlock dashes : Bool) (s : Composer) (r : List Token) :
    node fuel inBlock dashes (s.reading (t.tokens ++ r)) = .ok (t.node, s.reading r) := by
  cases t with
  | mk before v after => exact node_value hf inBlock dashes s r

theorem flowItems_items {items : Items} {fuel : Nat} (hf : 4 * items.tokens.length + 1 ≤ fuel)
    (first : Bool) (s : Composer) (r : List Token) :
    flowItems fuel first (s.reading (separated first (items.tokens ++ .flowSequenceEnd :: r))) =
      .ok (items.nodes, s.reading r) := by
  cases items with
  | last item =>
    rw [Items.tokens] at hf
    have hlength := item.one_le_length_tokens
    obtain ⟨fuel, rfl⟩ := Nat.exists_eq_add_of_le' (by omega : 2 ≤ fuel)
    have hle : 4 * item.tokens.length ≤ fuel + 1 := by omega
    have hitem := node_slot hle false false s (.flowSequenceEnd :: r)
    rw [Items.tokens, flowItems_slot first hitem, flowItems_end]
    rfl
  | more item rest =>
    rw [Items.tokens, List.length_append, List.length_cons] at hf
    obtain ⟨fuel, rfl⟩ := Nat.exists_eq_add_of_le' (by omega : 1 ≤ fuel)
    have hle : 4 * item.tokens.length ≤ fuel := by omega
    have hle' : 4 * rest.tokens.length + 1 ≤ fuel := by omega
    have hitem := node_slot hle false false s (.flowEntry :: (rest.tokens ++ .flowSequenceEnd :: r))
    have hrest := flowItems_items hle' false s r
    rw [separated, if_neg Bool.false_ne_true] at hrest
    rw [Items.tokens, List.append_assoc, List.cons_append, flowItems_slot first hitem, hrest]
    rfl

theorem flowEntries_entries {entries : Entries} {fuel : Nat}
    (hf : 4 * entries.tokens.length + 1 ≤ fuel) (first : Bool) (s : Composer) (r : List Token) :
    flowEntries fuel first (s.reading (separated first (entries.tokens ++ .flowMappingEnd :: r))) =
      .ok (entries.nodes, s.reading r) := by
  cases entries with
  | last key value =>
    rw [Entries.tokens, List.length_append] at hf
    have hkey : key.tokens.length = 3 := rfl
    obtain ⟨fuel, rfl⟩ := Nat.exists_eq_add_of_le' (by omega : 4 ≤ fuel)
    have hle : 4 * value.tokens.length ≤ fuel + 1 := by omega
    have hvalue := node_slot hle false false s (.flowMappingEnd :: r)
    rw [Entries.tokens, List.append_assoc, flowEntries_slot first key hvalue, flowEntries_end]
    rfl
  | more key value rest =>
    rw [Entries.tokens, List.length_append, List.length_append, List.length_cons] at hf
    have hkey : key.tokens.length = 3 := rfl
    obtain ⟨fuel, rfl⟩ := Nat.exists_eq_add_of_le' (by omega : 4 ≤ fuel)
    have hle : 4 * value.tokens.length ≤ fuel + 1 := by omega
    have hle' : 4 * rest.tokens.length + 1 ≤ fuel + 3 := by omega
    have hvalue := node_slot hle false false s (.flowEntry :: (rest.tokens ++ .flowMappingEnd :: r))
    have hrest := flowEntries_entries hle' false s r
    rw [separated, if_neg Bool.false_ne_true] at hrest
    rw [Entries.tokens, List.append_assoc, List.append_assoc, List.cons_append,
      flowEntries_slot first key hvalue, hrest]
    rfl

end

/-- A document is the node that it begins with if nothing follows that node. -/
theorem document_node {s : Composer} {r : List Token} {fuel : Nat} {t : Token} {n : Node}
    (ht : Opens t)
    (hnode : node (fuel + 1) true false (s.reading (t :: r)) = .ok (n, s.reading [.streamEnd])) :
    document (fuel + 1) (s.reading (t :: r)) = .ok (some n, s.reading [.streamEnd]) := by
  rcases ht with ⟨x, rfl⟩ | rfl | rfl
  all_goals
    simp only [document, Bind.bind, StateT.bind, Except.bind, peek, reading] at hnode ⊢
    rw [hnode]
    rfl

/-- A value that is the whole document. -/
theorem document_value {v : Value} {fuel : Nat} (hf : 4 * v.tokens.length + 1 ≤ fuel)
    (s : Composer) :
    document fuel (s.reading (v.tokens ++ [.streamEnd])) =
      .ok (some v.node, s.reading [.streamEnd]) := by
  obtain ⟨fuel, rfl⟩ := Nat.exists_eq_add_of_le' (by omega : 1 ≤ fuel)
  have hle : 4 * v.tokens.length ≤ fuel + 1 := by omega
  have hvalue := node_value hle true false s [.streamEnd]
  obtain ⟨x, u, hx, hopens⟩ := v.exists_opens
  rw [hx, List.cons_append] at hvalue ⊢
  exact document_node hopens hvalue

end Composer

/-- The document of a text of one value without anchors. -/
theorem ofTokens_value (v : Value) :
    Graph.ofTokens (v.tokens ++ [.streamEnd]) = .ok (some ⟨v.node, []⟩) := by
  let start : Composer := ⟨[], Composer.defaultHandles, [], []⟩
  have hdocument : Composer.document (4 * (v.tokens ++ [Token.streamEnd]).length + 4)
      (start.reading (v.tokens ++ [.streamEnd])) =
        .ok (some v.node, start.reading [.streamEnd]) := by
    apply Composer.document_value
    rw [List.length_append]
    omega
  rw [Graph.ofTokens]
  change (Except.bind (Composer.document _ (start.reading _)) _) = _
  rw [hdocument]
  rfl

end LeasePlan.Yaml
