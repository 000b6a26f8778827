import Mathlib
import LeasePlan.Fault.Kind
import LeasePlan.Proofs.FaultText

namespace LeasePlan

/-- What a fault carries besides its message and its context. -/
inductive Attribute
  | text (value : RawText)
  | number (value : Int)
  | duration (value : Duration)
  | mention (value : Mention)
  | faults (value : List Fault)

namespace Cause

def attributes : Cause → List (String × Attribute)
  | general _ => []
  | nilConfig _ => []
  | nilInterface i => [("interface", .text i)]
  | nilProtocol i p => [("interface", .text i), ("protocol", .text p)]
  | negativeTimeout t => [("timeout", .duration t)]
  | domainName n r => [("name", .text n), ("reason", .text r)]
  | noInterfaces _ => []
  | addressFamily f e => [("field", .text f), ("expected", .text e)]
  | subnetMask m => [("mask", .mention m)]
  | boundary b a s => [("boundary", .text b), ("address", .mention a), ("subnet", .mention s)]
  | gatewayInRange g r => [("gateway", .mention g), ("address_range", .mention r)]
  | invalidRange _ => []
  | notAscending _ => []
  | familyMismatch _ => []
  | rangeTooLarge n l => [("length", .number n), ("limit", .number l)]
  | load p r => [("path", .mention p), ("reason", .text r)]

/-- The cause of a kind with a message and attributes, put together without asking how its message
is made. -/
def compose? : FaultKind → RawText → List (String × Attribute) → Option Cause
  | .general, m, [] => some (general m)
  | .nilConfig, m, [] => some (nilConfig m)
  | .nilInterface, _, [(_, .text i)] => some (nilInterface i)
  | .nilProtocol, _, [(_, .text i), (_, .text p)] => some (nilProtocol i p)
  | .negativeTimeout, _, [(_, .duration t)] => some (negativeTimeout t)
  | .domainName, _, [(_, .text n), (_, .text r)] => some (domainName n r)
  | .noInterfaces, m, [] => some (noInterfaces m)
  | .addressFamily, _, [(_, .text f), (_, .text e)] => some (addressFamily f e)
  | .subnetMask, _, [(_, .mention m)] => some (subnetMask m)
  | .boundary, _, [(_, .text b), (_, .mention a), (_, .mention s)] => some (boundary b a s)
  | .gatewayInRange, _, [(_, .mention g), (_, .mention r)] => some (gatewayInRange g r)
  | .invalidRange, m, [] => some (invalidRange m)
  | .notAscending, m, [] => some (notAscending m)
  | .familyMismatch, m, [] => some (familyMismatch m)
  | .rangeTooLarge, _, [(_, .number n), (_, .number l)] => some (rangeTooLarge n l)
  | .load, _, [(_, .mention p), (_, .text r)] => some (load p r)
  | _, _, _ => none

theorem compose?_eq (c : Cause) : compose? c.kind c.message c.attributes = some c := by
  cases c <;> rfl

/-- A kind, a message and attributes make no more than one cause. -/
theorem ext_of_attributes {c d : Cause} (hkind : c.kind = d.kind) (hmessage : c.message = d.message)
    (hattributes : c.attributes = d.attributes) : c = d := by
  have hc := c.compose?_eq
  rw [hkind, hmessage, hattributes, d.compose?_eq] at hc
  exact (Option.some.inj hc).symm

theorem kind_ne_joined (c : Cause) : c.kind ≠ .joined := by
  cases c <;> exact FaultKind.noConfusion

end Cause

namespace Fault

def attributes : Fault → List (String × Attribute)
  | single _ c => c.attributes
  | joined _ fs => [("errors", .faults fs)]

theorem ext_of_attributes {f g : Fault} (hkind : f.kind = g.kind) (hmessage : f.message = g.message)
    (hattributes : f.attributes = g.attributes) (hcontext : f.context = g.context) : f = g := by
  cases f with
  | single steps c =>
    cases g with
    | single steps' d =>
      obtain rfl : c = d := Cause.ext_of_attributes hkind hmessage hattributes
      cases hcontext
      rfl
    | joined steps' gs => exact absurd hkind c.kind_ne_joined
  | joined steps fs =>
    cases g with
    | single steps' d => exact absurd hkind.symm d.kind_ne_joined
    | joined steps' gs =>
      cases hattributes
      cases hcontext
      rfl

/-- One fault is another one with some steps before its context. -/
structure Extends (outer : List RawText) (f g : Fault) : Prop where
  kind_eq : g.kind = f.kind
  message_eq : g.message = f.message
  attributes_eq : g.attributes = f.attributes
  context_eq : g.context = outer ++ f.context

theorem extends_annotate (outer : List RawText) (f : Fault) :
    Extends outer f (f.annotate outer) := by
  constructor
  · cases f <;> rfl
  · exact message_annotate outer f
  · cases f <;> rfl
  · exact context_annotate outer f

namespace Extends

variable {outer inner : List RawText} {f g h : Fault}

theorem refl (f : Fault) : Extends [] f f := ⟨rfl, rfl, rfl, rfl⟩

theorem trans (hg : Extends inner f g) (hh : Extends outer g h) :
    Extends (outer ++ inner) f h := by
  constructor
  · rw [hh.kind_eq, hg.kind_eq]
  · rw [hh.message_eq, hg.message_eq]
  · rw [hh.attributes_eq, hg.attributes_eq]
  · rw [hh.context_eq, hg.context_eq, List.append_assoc]

/-- There is but one way to put steps before a context. -/
theorem unique (hg : Extends outer f g) (hh : Extends outer f h) : g = h := by
  apply ext_of_attributes
  · rw [hg.kind_eq, hh.kind_eq]
  · rw [hg.message_eq, hh.message_eq]
  · rw [hg.attributes_eq, hh.attributes_eq]
  · rw [hg.context_eq, hh.context_eq]

theorem text_eq (hg : Extends outer f g) :
    g.text = List.intercalate ": " (outer ++ f.context ++ [f.message]) := by
  rw [text, inContext, hg.context_eq, hg.message_eq]

theorem text_eq_append (hg : Extends outer f g) : g.text = followedBy ": " outer ++ f.text := by
  rw [Fault.text_eq, Fault.text_eq, hg.context_eq, hg.message_eq, followedBy_append,
    List.append_assoc]

end Extends

/-- A fault annotated with one list of steps after the other, each around the ones before. -/
def annotateAll (ps : List (List RawText)) (f : Fault) : Fault :=
  ps.foldl (fun g p => g.annotate p) f

/-- The fault and what it becomes with each list of steps. -/
def annotations (ps : List (List RawText)) (f : Fault) : List Fault :=
  ps.scanl (fun g p => g.annotate p) f

theorem extends_annotateAll (ps : List (List RawText)) (f : Fault) :
    Extends ps.reverse.flatten f (f.annotateAll ps) := by
  induction ps generalizing f with
  | nil => exact .refl f
  | cons p ps ih =>
    rw [List.reverse_cons, List.flatten_append, List.flatten_singleton]
    exact (extends_annotate p f).trans (ih (f.annotate p))

theorem annotations_getElem? {ps : List (List RawText)} {k : Nat} (hk : k ≤ ps.length) (f : Fault) :
    (f.annotations ps)[k]? = some (f.annotateAll (ps.take k)) := by
  induction ps generalizing f k with
  | nil =>
    obtain rfl : k = 0 := Nat.le_zero.1 hk
    rfl
  | cons p ps ih =>
    rw [annotations, List.scanl_cons]
    cases k with
    | zero => rfl
    | succ k => exact ih (Nat.le_of_succ_le_succ hk) (f.annotate p)

/-- What becomes of a fault that is annotated with one list of steps after the other. -/
structure Annotated (ps : List (List RawText)) (f g : Fault) : Prop
    extends Extends ps.reverse.flatten f g where
  isA_eq : ∀ k, g.kind.isA k = f.kind.isA k
  text_eq : g.text = List.intercalate ": " (ps.reverse.flatten ++ f.context ++ [f.message])
  text_eq_append : g.text = followedBy ": " ps.reverse.flatten ++ f.text
  at_once : g = f.annotate ps.reverse.flatten
  unique : ∀ h, Extends ps.reverse.flatten f h → h = g
  untouched : ∀ k ≤ ps.length, (f.annotations ps)[k]? = some (f.annotateAll (ps.take k))

/-- Lists of steps act on faults: those of later annotations come in front, and nothing but the
context depends on them. Each fault on the way stays what it was, the first one included. -/
theorem annotateAll_annotated (ps : List (List RawText)) (f : Fault) :
    Annotated ps f (f.annotateAll ps) := by
  have h := extends_annotateAll ps f
  constructor
  · exact h
  · intro k
    rw [h.kind_eq]
  · exact h.text_eq
  · exact h.text_eq_append
  · exact h.unique (extends_annotate _ f)
  · intro g hg
    exact hg.unique h
  · intro k hk
    exact annotations_getElem? hk f

end Fault

end LeasePlan
