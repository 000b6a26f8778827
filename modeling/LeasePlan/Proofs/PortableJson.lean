import Mathlib
import LeasePlan.Yaml.Document
import LeasePlan.Proofs.JsonSyntax

namespace LeasePlan.Json

def Gap.isPortable (g : Gap) : Bool := !g.chars.contains '\t'

/-- A character as it is must be allowed there and end no line. -/
def Piece.isPortable : Piece → Bool
  | raw c _ => Yaml.isAllowed c && !Yaml.isBreak c
  | escape _ _ _ => true
  | unit _ _ _ _ _ _ => true

/-- Every unit of a string stands for itself. -/
def arePortable (ps : List Piece) : Bool :=
  ps.all Piece.isPortable && decide (joinSurrogates (codes ps) = codes ps)

def Number.isPortable (n : Number) : Bool :=
  match n.places, n.exponent with
  | none, none => decide (n.whole.chars.length ≤ 4300)
  | none, some _ => false
  | some _, none => true
  | some _, some e => decide (e.sign ≠ .none)

/-- The colon is on the line of the name and not too far behind the start of it. -/
def Key.isPortable (k : Key) : Bool :=
  k.before.isPortable && arePortable k.pieces && k.after.chars.all (· = ' ') &&
    decide ((quote k.pieces).length + k.after.chars.length ≤ 1024)

mutual

def Value.isPortable : Value → Bool
  | .word _ => true
  | .number n => n.isPortable
  | .string ps => arePortable ps
  | .emptyList gap => gap.isPortable
  | .list items => items.isPortable
  | .emptyObject gap => gap.isPortable
  | .object entries => entries.isPortable

def Slot.isPortable : Slot → Bool
  | .mk before value after => before.isPortable && value.isPortable && after.isPortable

def Items.isPortable : Items → Bool
  | .last item => item.isPortable
  | .more item rest => item.isPortable && rest.isPortable

def Entries.isPortable : Entries → Bool
  | .last key value => key.isPortable && value.isPortable
  | .more key value rest => key.isPortable && value.isPortable && rest.isPortable

end

end LeasePlan.Json

namespace LeasePlan.Yaml

section Breaks

variable {c : Char} {a b : List Char}

theorem normalBreaks_cons (h : c ≠ '\r') (r : List Char) :
    normalBreaks (c :: r) = c :: normalBreaks r := by
  rw [normalBreaks]
  · intro s hs
    exact absurd hs h
  · exact h

/-- Breaks are put right piece by piece where none is cut in two. -/
theorem normalBreaks_append (h : '\n' ∉ b.head?) :
    normalBreaks (a ++ b) = normalBreaks a ++ normalBreaks b := by
  fun_induction normalBreaks a with
  | case1 r ih => rw [List.cons_append, List.cons_append, normalBreaks, ih, List.cons_append]
  | case2 r hr ih =>
    have hne (s : List Char) : r ++ b ≠ '\n' :: s := by
      cases r with
      | nil =>
        rintro rfl
        exact h rfl
      | cons x r =>
        intro hs
        cases hs
        exact hr r rfl
    rw [List.cons_append, normalBreaks, ih, List.cons_append]
    exact hne
  | case3 c r hc hr ih =>
    rw [List.cons_append, normalBreaks_cons hr, ih, List.cons_append]
  | case4 => rfl

end Breaks

end LeasePlan.Yaml
