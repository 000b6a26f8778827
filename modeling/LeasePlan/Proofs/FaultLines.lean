import Mathlib
import LeasePlan.Proofs.AddressText
import LeasePlan.Proofs.DomainGrammar
import LeasePlan.Proofs.FaultText
import LeasePlan.Proofs.Numerals

namespace LeasePlan

/-- The texts between the line breaks of a text. -/
def readLines (s : RawText) : List RawText := s.splitOn (.char '\n')

/-- A text without a line break. -/
def IsLine (s : RawText) : Prop := .char '\n' ∉ s

instance (s : RawText) : Decidable (IsLine s) := inferInstanceAs (Decidable (.char '\n' ∉ s))

theorem isLine_of_mem_readLines {s t : RawText} (h : t ∈ readLines s) : IsLine t := by
  rw [readLines, ← Text.parts_eq_splitOn] at h
  exact Text.not_mem_of_mem_parts h

/-- Texts on lines of their own are read back exactly if they are lines. -/
theorem readLines_intercalate_iff {ss : List RawText} (hne : ss ≠ []) :
    readLines (List.intercalate "\n" ss) = ss ↔ ∀ s ∈ ss, IsLine s := by
  constructor
  · intro h s hs
    rw [← h] at hs
    exact isLine_of_mem_readLines hs
  · intro h
    exact List.splitOn_intercalate (.char '\n') h hne

section Lines

variable {s t : RawText}

theorem isLine_append : IsLine (s ++ t) ↔ IsLine s ∧ IsLine t := by
  rw [IsLine, List.mem_append, not_or]
  rfl

theorem isLine_ofChars {cs : List Char} : IsLine (RawText.ofChars cs) ↔ '\n' ∉ cs :=
  not_congr RawText.mem_ofChars

/-- A quoted text has the line breaks of the text. -/
theorem isLine_quote : IsLine (quote s) ↔ IsLine s := by
  have hescape (t : RawText) : .char '\n' ∈ Quoted.escape t ↔ .char '\n' ∈ t := by
    induction t with
    | nil => rfl
    | cons c t ih =>
      rw [Quoted.escape]
      split
      · rw [List.mem_cons, List.mem_cons, List.mem_cons, ih]
        exact or_iff_right (by decide)
      · rw [List.mem_cons, List.mem_cons, ih]
  have hquote : .char '\n' ∈ quote s ↔ .char '\n' ∈ s := by
    rw [quote, List.mem_cons, List.mem_append, hescape, List.mem_singleton]
    exact (or_iff_right (by decide)).trans (or_iff_left (by decide))
  exact not_congr hquote

theorem isLine_followedBy {sep : RawText} (hsep : IsLine sep) {ss : List RawText} :
    IsLine (Fault.followedBy sep ss) ↔ ∀ s ∈ ss, IsLine s := by
  induction ss with
  | nil => exact iff_of_true List.not_mem_nil (List.forall_mem_nil _)
  | cons s ss ih =>
    rw [Fault.followedBy, isLine_append, isLine_append, ih, List.forall_mem_cons]
    exact and_congr_left fun _ => and_iff_left hsep

theorem isLine_interfaceContext {name : RawText} :
    IsLine (interfaceContext name) ↔ IsLine name := by
  rw [interfaceContext, isLine_append, isLine_quote]
  exact and_iff_right (by decide)

theorem isLine_decimal (n : Nat) : IsLine (String.ofList (Numeral.decimal n)) := by
  rw [RawText.ofString_ofList, isLine_ofChars]
  exact Numeral.not_mem_decimal (by decide) n

theorem isLine_toString (n : Int) : IsLine (toString n) := by
  cases n with
  | ofNat n => exact isLine_decimal n
  | negSucc n =>
    change IsLine (RawText.ofString ("-" ++ String.ofList (Numeral.decimal (n + 1))))
    rw [RawText.ofString_append, isLine_append]
    exact ⟨by decide, isLine_decimal (n + 1)⟩

end Lines

theorem Duration.newline_not_mem_unitChars (n : Nat) : '\n' ∉ unitChars n := by
  have hdecimal (k : Nat) : '\n' ∉ Numeral.decimal k := Numeral.not_mem_decimal (by decide) k
  have hfraction (places k : Nat) : '\n' ∉ Numeral.fraction places k :=
    Numeral.not_mem_fraction (by decide) (by decide) places k
  rw [unitChars]
  split
  · decide
  · split
    · simp [hdecimal]
    · split
      · simp [hfraction]
      · dsimp only
        split
        · simp [hdecimal, hfraction]
        · split
          · simp [hdecimal, hfraction]
          · simp [hfraction]

theorem Duration.isLine_unitText (n : Int) : IsLine (unitText n) := by
  rw [unitText, RawText.ofString_ofList, isLine_ofChars, minusIf]
  split
  · rw [List.mem_cons, not_or]
    exact ⟨by decide, newline_not_mem_unitChars _⟩
  · exact newline_not_mem_unitChars _

namespace Cause

/-- The texts that a cause is made of. -/
def told : Cause → List RawText
  | general m => [m]
  | nilConfig m => [m]
  | nilInterface i => [i]
  | nilProtocol i p => [i, p]
  | negativeTimeout _ => []
  | domainName n r => [n, r]
  | noInterfaces m => [m]
  | addressFamily f e => [f, e]
  | subnetMask m => [m.chars]
  | boundary b a s => [b, a.chars, s.chars]
  | gatewayInRange g r => [g.chars, r.chars]
  | invalidRange m => [m]
  | notAscending m => [m]
  | familyMismatch m => [m]
  | rangeTooLarge _ _ => []
  | load p r => [p.chars, r]

/-- A cause brings no line break with it but those of the texts that it is made of. -/
theorem isLine_iff_told (c : Cause) :
    ((∀ s ∈ c.context, IsLine s) ∧ IsLine c.message) ↔ ∀ s ∈ c.told, IsLine s := by
  have hnil : IsLine nilMessage := by decide
  have hrange : IsLine "invalid ip range" := by decide
  cases c with
  | general m =>
    change ((∀ s ∈ [], IsLine s) ∧ IsLine m) ↔ _
    simp [told]
  | nilConfig m =>
    change ((∀ s ∈ [], IsLine s) ∧ IsLine m) ↔ _
    simp [told]
  | nilInterface i =>
    change ((∀ s ∈ [interfaceContext i], IsLine s) ∧ IsLine nilMessage) ↔ _
    simp [told, isLine_interfaceContext, hnil]
  | nilProtocol i p =>
    change ((∀ s ∈ [interfaceContext i, p], IsLine s) ∧ IsLine nilMessage) ↔ _
    simp [told, isLine_interfaceContext, hnil]
  | negativeTimeout t =>
    change ((∀ s ∈ [], IsLine s) ∧ IsLine ("icmp timeout " ++ Duration.unitText t.micros ++
      " must be non-negative")) ↔ _
    simp +decide [told, isLine_append, Duration.isLine_unitText]
  | domainName n r =>
    change ((∀ s ∈ [], IsLine s) ∧ IsLine ("bad domain name " ++ quote n ++ ": " ++ r)) ↔ _
    simp +decide [told, isLine_append, isLine_quote]
  | noInterfaces m =>
    change ((∀ s ∈ [], IsLine s) ∧ IsLine m) ↔ _
    simp [told]
  | addressFamily f e =>
    change ((∀ s ∈ [], IsLine s) ∧ IsLine (f ++ " should be a valid " ++ e)) ↔ _
    simp +decide [told, isLine_append]
  | subnetMask m =>
    change ((∀ s ∈ [], IsLine s) ∧ IsLine ("subnet mask " ++ m.chars ++
      " should be a valid ipv4 cidr")) ↔ _
    simp +decide [told, isLine_append]
  | boundary b a s =>
    change ((∀ s ∈ [], IsLine s) ∧ IsLine ("range " ++ b ++ " " ++ a.chars ++ " is not within " ++
      s.chars)) ↔ _
    simp +decide [told, isLine_append]
  | gatewayInRange g r =>
    change ((∀ s ∈ [], IsLine s) ∧ IsLine ("gateway ip " ++ g.chars ++ " in the ip range " ++
      r.chars)) ↔ _
    simp +decide [told, isLine_append]
  | invalidRange m =>
    change ((∀ s ∈ [RawText.ofString "invalid ip range"], IsLine s) ∧ IsLine m) ↔ _
    simp [told, hrange]
  | notAscending m =>
    change ((∀ s ∈ [RawText.ofString "invalid ip range"], IsLine s) ∧ IsLine m) ↔ _
    simp [told, hrange]
  | familyMismatch m =>
    change ((∀ s ∈ [RawText.ofString "invalid ip range"], IsLine s) ∧ IsLine m) ↔ _
    simp [told, hrange]
  | rangeTooLarge n l =>
    change ((∀ s ∈ [RawText.ofString "invalid ip range"], IsLine s) ∧
      IsLine ("range is too large: length should be less or equal to " ++ toString l)) ↔ _
    simp +decide only [told, isLine_append, isLine_toString]
  | load p r =>
    change ((∀ s ∈ [], IsLine s) ∧ IsLine ("loading config " ++ quote p.chars ++ ": " ++ r)) ↔ _
    simp +decide [told, isLine_append, isLine_quote]

end Cause

namespace Fault

/-- A fault with its cause and with steps that were put before those of the cause. -/
def raised (e : List RawText × Cause) : Fault := (ofCause e.2).annotate e.1

/-- A fault that is not joined is one line exactly if all that went into it is. -/
theorem isLine_text_raised (e : List RawText × Cause) :
    IsLine (raised e).text ↔ (∀ s ∈ e.1, IsLine s) ∧ ∀ s ∈ e.2.told, IsLine s := by
  have hcontext : (raised e).context = e.1 ++ e.2.context := context_annotate e.1 (ofCause e.2)
  have hmessage : (raised e).message = e.2.message := message_annotate e.1 (ofCause e.2)
  rw [text_eq, hcontext, hmessage, isLine_append, isLine_followedBy (by decide),
    List.forall_mem_append, and_assoc, e.2.isLine_iff_told]

/-- The lines of a joined fault are the texts of its parts exactly if no step before a part and no
text that the part is made of has a line break. -/
theorem readLines_text_joined {es : List (List RawText × Cause)} (hes : es ≠ []) :
    readLines (joined [] (es.map raised)).text = (es.map raised).map text ↔
      ∀ e ∈ es, (∀ s ∈ e.1, IsLine s) ∧ ∀ s ∈ e.2.told, IsLine s := by
  have hlines : (es.map raised).map text ≠ [] := by
    rw [Ne, List.map_eq_nil_iff, List.map_eq_nil_iff]
    exact hes
  rw [text_joined, followedBy, List.nil_append, readLines_intercalate_iff hlines,
    List.forall_mem_map, List.forall_mem_map]
  apply forall₂_congr
  intro e _
  exact isLine_text_raised e

/-- Two faults that name things as they are usually named. -/
def plainlyNamed : List (List RawText × Cause) :=
  [(["validating v4"], .nilInterface "lan"), ([], .domainName "a..b" "empty label")]

theorem readLines_plainlyNamed :
    plainlyNamed ≠ [] ∧ readLines (joined [] (plainlyNamed.map raised)).text =
      ["validating v4: interface \"lan\": config is nil",
        "bad domain name \"a..b\": empty label"].map RawText.ofString := by
  have hne : plainlyNamed ≠ [] := List.cons_ne_nil _ _
  constructor
  · exact hne
  · rw [(readLines_text_joined hne).2 (by decide)]
    decide

/-- Two faults, the first of them about an interface with a line break in its name. -/
def brokenlyNamed : List (List RawText × Cause) :=
  [([], .nilInterface "a\nb"), ([], .noInterfaces Cause.noInterfacesMessage)]

/-- The two faults come out as three lines. -/
theorem readLines_brokenlyNamed :
    readLines (joined [] (brokenlyNamed.map raised)).text ≠ (brokenlyNamed.map raised).map text ∧
      readLines (joined [] (brokenlyNamed.map raised)).text =
        ["interface \"a", "b\": config is nil",
          "no interfaces specified"].map RawText.ofString := by
  decide

end Fault

end LeasePlan
