import Mathlib
import LeasePlan.DomainName
import LeasePlan.Proofs.FaultText

namespace LeasePlan

namespace Quoted

/-- A text in which every occurrence of one character is replaced. -/
def replaced (c : Char) (new s : RawText) : RawText :=
  s.flatMap fun d => if d = .char c then new else [d]

theorem replaced_cons (c : Char) (d : CodePoint) (new s : RawText) :
    replaced c new (d :: s) = (if d = .char c then new else [d]) ++ replaced c new s :=
  List.flatMap_cons

/-- Backslashes come first: those that are put before the quotes must not be doubled again. -/
theorem escape_eq_replaced (s : RawText) :
    escape s = replaced '"' "\\\"" (replaced '\\' "\\\\" s) := by
  induction s with
  | nil => rfl
  | cons c s ih =>
    rw [escape, ih, replaced_cons]
    by_cases hslash : c = .char '\\'
    · rw [if_pos (.inr hslash), if_pos hslash, hslash]
      rfl
    · rw [if_neg hslash, List.singleton_append, replaced_cons]
      by_cases hquote : c = .char '"'
      · rw [if_pos (.inl hquote), if_pos hquote, hquote]
        rfl
      · rw [if_neg (not_or.2 ⟨hquote, hslash⟩), if_neg hquote]
        rfl

example : replaced '\\' "\\\\" (replaced '"' "\\\"" "\"") ≠ escape "\"" := by decide

theorem splitBody?_backslash (c : CodePoint) (s : RawText) :
    splitBody? (.char '\\' :: c :: s) = (splitBody? s).map fun p => (c :: p.1, p.2) := by
  rw [splitBody?]

theorem splitBody?_of_ne {c : CodePoint} (hquote : c ≠ .char '"') (hslash : c ≠ .char '\\')
    (s : RawText) : splitBody? (c :: s) = (splitBody? s).map fun p => (c :: p.1, p.2) := by
  rw [splitBody?]
  · exact hquote
  · intro d r h
    exact absurd h hslash

/-- No escaped text can be mistaken for a closing quote. -/
theorem splitBody?_escape (s after : RawText) :
    splitBody? (escape s ++ .char '"' :: after) = some (s, after) := by
  induction s with
  | nil => rfl
  | cons c s ih =>
    rw [escape]
    by_cases hc : c = .char '"' ∨ c = .char '\\'
    · rw [if_pos hc, List.cons_append, List.cons_append, splitBody?_backslash, ih]
      rfl
    · obtain ⟨hquote, hslash⟩ := not_or.1 hc
      rw [if_neg hc, List.cons_append, splitBody?_of_ne hquote hslash, ih]
      rfl

theorem split?_quote (s after : RawText) : split? (quote s ++ after) = some (s, after) := by
  rw [quote, List.cons_append, List.append_assoc, List.singleton_append, split?,
    splitBody?_escape]

/-- The name that a text quotes right behind another text, and the text after the name. -/
def readBehind? (before text : RawText) : Option (RawText × RawText) :=
  (text.dropPrefix? before).bind split?

theorem readBehind?_quote (before name after : RawText) :
    readBehind? before (before ++ quote name ++ after) = some (name, after) := by
  have hdrop : (before ++ quote name ++ after).dropPrefix? before = some (quote name ++ after) := by
    rw [List.dropPrefix?_eq_some_iff]
    exact ⟨before, List.append_assoc .., beq_self_eq_true _⟩
  rw [readBehind?, hdrop, Option.bind_some, split?_quote]

theorem quote_append_eq_iff {s t x y : RawText} :
    quote s ++ x = quote t ++ y ↔ s = t ∧ x = y := by
  constructor
  · intro h
    have hs := split?_quote s x
    rw [h, split?_quote] at hs
    exact ⟨(congrArg Prod.fst (Option.some.inj hs)).symm,
      (congrArg Prod.snd (Option.some.inj hs)).symm⟩
  · rintro ⟨rfl, rfl⟩
    rfl

end Quoted

namespace Fault

/-- The text of a fault quotes a name behind some other text: the interface that a step leads to, a
domain name and the label of it that is at fault, the place of a document, or what a part of it
quotes in its own text. -/
inductive Quotes : Fault → RawText → RawText → Prop
  | interface {f : Fault} {outer inner : List RawText} {name : RawText}
      (h : f.context = outer ++ interfaceContext name :: inner) :
      Quotes f (followedBy ": " outer ++ "interface ") name
  | domainName (steps : List RawText) (name reason : RawText) :
      Quotes (single steps (.domainName name reason))
        (followedBy ": " steps ++ "bad domain name ") name
  | label (steps : List RawText) (name : RawText) (label : RawText) (flaw : DomainName.LabelFlaw) :
      Quotes (single steps (.domainName name (DomainName.Flaw.label label flaw).reason))
        (followedBy ": " steps ++ "bad domain name " ++ quote name ++ ": " ++
          "bad domain name label ") label
  | place (steps : List RawText) (path : Mention) (reason : RawText) :
      Quotes (single steps (.load path reason)) (followedBy ": " steps ++ "loading config ")
        path.chars
  | part {f : Fault} {before name : RawText} (steps : List RawText) (earlier later : List Fault)
      (h : Quotes f before name) :
      Quotes (joined steps (earlier ++ f :: later))
        (followedBy ": " steps ++ followedBy "\n" (earlier.map text) ++ before) name

theorem text_domainName (steps : List RawText) (name reason : RawText) :
    (single steps (.domainName name reason)).text =
      followedBy ": " steps ++ ("bad domain name " ++ quote name ++ ": " ++ reason) :=
  text_eq _

theorem text_load (steps : List RawText) (path : Mention) (reason : RawText) :
    (single steps (.load path reason)).text =
      followedBy ": " steps ++ ("loading config " ++ quote path.chars ++ ": " ++ reason) :=
  text_eq _

/-- What a fault quotes stands in its text between double quotes. -/
theorem Quotes.exists_text_eq {f : Fault} {before name : RawText} (h : f.Quotes before name) :
    ∃ after, f.text = before ++ quote name ++ after := by
  induction h with
  | @interface f outer inner name h =>
    refine ⟨": " ++ followedBy ": " inner ++ f.message, ?_⟩
    rw [text_eq, h, followedBy_append, followedBy, interfaceContext]
    simp only [List.append_assoc]
  | domainName steps name reason =>
    refine ⟨": " ++ reason, ?_⟩
    rw [text_domainName]
    simp only [List.append_assoc]
  | label steps name label flaw =>
    have hreason : (DomainName.Flaw.label label flaw).reason =
      "bad domain name label " ++ quote label ++ ": " ++ flaw.reason := rfl
    refine ⟨": " ++ flaw.reason, ?_⟩
    rw [text_domainName, hreason]
    simp only [List.append_assoc]
  | place steps path reason =>
    refine ⟨": " ++ reason, ?_⟩
    rw [text_load]
    simp only [List.append_assoc]
  | @part f before name steps earlier later h ih =>
    obtain ⟨inside, hinside⟩ := ih
    obtain ⟨after, hafter⟩ := exists_text_joined steps earlier later f
    refine ⟨inside ++ after, ?_⟩
    rw [hafter, hinside]
    simp only [List.append_assoc]

end Fault

/-- Quoting doubles the backslashes and then puts one before each quote. It can be undone with any
text behind it, and so a name is read back from every fault that quotes it. -/
theorem quote_selfDelimiting :
    (∀ s, quote s = "\"" ++ Quoted.replaced '"' "\\\"" (Quoted.replaced '\\' "\\\\" s) ++ "\"") ∧
    (∀ s t x y : RawText, quote s ++ x = quote t ++ y ↔ s = t ∧ x = y) ∧
    (∀ before name after,
      Quoted.readBehind? before (before ++ quote name ++ after) = some (name, after)) ∧
    ∀ (f : Fault) (before name : RawText), f.Quotes before name →
      ∃ after, f.text = before ++ quote name ++ after ∧
        Quoted.readBehind? before f.text = some (name, after) := by
  refine ⟨?_, ?_, Quoted.readBehind?_quote, ?_⟩
  · intro s
    rw [quote, Quoted.escape_eq_replaced]
    rfl
  · intro s t x y
    exact Quoted.quote_append_eq_iff
  · intro f before name h
    obtain ⟨after, hafter⟩ := h.exists_text_eq
    refine ⟨after, hafter, ?_⟩
    rw [hafter]
    exact Quoted.readBehind?_quote before name after

/-- A name that tries to end its own quotes. -/
def disguise : RawText := RawText.ofString "a\": \\\"\nb" ++ [.surrogate 0]

def Fault.disguised : Fault :=
  joined ["startup"] [ofCause (.nilInterface "lan"),
    single ["validating"] (.domainName disguise DomainName.Flaw.empty.reason)]

def Fault.disguisedLead : RawText :=
  "startup: interface \"lan\": config is nil\nvalidating: bad domain name "

theorem disguised_read : Fault.disguised.Quotes Fault.disguisedLead disguise ∧
    ∃ after, Fault.disguised.text = Fault.disguisedLead ++ quote disguise ++ after ∧
      Quoted.readBehind? Fault.disguisedLead Fault.disguised.text = some (disguise, after) := by
  have h : Fault.disguised.Quotes Fault.disguisedLead disguise :=
    .part ["startup"] [.ofCause (.nilInterface "lan")] [] (.domainName ["validating"] _ _)
  exact ⟨h, quote_selfDelimiting.2.2.2 _ _ _ h⟩

end LeasePlan
