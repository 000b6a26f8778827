import Mathlib
import LeasePlan.Command.Run
import LeasePlan.Proofs.FreeAddress
import LeasePlan.Proofs.PrintedText
import LeasePlan.Proofs.RangeConstruction
import LeasePlan.Proofs.ShownAddress

namespace LeasePlan.Job

open Console (IsInert Line getLast?_append_cons hasTag isInert_of_not_mem isInline isInline_of_le
  isSlash width)
open Console.Markup (IsPlain inStyle isStyle_red)
open Emoji (IsGroups IsNameless)

/-- The first text that is no address. -/
def unread? (texts : List String) : Option String :=
  texts.find? fun t => (Address.parse? t).isNone

/-- What texts that are all addresses stand for. -/
structure Reads (first last : String) (taken : List String) (r : AddressRange)
    (addresses : List Address) : Prop where
  first_eq : Address.parse? first = some r.first
  last_eq : Address.parse? last = some r.last
  taken_eq : (taken.mapM fun t : String => Address.parse? t) = some addresses

/-- A text that is no address: an end, or else a taken one if there is a range between the ends. -/
inductive Refuses (first last : String) (taken : List String) (t : String) : Prop
  | inEnds (h : unread? [first, last] = some t)
  | inTaken (r : AddressRange) (hfirst : Address.parse? first = some r.first)
      (hlast : Address.parse? last = some r.last) (h : unread? taken = some t)

section Reading

theorem address?_text (t : String) : (Data.text t).address? = Address.parse? t := rfl

theorem toAddress_of_some {t : String} {a : Address} (h : Address.parse? t = some a) :
    (Data.text t).toAddress = .ok a := Data.toAddress_of_address? h

theorem toAddress_of_none {t : String} (h : Address.parse? t = none) :
    (Data.text t).toAddress = .error (.notAddress (.text t)) := by
  rw [Data.toAddress, address?_text, h]

theorem unread?_cons_of_some {t : String} {a : Address} (h : Address.parse? t = some a)
    (texts : List String) : unread? (t :: texts) = unread? texts := by
  rw [unread?, List.find?_cons_of_neg (by rw [h]; exact Bool.false_ne_true)]
  rfl

theorem unread?_cons_of_none {t : String} (h : Address.parse? t = none) (texts : List String) :
    unread? (t :: texts) = some t := by
  rw [unread?, List.find?_cons_of_pos (by rw [h]; rfl)]

/-- Texts are read up to the first that is no address. -/
theorem mapM_toAddress (texts : List String) :
    (unread? texts = none ∧ ∃ addresses,
      (texts.mapM fun t : String => Address.parse? t) = some addresses ∧
      texts.mapM (fun t => (Data.text t).toAddress) = .ok addresses) ∨
    ∃ t, unread? texts = some t ∧ (texts.mapM fun t : String => Address.parse? t) = none ∧
      texts.mapM (fun t => (Data.text t).toAddress) = .error (.notAddress (.text t)) := by
  induction texts with
  | nil => exact .inl ⟨rfl, [], rfl, rfl⟩
  | cons t texts ih =>
    simp only [List.mapM_cons]
    cases hread : Address.parse? t with
    | none =>
      refine .inr ⟨t, unread?_cons_of_none hread texts, rfl, ?_⟩
      rw [toAddress_of_none hread]
      rfl
    | some a =>
      rw [unread?_cons_of_some hread, toAddress_of_some hread]
      rcases ih with ⟨hnone, addresses, hparse, hmap⟩ | ⟨u, hunread, hparse, hmap⟩
      · refine .inl ⟨hnone, a :: addresses, ?_, ?_⟩
        · rw [hparse]
          rfl
        · rw [hmap]
          rfl
      · refine .inr ⟨u, hunread, ?_, ?_⟩
        · rw [hparse]
          rfl
        · rw [hmap]
          rfl

variable {first last t : String} {taken : List String} {r : AddressRange}
  {addresses : List Address}

theorem ofData_text_of_parse? (hfirst : Address.parse? first = some r.first)
    (hlast : Address.parse? last = some r.last) :
    AddressRange.ofData (.text first) (.text last) = .ok r := by
  have hrange : AddressRange.ofEnds r.first r.last = .ok r :=
    AddressRange.ofEnds_eq_ok_iff.2 ⟨rfl, rfl⟩
  rw [AddressRange.ofData, toAddress_of_some hfirst, toAddress_of_some hlast]
  exact Requirement.range_eq_ok hrange

theorem readRange_of_reads (h : Reads first last taken r addresses) :
    readRange first last taken = .ok (r, addresses) := by
  have hrange := ofData_text_of_parse? h.first_eq h.last_eq
  rcases mapM_toAddress taken with ⟨-, found, hparse, hmap⟩ | ⟨u, -, hparse, -⟩
  · cases hparse.symm.trans h.taken_eq
    exact bind_eq_ok.2 ⟨r, hrange, bind_eq_ok.2 ⟨addresses, hmap, rfl⟩⟩
  · cases hparse.symm.trans h.taken_eq

theorem ofData_of_unread? (h : unread? [first, last] = some t) :
    AddressRange.ofData (.text first) (.text last) = .error (.notAddress (.text t)) := by
  cases hfirst : Address.parse? first with
  | none =>
    cases (unread?_cons_of_none hfirst _).symm.trans h
    rw [AddressRange.ofData, toAddress_of_none hfirst]
    rfl
  | some a =>
    rw [unread?_cons_of_some hfirst] at h
    rw [AddressRange.ofData, toAddress_of_some hfirst]
    cases hlast : Address.parse? last with
    | none =>
      cases (unread?_cons_of_none hlast _).symm.trans h
      rw [toAddress_of_none hlast]
      rfl
    | some b => cases (unread?_cons_of_some hlast _).symm.trans h

theorem readRange_of_refuses (h : Refuses first last taken t) :
    readRange first last taken = .error (.notAddress (.text t)) := by
  cases h with
  | inEnds h => exact bind_eq_error.2 (.inl (ofData_of_unread? h))
  | inTaken r hfirst hlast h =>
    have hrange := ofData_text_of_parse? hfirst hlast
    rcases mapM_toAddress taken with ⟨hnone, -⟩ | ⟨u, hunread, -, hmap⟩
    · cases hnone.symm.trans h
    · cases hunread.symm.trans h
      exact bind_eq_error.2 (.inr ⟨r, hrange, bind_eq_error.2 (.inl hmap)⟩)

/-- Texts stand for a range, or their ends have a flaw, or one of them is refused. -/
theorem readRange_cases (first last : String) (taken : List String) :
    (∃ r addresses, Reads first last taken r addresses) ∨
      (∃ f, readRange first last taken = .error (.fault (.ofRangeFlaw f))) ∨
        ∃ t, Refuses first last taken t := by
  rcases mapM_toAddress [first, last] with ⟨-, ends, hends, -⟩ | ⟨t, hunread, -⟩
  · simp only [List.mapM_cons, List.mapM_nil, Option.pure_def, Option.bind_eq_bind,
      Option.bind_eq_some_iff] at hends
    obtain ⟨a, hfirst, -, ⟨b, hlast, -⟩, -⟩ := hends
    cases hrange : AddressRange.ofEnds a b with
    | error f =>
      refine .inr (.inl ⟨f, bind_eq_error.2 (.inl ?_)⟩)
      rw [AddressRange.ofData, toAddress_of_some hfirst, toAddress_of_some hlast]
      change Requirement.range a b = _
      rw [Requirement.range, hrange]
    | ok r =>
      obtain ⟨rfl, rfl⟩ := AddressRange.ofEnds_eq_ok_iff.1 hrange
      rcases mapM_toAddress taken with ⟨-, addresses, hparse, -⟩ | ⟨t, hunread, -⟩
      · exact .inl ⟨r, addresses, hfirst, hlast, hparse⟩
      · exact .inr (.inr ⟨t, .inTaken r hfirst hlast hunread⟩)
  · exact .inr (.inr ⟨t, .inEnds hunread⟩)

theorem Reads.isBroken_text (h : Reads first last taken r addresses) : r.text.isBroken = false :=
  AddressRange.isBroken_text (Address.isBroken_of_parse? (RawText.isBroken_ofChars _) h.first_eq)
    (Address.isBroken_of_parse? (RawText.isBroken_ofChars _) h.last_eq)

end Reading

section Quoted

theorem le_of_mem_hex {c : Char} {count n : Nat} (h : c ∈ Literal.hex count n) : 32 ≤ c.toNat := by
  have hdigits : ∀ d < 16, 32 ≤ (Literal.hexDigit d).toNat := by decide
  induction count generalizing n with
  | zero => cases h
  | succ count ih =>
    rw [Literal.hex, List.mem_append, List.mem_singleton] at h
    rcases h with h | rfl
    · exact ih h
    · exact hdigits _ (Nat.mod_lt n (by decide))

theorem numbered_eq (n : Nat) : ∃ count, ∃ kind ∈ ['x', 'u', 'U'],
    Literal.numbered n = '\\' :: kind :: Literal.hex count n := by
  rw [Literal.numbered]
  split
  · exact ⟨2, 'x', by decide, rfl⟩
  · split
    · exact ⟨4, 'u', by decide, rfl⟩
    · exact ⟨8, 'U', by decide, rfl⟩

theorem le_of_mem_escapeChar {mark : Char} (hmark : 32 ≤ mark.toNat) (c : Char) :
    ∀ d ∈ Literal.escapeChar mark c, 32 ≤ d.toNat := by
  have hslash : 32 ≤ '\\'.toNat := by decide
  have hkinds : ∀ k ∈ ['x', 'u', 'U'], 32 ≤ k.toNat := by
    simp only [List.forall_mem_cons, List.not_mem_nil, IsEmpty.forall_iff, implies_true, and_true]
    decide
  have hescaped {d : Char} (hd : 32 ≤ d.toNat) : ∀ e ∈ ['\\', d], 32 ≤ e.toNat :=
    List.forall_mem_cons.2 ⟨hslash, List.forall_mem_singleton.2 hd⟩
  rw [Literal.escapeChar]
  split
  next hc =>
    rw [Bool.or_eq_true, decide_eq_true_eq, decide_eq_true_eq] at hc
    rcases hc with rfl | rfl
    · exact hescaped hmark
    · exact hescaped hslash
  split
  · exact hescaped (by decide)
  split
  · exact hescaped (by decide)
  split
  · exact hescaped (by decide)
  split
  next hprintable =>
    rw [List.forall_mem_singleton]
    rw [isPrintable] at hprintable
    split at hprintable
    · exact of_decide_eq_true hprintable
    next hlarge => omega
  · obtain ⟨count, kind, hkind, heq⟩ := numbered_eq c.toNat
    rw [heq, List.forall_mem_cons, List.forall_mem_cons]
    exact ⟨hslash, hkinds kind hkind, fun d hd => le_of_mem_hex hd⟩

/-- Nothing that a console acts on is left in a quoted text. -/
theorem le_of_mem_ofString {t : String} {c : Char} (h : c ∈ (Literal.ofString t).toList) :
    32 ≤ c.toNat := by
  rw [Literal.ofString, String.toList_ofList, Literal.ofChars] at h
  have hmark : 32 ≤ (Literal.delimiter t.toList).toNat := by
    rw [Literal.delimiter]
    split <;> decide
  rw [List.mem_cons, List.mem_append, List.mem_flatMap, List.mem_singleton] at h
  rcases h with rfl | ⟨d, -, hc⟩ | rfl
  · exact hmark
  · exact le_of_mem_escapeChar hmark d c hc
  · exact hmark

end Quoted

section Refused

/-- What is said of a text that is refused. -/
def refusal (t : String) : String := "无效地址: " ++ Failure.notAddressMessage (.text t)

def refusalStart : List Char := "无效地址:".toList

def refusalEnd : List Char := "does not appear to be an IPv4 or IPv6 address".toList

theorem isInert_refusalStart : IsInert refusalStart where
  bracketless := by decide
  nameless := List.forall_mem_nil _
  inline := List.all_eq_true.1 (by decide)

theorem isInert_refusalEnd : IsInert refusalEnd :=
  isInert_of_not_mem (by decide) (by decide) (List.all_eq_true.1 (by decide))

theorem toList_refusal (t : String) : (refusal t).toList =
    refusalStart ++ ' ' :: ((Literal.ofString t).toList ++ ' ' :: refusalEnd) := by
  have hmessage : Failure.notAddressMessage (.text t) =
      Literal.ofString t ++ " does not appear to be an IPv4 or IPv6 address" := rfl
  have hstart : "无效地址: ".toList = refusalStart ++ [' '] := by decide
  have hend : " does not appear to be an IPv4 or IPv6 address".toList = ' ' :: refusalEnd := by
    decide
  rw [refusal, hmessage, String.toList_append, String.toList_append, hstart, hend,
    List.append_assoc, List.singleton_append]

theorem getLast?_refusal (t : String) : (refusal t).toList.getLast? = some 's' := by
  have hend : refusalEnd ≠ [] := by decide
  rw [toList_refusal, ← List.cons_append, ← List.append_assoc, getLast?_append_cons hend]
  rfl

theorem hasTag_refusal {opening : Char → Bool} (t : String) :
    hasTag opening (refusal t).toList = hasTag opening (Literal.ofString t).toList := by
  have hend : Console.Piece.IsTagText (' ' :: refusalEnd) := by decide
  rw [toList_refusal, List.append_cons, Console.hasTag_append_of_not_mem (by decide),
    Console.hasTag_append_of_tagText hend]

/-- A plain quoted text stays plain in what is said of it. -/
theorem isPlain_refusal {t : String} (h : IsPlain (Literal.ofString t).toList) :
    IsPlain (refusal t).toList := by
  rw [toList_refusal]
  exact .behind_space isInert_refusalStart (h.before_space isInert_refusalEnd (by decide))

theorem inline_refusal {t : String} : ∀ c ∈ (refusal t).toList, isInline c = true := by
  rw [toList_refusal, List.forall_mem_append, List.forall_mem_cons, List.forall_mem_append,
    List.forall_mem_cons]
  exact ⟨isInert_refusalStart.inline, by decide,
    fun c hc => isInline_of_le (le_of_mem_ofString hc), by decide, isInert_refusalEnd.inline⟩

variable {console : Console} {first last t : String} {taken : List String}

theorem runRange_of_refuses (h : Refuses first last taken t) :
    runRange console first last taken = Outcome.saying console 1
      (String.ofList (inStyle ['r', 'e', 'd'] (refusal t).toList)) := by
  have hmarkup : "[red]无效地址: " ++ Failure.notAddressMessage (.text t) ++ "[/red]" =
      String.ofList (inStyle ['r', 'e', 'd'] (refusal t).toList) := by
    have hopen : "[red]无效地址: ".toList = ['[', 'r', 'e', 'd', ']'] ++ "无效地址: ".toList := by
      decide
    have hclose : "[/red]".toList = ['[', '/', 'r', 'e', 'd', ']'] := by decide
    apply String.toList_injective
    rw [String.toList_ofList, inStyle, refusal]
    simp only [String.toList_append, List.append_assoc, hopen, hclose, List.cons_append,
      List.nil_append]
  rw [runRange, readRange_of_refuses h, ← hmarkup]

/-- A refused text is shown quoted if nothing in it is markup and the line has room for it. -/
theorem runRange_of_isPlain (h : Refuses first last taken t)
    (hplain : IsPlain (Literal.ofString t).toList)
    (hfits : width (refusal t).toList ≤ console.columns) :
    runRange console first last taken = .ok ⟨1, [(refusal t).toList]⟩ := by
  have hspace : ∀ c ∈ (refusal t).toList.getLast?, Text.isSpace c = false := by
    rw [getLast?_refusal]
    rintro c ⟨⟩
    decide
  have hslash : (refusal t).toList.getLast? ≠ some '\\' := by
    rw [getLast?_refusal]
    decide
  have hprint := Console.print_inStyle_of_isPlain isStyle_red (isPlain_refusal hplain)
    (Console.isOneLine_of_inline inline_refusal hspace) hslash hfits
  rw [runRange_of_refuses h, Outcome.saying, hprint]
  rfl

variable (console) in
theorem runRange_refused_cases (h : Refuses first last taken t) :
    (∃ o, runRange console first last taken = .ok o ∧ o.exit = 1) ∨
      hasTag isSlash (Literal.ofString t).toList = true ∧
        ∃ flaw, runRange console first last taken = .error (.markup flaw) := by
  rw [runRange_of_refuses h, Outcome.saying]
  cases hprint : console.print (String.ofList (inStyle ['r', 'e', 'd'] (refusal t).toList)) with
  | ok ls => exact .inl ⟨⟨1, ls⟩, rfl, rfl⟩
  | error flaw =>
    refine .inr ⟨?_, flaw, rfl⟩
    by_contra htag
    have hnone : hasTag isSlash (refusal t).toList = false :=
      (hasTag_refusal t).trans (eq_false_of_ne_true htag)
    have hslash : (refusal t).toList.getLast? ≠ some '\\' := by
      rw [getLast?_refusal]
      decide
    obtain ⟨ls, hls⟩ := Console.exists_print_inStyle console isStyle_red hnone hslash
    cases hprint.symm.trans hls

end Refused

section Reported

variable {console : Console} {r : AddressRange} {addresses : List Address} {a : Address}
  {offset : Nat}

theorem isGroups_toString (n : Nat) : IsGroups (toString n).toList := by
  rw [toList_toString]
  exact isGroups_toDigits (by decide) (by decide) n

theorem slash_not_mem_of_groups {cs : List Char} (h : IsGroups cs) : '/' ∉ cs :=
  fun hmem => absurd (h '/' hmem) (by decide)

theorem reportRange_of_some {range length first : List Line}
    (hrange : console.printRaw ("范围: " ++ r.text) = .ok range)
    (hlength : console.print ("地址数: " ++ toString r.length) = .ok length)
    (hfree : firstFree? r addresses = some (a, offset))
    (hfirst : console.printRaw
      ("第一个可用地址: " ++ a.text ++ " (偏移 " ++ toString offset ++ ")") = .ok first) :
    reportRange console r addresses = .ok ⟨0, range ++ length ++ first⟩ := by
  have hraw := RawText.ofString_append "地址数: " (toString r.length) ▸
    Console.printRaw_of_print hlength
  refine bind_eq_ok.2 ⟨range, hrange, bind_eq_ok.2 ⟨length, hraw, ?_⟩⟩
  rw [hfree]
  exact bind_eq_ok.2 ⟨first, hfirst, rfl⟩

theorem isStyle_yellow : Console.Markup.IsStyle ['y', 'e', 'l', 'l', 'o', 'w'] :=
  ⟨by decide, by decide, by decide, by decide, by decide +kernel, by decide, by decide⟩

variable (console) in
theorem exists_print_noAddress : ∃ ls, console.print "[yellow]没有可用地址[/yellow]" = .ok ls := by
  have hmarkup : "[yellow]没有可用地址[/yellow]" =
      String.ofList (inStyle ['y', 'e', 'l', 'l', 'o', 'w'] "没有可用地址".toList) := by
    apply String.toList_injective
    rw [String.toList_ofList]
    decide
  rw [hmarkup]
  exact Console.exists_print_inStyle console isStyle_yellow (by decide) (by decide)

theorem reportRange_of_none {range length none : List Line}
    (hrange : console.printRaw ("范围: " ++ r.text) = .ok range)
    (hlength : console.print ("地址数: " ++ toString r.length) = .ok length)
    (hnone : console.print "[yellow]没有可用地址[/yellow]" = .ok none)
    (hfree : firstFree? r addresses = Option.none) :
    reportRange console r addresses = .ok ⟨1, range ++ length ++ none⟩ := by
  have hraw := RawText.ofString_append "地址数: " (toString r.length) ▸
    Console.printRaw_of_print hlength
  refine bind_eq_ok.2 ⟨range, hrange, bind_eq_ok.2 ⟨length, hraw, ?_⟩⟩
  rw [hfree]
  exact bind_eq_ok.2 ⟨none, Console.printRaw_of_print hnone, rfl⟩

variable (console) in
/-- A text without surrogates and slashes can be written. -/
theorem exists_printRaw {t : RawText} (hbroken : t.isBroken = false) (h : .char '/' ∉ t) :
    ∃ ls, console.printRaw t = .ok ls := by
  obtain ⟨s, rfl⟩ := RawText.exists_ofString hbroken
  obtain ⟨ls, hls⟩ := Console.exists_print console
    (Console.hasTag_of_slash_not_mem (mt RawText.mem_ofChars.2 h))
  exact ⟨ls, Console.printRaw_of_print hls⟩

/-- The text behind a free address. -/
def offsetText (offset : Nat) : List Char :=
  "(偏移".toList ++ ' ' :: ((toString offset).toList ++ [')'])

theorem freeLine_eq (ha : a.zone = none) (offset : Nat) :
    "第一个可用地址: " ++ a.text ++ " (偏移 " ++ toString offset ++ ")" = RawText.ofChars
      ("第一个可用地址:".toList ++ ' ' :: (a.figures ++ ' ' :: offsetText offset)) := by
  have hlabel : RawText.ofString "第一个可用地址: " =
      RawText.ofChars "第一个可用地址:".toList ++ [.char ' '] := by decide
  have hword : RawText.ofString " (偏移 " =
      .char ' ' :: (RawText.ofChars "(偏移".toList ++ [.char ' ']) := by decide
  have hclose : RawText.ofString ")" = [.char ')'] := by decide
  rw [Address.text_of_zone ha, hlabel, hword, hclose]
  simp only [offsetText, RawText.ofString, RawText.ofChars, List.map_append, List.map_cons,
    List.map_nil, List.append_assoc, List.cons_append, List.nil_append]

/-- Zones hold no slash, so no tag is closed in a report. -/
theorem exists_reportRange (console : Console) {r : AddressRange} (hr : r.text.isBroken = false)
    (addresses : List Address) :
    ∃ o, reportRange console r addresses = .ok o ∧ (o.exit = 0 ∨ o.exit = 1) := by
  have hrange : .char '/' ∉ RawText.ofString "范围: " ++ r.text := by
    rw [List.mem_append, not_or]
    exact ⟨by decide, r.slash_not_mem_text⟩
  have hlength : '/' ∉ ("地址数: " ++ toString r.length).toList := by
    rw [String.toList_append, List.mem_append, not_or]
    exact ⟨by decide, slash_not_mem_of_groups (isGroups_toString _)⟩
  have hbroken : RawText.isBroken ("范围: " ++ r.text) = false := by
    rw [RawText.isBroken_append, hr]
    rfl
  obtain ⟨range, hrange⟩ := exists_printRaw console hbroken hrange
  obtain ⟨length, hlength⟩ := Console.exists_print console (Console.hasTag_of_slash_not_mem hlength)
  cases hfree : firstFree? r addresses with
  | none =>
    obtain ⟨none, hnone⟩ := exists_print_noAddress console
    exact ⟨_, reportRange_of_none hrange hlength hnone hfree, .inr rfl⟩
  | some free =>
    obtain ⟨a, offset⟩ := free
    obtain ⟨⟨k, hwalk⟩, -, -⟩ := walked_of_firstFree? hfree
    have hzone : a.zone = none := (AddressRange.isPlain_of_walk hwalk).zone_eq
    have hslash : .char '/' ∉ RawText.ofString "第一个可用地址: " ++ a.text ++ " (偏移 " ++
        toString offset ++ ")" := by
      simp only [List.mem_append, not_or]
      exact ⟨⟨⟨⟨by decide, a.slash_not_mem_text⟩, by decide⟩,
        mt RawText.mem_ofChars.1 (slash_not_mem_of_groups (isGroups_toString offset))⟩, by decide⟩
    have hbroken : RawText.isBroken (RawText.ofString "第一个可用地址: " ++ a.text ++ " (偏移 " ++
        toString offset ++ ")") = false := by
      rw [freeLine_eq hzone]
      exact RawText.isBroken_ofChars _
    obtain ⟨first, hfirst⟩ := exists_printRaw console hbroken hslash
    exact ⟨_, reportRange_of_some hrange hlength hfree hfirst, .inl rfl⟩

theorem exists_ofFault (f : RangeFlaw) : ∃ o, Outcome.ofFault (.ofRangeFlaw f) = .ok o := by
  have hparts : ∀ p ∈ (Fault.ofRangeFlaw f).parts, p.text.isBroken = false :=
    List.forall_mem_singleton.2 (AddressRange.isBroken_text_ofRangeFlaw f)
  exact ⟨_, map_eq_ok.2 ⟨_, Fault.report_of_not_isBroken hparts, rfl⟩⟩

theorem rangeLine_eq (hfirst : r.first.zone = none) (hlast : r.last.zone = none) :
    "范围: " ++ r.text = RawText.ofChars ("范围:".toList ++ ' ' :: r.figures) := by
  rw [AddressRange.text_of_zones hfirst hlast, List.append_cons, RawText.ofChars_append]
  rfl

/-- Without zones a range is shown with its emoji. -/
theorem print_range (hwide : 200 ≤ console.columns) (hfirst : r.first.zone = none)
    (hlast : r.last.zone = none) : console.printRaw ("范围: " ++ r.text) =
      .ok ["范围:".toList ++ ' ' :: Emoji.replace r.figures] := by
  have hlabel : IsInert "范围:".toList :=
    ⟨by decide, List.forall_mem_nil _, List.all_eq_true.1 (by decide)⟩
  have hfits : 2 * ("范围:".toList.length + r.figures.length + 1) ≤ console.columns := by
    have hfigures := r.length_figures_le
    have hlength : "范围:".toList.length = 3 := rfl
    omega
  rw [rangeLine_eq hfirst hlast]
  exact Console.printRaw_ofChars (Console.print_behind_label String.toList_ofList hlabel
    r.isGroups_figures r.figures_ne_nil hfits)

theorem length_toString_le {n : Nat} (h : n ≤ AddressRange.maxLength) :
    (toString n).toList.length ≤ 10 := by
  rw [toList_toString, Nat.length_toDigits_le_iff (by decide) (by decide)]
  exact Nat.lt_of_le_of_lt h (by decide)

theorem colon_not_mem_toString (n : Nat) : ':' ∉ (toString n).toList := by
  rw [toList_toString]
  exact Numeral.not_mem_decimal rfl n

theorem print_length (hwide : 200 ≤ console.columns) (r : AddressRange) :
    console.print ("地址数: " ++ toString r.length) =
      .ok [("地址数: " ++ toString r.length).toList] := by
  have hlabel : IsInert "地址数:".toList :=
    ⟨by decide, List.forall_mem_nil _, List.all_eq_true.1 (by decide)⟩
  have htext : ("地址数: " ++ toString r.length).toList =
      "地址数:".toList ++ ' ' :: (toString r.length).toList := by
    have hspace : "地址数: ".toList = "地址数:".toList ++ [' '] := by decide
    rw [String.toList_append, hspace, List.append_assoc, List.singleton_append]
  have hne : (toString r.length).toList ≠ [] := by
    rw [toList_toString]
    exact Nat.toDigits_ne_nil
  have hfits : 2 * ("地址数:".toList.length + (toString r.length).toList.length + 1) ≤
      console.columns := by
    have hdigits : (toString r.length).toList.length ≤ 10 := length_toString_le r.length_le
    have hlength : "地址数:".toList.length = 4 := rfl
    omega
  rw [Console.print_behind_label htext hlabel (isGroups_toString _) hne hfits,
    Emoji.replace_of_not_mem (colon_not_mem_toString _), htext]

theorem position_le (r : AddressRange) (a : Address) : r.position a ≤ AddressRange.maxLength := by
  rw [AddressRange.position, AddressRange.offset?]
  split
  next hin =>
    have hbounds := AddressRange.number_mem_of_contains hin
    have hlength := r.length_le
    change a.number - r.first.number ≤ _
    omega
  · exact Nat.zero_le _

theorem isInert_offsetText (offset : Nat) : IsInert (offsetText offset) := by
  have hdigits := isGroups_toString offset
  have hnumber : IsInert ((toString offset).toList ++ [')']) := by
    apply isInert_of_not_mem
    · rw [List.mem_append, not_or]
      exact ⟨Console.bracket_not_mem_of_groups hdigits, by decide⟩
    · rw [List.mem_append, not_or]
      exact ⟨colon_not_mem_toString offset, by decide⟩
    · rw [List.forall_mem_append, List.forall_mem_singleton]
      refine ⟨?_, by decide⟩
      intro c hc
      have hreplace := Emoji.replace_of_not_mem (colon_not_mem_toString offset)
      exact (Console.inline_replace_of_groups hdigits (hreplace.symm ▸ hc)).1
  have hword : IsInert "(偏移".toList :=
    isInert_of_not_mem (by decide) (by decide) (List.all_eq_true.1 (by decide))
  exact hword.append_space hnumber

theorem getLast?_offsetText (offset : Nat) : (offsetText offset).getLast? = some ')' := by
  have hne : (toString offset).toList ++ [')'] ≠ [] := List.concat_ne_nil _ _
  rw [offsetText, getLast?_append_cons hne, List.getLast?_concat]

theorem print_free (hwide : 200 ≤ console.columns) (ha : a.zone = none)
    (hoffset : offset ≤ AddressRange.maxLength) :
    console.printRaw ("第一个可用地址: " ++ a.text ++ " (偏移 " ++ toString offset ++ ")") =
      .ok ["第一个可用地址:".toList ++ ' ' :: (Emoji.replace a.figures ++ ' ' :: offsetText offset)] := by
  have hlabel : IsInert "第一个可用地址:".toList :=
    ⟨by decide, List.forall_mem_nil _, List.all_eq_true.1 (by decide)⟩
  have hend : ∀ c ∈ (offsetText offset).getLast?, Text.isSpace c = false := by
    rw [getLast?_offsetText]
    rintro c ⟨⟩
    decide
  have hne : offsetText offset ≠ [] := List.append_ne_nil_of_right_ne_nil _ (List.cons_ne_nil _ _)
  have hfits : 2 * ("第一个可用地址:".toList.length + a.figures.length +
      (offsetText offset).length + 2) ≤ console.columns := by
    have hfigures := a.length_figures_le
    have hdigits := length_toString_le hoffset
    have hlabel : "第一个可用地址:".toList.length = 8 := rfl
    have htext : (offsetText offset).length = (toString offset).toList.length + 5 := by
      rw [offsetText, List.length_append, List.length_cons, List.length_append]
      change 3 + ((toString offset).toList.length + 1 + 1) = _
      omega
    omega
  rw [freeLine_eq ha]
  exact Console.printRaw_ofChars (Console.print_between_labels String.toList_ofList hlabel
    a.isGroups_figures (isInert_offsetText offset) hne hend hfits)

/-- What is shown of a range and of the taken addresses: the range and the free address as they are
exactly if no emoji is named in them, and the number of addresses always. -/
structure Shows (r : AddressRange) (addresses : List Address) (o : Outcome) : Prop where
  range : o.lines.head?.map RawText.ofChars = some ("范围: " ++ r.text) ↔ IsNameless r.figures
  length : o.lines[1]? = some ("地址数: " ++ toString r.length).toList
  free : ∀ a offset, firstFree? r addresses = some (a, offset) → o.exit = 0 ∧
    (o.lines.getLast?.map RawText.ofChars =
        some ("第一个可用地址: " ++ a.text ++ " (偏移 " ++ toString offset ++ ")") ↔
      IsNameless a.figures)

theorem ofChars_eq_some_iff {cs ds : List Char} :
    (some cs).map RawText.ofChars = some (RawText.ofChars ds) ↔ cs = ds := by
  rw [Option.map_some, Option.some_inj]
  exact RawText.ofChars_injective.eq_iff

theorem shows_reportRange (hwide : 200 ≤ console.columns) (hfirst : r.first.zone = none)
    (hlast : r.last.zone = none) (addresses : List Address) :
    ∃ o, reportRange console r addresses = .ok o ∧ Shows r addresses o := by
  have hrange := print_range hwide hfirst hlast
  have hlength := print_length hwide r
  have hsame : (some ("范围:".toList ++ ' ' :: Emoji.replace r.figures)).map RawText.ofChars =
      some ("范围: " ++ r.text) ↔ IsNameless r.figures := by
    rw [rangeLine_eq hfirst hlast, ofChars_eq_some_iff, List.append_cancel_left_eq,
      List.cons_inj_right, Emoji.replace_eq_self_iff_of_groups r.isGroups_figures]
  cases hfree : firstFree? r addresses with
  | none =>
    obtain ⟨none, hnone⟩ := exists_print_noAddress console
    refine ⟨_, reportRange_of_none hrange hlength hnone hfree, hsame, rfl, ?_⟩
    intro a offset h
    cases hfree.symm.trans h
  | some free =>
    obtain ⟨a, offset⟩ := free
    obtain ⟨⟨k, hwalk⟩, -, rfl⟩ := walked_of_firstFree? hfree
    have hzone : a.zone = none := (AddressRange.isPlain_of_walk hwalk).zone_eq
    have hprint := print_free hwide hzone (position_le r a)
    refine ⟨_, reportRange_of_some hrange hlength hfree hprint, hsame, rfl, ?_⟩
    intro b offset h
    cases hfree.symm.trans h
    refine ⟨rfl, ?_⟩
    rw [freeLine_eq hzone, ← Emoji.replace_eq_self_iff_of_groups a.isGroups_figures]
    change (some (_ ++ ' ' :: (_ ++ ' ' :: _))).map RawText.ofChars = _ ↔ _
    rw [ofChars_eq_some_iff, List.append_cancel_left_eq, List.cons_inj_right,
      List.append_cancel_right_eq]

end Reported

/-- A range with `:ab:` in the text of each end. -/
def emojiRange : AddressRange where
  first := .v6 ⟨5205844874324766830258992344727553, by decide⟩ none
  last := .v6 ⟨5205844874324766830258992344727557, by decide⟩ none
  family_eq := rfl
  number_lt := by decide
  length_le := by decide

theorem reads_emojiRange :
    Reads "1:ab::1" "1:ab::5" ["1:ab::1"] emojiRange [emojiRange.first] :=
  ⟨by decide, by decide, by decide⟩

end LeasePlan.Job
