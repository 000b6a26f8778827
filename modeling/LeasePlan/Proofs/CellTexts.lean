import Mathlib
import LeasePlan.Command.Run
import LeasePlan.Proofs.Assembly
import LeasePlan.Proofs.InterfaceGeometry
import LeasePlan.Proofs.ShownAddress
import LeasePlan.Proofs.TableRows

namespace LeasePlan

open Console (CellOf IsCell IsInert Justify hasTag isInert_of_not_mem isInline isInline_of_le
  isPrintableAscii isSlash)
open Console.Markup (IsPlain)
open Emoji (IsGroups IsNameless)

section Cells

variable {j : Justify} {text : List Char}

/-- A character that neither ends a line or a word nor begins a tag or the name of an emoji. -/
def isWordChar (c : Char) : Bool := isInline c && !Text.isSpace c && c ≠ '[' && c ≠ ':'

theorem isSpace_of_endsLine {c : Char} (h : Console.Table.endsLine c = true) :
    Text.isSpace c = true := by
  simp only [Console.Table.endsLine, List.mem_cons, List.not_mem_nil, or_false,
    decide_eq_true_eq] at h
  simp only [Text.isSpace, Text.isBlank, Bool.or_eq_true, Bool.and_eq_true, decide_eq_true_eq]
  omega

theorem isInert_of_words (h : ∀ c ∈ text, isWordChar c = true) : IsInert text := by
  simp only [isWordChar, Bool.and_eq_true, decide_eq_true_eq] at h
  exact isInert_of_not_mem (fun hmem => (h _ hmem).1.2 rfl) (fun hmem => (h _ hmem).2 rfl)
    fun c hc => (h c hc).1.1.1

theorem isCell_of_words (hj : j = .left ∨ j = .right) (h : ∀ c ∈ text, isWordChar c = true) :
    IsCell j text := by
  have hspace : ∀ c ∈ text, Text.isSpace c = false := by
    simp only [isWordChar, Bool.and_eq_true, Bool.not_eq_true'] at h
    exact fun c hc => (h c hc).1.1.2
  have hend : ∀ c ∈ text.getLast?, Text.isSpace c = false :=
    fun c hc => hspace c (List.mem_of_getLast? hc)
  refine ⟨(isInert_of_words h).isPlain, ?_, ?_, .inr hend,
    hj.imp_right fun hright => ⟨hright, hend⟩⟩
  · intro c hc
    rw [← Bool.not_eq_true]
    intro hline
    exact Bool.false_ne_true ((hspace c hc).symm.trans (isSpace_of_endsLine hline))
  · intro hmem
    exact absurd (hspace '\t' hmem) (by decide)

theorem isCell_of_printable (hplain : IsPlain text)
    (h : ∀ c ∈ text, isPrintableAscii c = true) : IsCell .left text := by
  have hrange : ∀ c ∈ text, 32 ≤ c.toNat ∧ c.toNat < 127 := by
    intro c hc
    have hc := h c hc
    rwa [isPrintableAscii, Bool.and_eq_true, decide_eq_true_eq, decide_eq_true_eq] at hc
  refine ⟨hplain, ?_, ?_, .inl (Nat.le_of_eq (Console.width_of_printableAscii h).symm), .inl rfl⟩
  · intro c hc
    have hc := hrange c hc
    simp only [Console.Table.endsLine, List.mem_cons, List.not_mem_nil, or_false,
      decide_eq_false_iff_not]
    omega
  · intro hmem
    exact absurd (hrange '\t' hmem).1 (by decide)

/-- A digit or what stands between the numbers of addresses, ranges and subnets. -/
def isFigure (c : Char) : Bool := 45 ≤ c.toNat && c.toNat ≤ 57

theorem isWordChar_of_isFigure {c : Char} (h : isFigure c = true) : isWordChar c = true := by
  rw [isFigure, Bool.and_eq_true, decide_eq_true_eq, decide_eq_true_eq] at h
  have hspace : Text.isSpace c = false := by
    simp only [Text.isSpace, Text.isBlank, Bool.or_eq_false_iff, Bool.and_eq_false_iff,
      decide_eq_false_iff_not]
    omega
  have hbracket : c ≠ '[' := by
    rintro rfl
    exact absurd h.2 (by decide)
  have hcolon : c ≠ ':' := by
    rintro rfl
    exact absurd h.2 (by decide)
  rw [isWordChar, isInline_of_le (by omega), hspace, decide_eq_true hbracket,
    decide_eq_true hcolon]
  rfl

theorem isCell_of_figures (hj : j = .left ∨ j = .right) (h : ∀ c ∈ text, isFigure c = true) :
    IsCell j text :=
  isCell_of_words hj fun c hc => isWordChar_of_isFigure (h c hc)

theorem isFigure_of_mem_decimal {c : Char} {n : Nat} (h : c ∈ Numeral.decimal n) :
    isFigure c = true := by
  obtain ⟨ds, hds, -, hto⟩ := Numeral.exists_digits (by decide : 1 < 10) n
  rw [Numeral.decimal, hto] at h
  obtain ⟨d, hd, rfl⟩ := List.mem_map.1 h
  have hdigits : ∀ d < 10, isFigure d.digitChar = true := by decide
  exact hdigits d (hds d hd)

theorem isFigure_of_mem_dotted {c : Char} {n : Nat} (h : c ∈ Address.dotted n) :
    isFigure c = true := by
  by_contra hno
  refine Text.not_mem_joined ?_ ?_ h
  · rintro rfl
    exact hno (by decide)
  · intro p hp hmem
    obtain ⟨d, -, rfl⟩ := List.mem_map.1 hp
    exact hno (isFigure_of_mem_decimal hmem)

theorem isFigure_of_mem_signed {c : Char} {n : Int} (h : c ∈ Numeral.signed n) :
    isFigure c = true := by
  rw [Numeral.signed] at h
  split at h
  · rcases List.mem_cons.1 h with rfl | h
    · decide
    · exact isFigure_of_mem_decimal h
  · exact isFigure_of_mem_decimal h

theorem isGroupChar_of_mem_padded {c : Char} {count n : Nat} (h : c ∈ Numeral.padded count n) :
    Emoji.isGroupChar c = true := by
  obtain ⟨ds, hds, -, -, hto⟩ := Numeral.exists_padded count n
  rw [hto] at h
  obtain ⟨d, hd, rfl⟩ := List.mem_map.1 h
  have hdigits : ∀ d < 10, Emoji.isGroupChar d.digitChar = true := by decide
  exact hdigits d (hds d hd)

/-- Two digits name no emoji. -/
theorem padded_not_mem_groupNames (n : Nat) : Numeral.padded 2 n ∉ Emoji.groupNames := by
  have hpairs : ∀ d < 10, ∀ e < 10, [d.digitChar, e.digitChar] ∉ Emoji.groupNames := by decide
  exact hpairs _ (Nat.mod_lt _ (by decide)) _ (Nat.mod_lt _ (by decide))

end Cells

namespace Duration

/-- Hours, minutes and seconds of a time of day, with the microseconds if there are any. -/
def timeChars (micros : Nat) : List Char :=
  let seconds := micros / 1000000
  let fraction := micros % 1000000
  Numeral.decimal (seconds / 3600) ++ ':' :: (Numeral.padded 2 (seconds / 60 % 60) ++
    ':' :: (Numeral.padded 2 (seconds % 60) ++
      (if fraction = 0 then [] else '.' :: Numeral.padded 6 fraction)))

theorem clockChars_eq (micros : Int) : clockChars micros =
    if micros.fdiv microsPerDay = 0 then timeChars (micros.fmod microsPerDay).toNat
    else Numeral.signed (micros.fdiv microsPerDay) ++
      ' ' :: ((if (micros.fdiv microsPerDay).natAbs = 1 then "day,".toList else "days,".toList) ++
        ' ' :: timeChars (micros.fmod microsPerDay).toNat) := by
  have hone : "day,".toList = ['d', 'a', 'y', ','] := by decide
  have hmore : "days,".toList = ['d', 'a', 'y', 's', ','] := by decide
  rw [clockChars, timeChars, hone, hmore]
  split
  · rfl
  · split
    · simp only [List.append_assoc, List.cons_append, List.nil_append]
    · simp only [List.append_assoc, List.cons_append, List.nil_append]

theorem isGroupChar_of_mem_seconds (micros : Nat) :
    ∀ c ∈ Numeral.padded 2 (micros / 1000000 % 60) ++
        (if micros % 1000000 = 0 then [] else '.' :: Numeral.padded 6 (micros % 1000000)),
      Emoji.isGroupChar c = true := by
  rw [List.forall_mem_append]
  refine ⟨fun c hc => isGroupChar_of_mem_padded hc, ?_⟩
  split
  · exact List.forall_mem_nil _
  · exact List.forall_mem_cons.2 ⟨by decide, fun c hc => isGroupChar_of_mem_padded hc⟩

theorem isGroups_timeChars (micros : Nat) : IsGroups (timeChars micros) := by
  have hgroups {cs : List Char} (h : ∀ c ∈ cs, Emoji.isGroupChar c = true) : IsGroups cs :=
    fun c hc => .inr (h c hc)
  apply isGroups_append (isGroups_toDigits (by decide) (by decide) _)
  apply isGroups_cons (.inl rfl)
  apply isGroups_append (hgroups fun c hc => isGroupChar_of_mem_padded hc)
  exact isGroups_cons (.inl rfl) (hgroups (isGroupChar_of_mem_seconds micros))

/-- The minutes stand between colons. -/
theorem namesIn_timeChars (micros : Nat) :
    Emoji.namesIn (timeChars micros) = [Numeral.padded 2 (micros / 1000000 / 60 % 60)] := by
  have hcolon {cs : List Char} (h : ∀ c ∈ cs, Emoji.isGroupChar c = true) : ':' ∉ cs :=
    (Emoji.isBody_of_groupChars h).colon_not_mem
  have hhours : ':' ∉ Numeral.decimal (micros / 1000000 / 3600) := Numeral.not_mem_decimal rfl _
  have hminutes := hcolon fun c (hc : c ∈ Numeral.padded 2 (micros / 1000000 / 60 % 60)) =>
    isGroupChar_of_mem_padded hc
  have hseconds := hcolon (isGroupChar_of_mem_seconds micros)
  rw [Emoji.namesIn, timeChars, Text.parts_append_sep, Text.parts_append_sep,
    Text.parts_of_not_mem hhours, Text.parts_of_not_mem hminutes, Text.parts_of_not_mem hseconds]
  rfl

theorem isInert_timeChars (micros : Nat) : IsInert (timeChars micros) := by
  apply Console.isInert_of_groups (isGroups_timeChars micros)
  intro n hn
  rw [namesIn_timeChars, List.mem_singleton] at hn
  rw [hn]
  exact padded_not_mem_groupNames _

theorem isPrintableAscii_of_isFigure {c : Char} (h : isFigure c = true) :
    isPrintableAscii c = true := by
  rw [isFigure, Bool.and_eq_true, decide_eq_true_eq, decide_eq_true_eq] at h
  rw [isPrintableAscii, Bool.and_eq_true, decide_eq_true_eq, decide_eq_true_eq]
  omega

theorem dayWord_chars (n : Nat) : ∀ c ∈ (if n = 1 then "day,".toList else "days,".toList),
    isWordChar c = true ∧ isPrintableAscii c = true := by
  have hall {cs : List Char} (h : cs.all (fun c => isWordChar c && isPrintableAscii c) = true) :
      ∀ c ∈ cs, isWordChar c = true ∧ isPrintableAscii c = true :=
    fun c hc => Bool.and_eq_true_iff.1 (List.all_eq_true.1 h c hc)
  split
  · exact hall (by decide)
  · exact hall (by decide)

/-- Days, the word for them and the time of day stand between spaces. -/
theorem isInert_clockChars (micros : Int) : IsInert (clockChars micros) := by
  have htime := isInert_timeChars (micros.fmod microsPerDay).toNat
  rw [clockChars_eq]
  split
  · exact htime
  · have hdays : IsInert (Numeral.signed (micros.fdiv microsPerDay)) :=
      isInert_of_words fun c hc => isWordChar_of_isFigure (isFigure_of_mem_signed hc)
    have hword := isInert_of_words fun c hc =>
      (dayWord_chars (micros.fdiv microsPerDay).natAbs c hc).1
    exact hdays.append_space (hword.append_space htime)

theorem printable_clockChars (micros : Int) :
    ∀ c ∈ clockChars micros, isPrintableAscii c = true := by
  have htime := Console.printable_of_groups (isGroups_timeChars (micros.fmod microsPerDay).toNat)
  rw [clockChars_eq]
  split
  · exact htime
  · simp only [List.forall_mem_append, List.forall_mem_cons]
    exact ⟨fun c hc => isPrintableAscii_of_isFigure (isFigure_of_mem_signed hc), by decide,
      fun c hc => (dayWord_chars _ c hc).2, by decide, htime⟩

theorem isCell_clockText (d : Duration) : IsCell .left d.clockText.toList := by
  rw [clockText, String.toList_ofList]
  exact isCell_of_printable (isInert_clockChars d.micros).isPlain (printable_clockChars d.micros)

end Duration

/-- A name of printable ASCII in which nothing is markup and no emoji is named. -/
structure IsPlainName (n : String) : Prop where
  printable : ∀ c ∈ n.toList, isPrintableAscii c = true
  plain : IsPlain n.toList

theorem IsPlainName.isCell {n : String} (h : IsPlainName n) : IsCell .left n.toList :=
  isCell_of_printable h.plain h.printable

namespace Interface4

variable {i : Interface4}

/-- The range of a built interface has two IPv4 addresses as its ends. -/
theorem space_of_build {name : RawText} {v : V4Config} (h : build name v = .ok (some i)) :
    ∃ first last, i.space.first = .v4 first ∧ i.space.last = .v4 last := by
  obtain ⟨subnet, first, last, space, -, hspace, -, rfl⟩ :=
    buildEnabled_eq_ok_iff.1 (build_eq_some_iff.1 h).2
  obtain ⟨hfirst, hlast⟩ := AddressRange.ofEnds_eq_ok_iff.1 hspace
  exact ⟨first, last, hfirst, hlast⟩

theorem text_space {first last : Number4} (hfirst : i.space.first = .v4 first)
    (hlast : i.space.last = .v4 last) : i.space.text = RawText.ofChars i.space.figures := by
  apply AddressRange.text_of_zones
  · rw [hfirst]
    rfl
  · rw [hlast]
    rfl

theorem isFigure_of_mem_space {first last : Number4} (hfirst : i.space.first = .v4 first)
    (hlast : i.space.last = .v4 last) : ∀ c ∈ i.space.figures, isFigure c = true := by
  rw [AddressRange.figures, hfirst, hlast, List.forall_mem_append, List.forall_mem_cons]
  exact ⟨fun c hc => isFigure_of_mem_dotted hc, by decide, fun c hc => isFigure_of_mem_dotted hc⟩

theorem isFigure_of_mem_subnet : ∀ c ∈ i.subnet.text.toList, isFigure c = true := by
  rw [Subnet.text, String.toList_ofList, Subnet.lengthChars, List.forall_mem_append,
    List.forall_mem_cons]
  exact ⟨fun c hc => isFigure_of_mem_dotted hc, by decide, fun c hc => isFigure_of_mem_decimal hc⟩

theorem isFigure_of_mem_count : ∀ c ∈ (toString i.addressCount).toList, isFigure c = true := by
  rw [toList_toString]
  exact fun c hc => isFigure_of_mem_decimal hc

/-- All cells of an IPv4 interface but its name are shown as they are. -/
theorem rest_shown (s : Service) (mark : Char) {first last : Number4}
    (hfirst : i.space.first = .v4 first) (hlast : i.space.last = .v4 last) :
    List.Forall₂ CellOf (s.table4 mark).columns.tail (i.cells mark).tail := by
  refine .cons ?_ (.cons ?_ (.cons ?_ (.cons ?_ (.cons ?_ .nil))))
  · apply isCell_of_figures (.inl rfl)
    rw [Address.text_v4, RawText.marked_ofChars, String.toList_ofList]
    exact fun c hc => isFigure_of_mem_dotted hc
  · exact isCell_of_figures (.inl rfl) isFigure_of_mem_subnet
  · apply isCell_of_figures (.inl rfl)
    rw [text_space hfirst hlast, RawText.marked_ofChars, String.toList_ofList]
    exact isFigure_of_mem_space hfirst hlast
  · exact isCell_of_figures (.inr rfl) isFigure_of_mem_count
  · exact i.lease.isCell_clockText

/-- A name without surrogates leaves no place for a mark. -/
theorem cells_eq_of_not_isBroken {first last : Number4} (hfirst : i.space.first = .v4 first)
    (hlast : i.space.last = .v4 last) (h : i.name.isBroken = false) (mark other : Char) :
    i.cells mark = i.cells other := by
  rw [cells, cells, text_space hfirst hlast, Address.text_v4]
  simp only [RawText.marked_ofChars, RawText.marked_of_not_isBroken h]

end Interface4

namespace Interface6

variable {i : Interface6}

theorem isCell_yesOrNo (b : Bool) : IsCell .left (yesOrNo b).toList := by
  have hwords : ∀ b, (yesOrNo b).toList.all isWordChar = true := by decide
  exact isCell_of_words (.inl rfl) (List.all_eq_true.1 (hwords b))

/-- A start without a zone is shown as it is if no emoji is named in it. -/
theorem isCell_start {a : Address} (hnames : IsNameless a.figures) : IsCell .left a.figures :=
  isCell_of_printable (Console.isInert_of_groups a.isGroups_figures hnames).isPlain
    (Console.printable_of_groups a.isGroups_figures)

def startText (mark : Char) (i : Interface6) : String :=
  match i.rangeStart with
  | some a => a.text.marked mark
  | none => "-"

variable {mark : Char}

theorem startText_of_some {a : Address} (h : i.rangeStart = some a) :
    i.startText mark = a.text.marked mark := by
  rw [startText, h]

theorem startText_of_none (h : i.rangeStart = none) : i.startText mark = "-" := by
  rw [startText, h]

theorem cells_eq (mark : Char) (i : Interface6) : i.cells mark =
    [i.name.marked mark, i.startText mark, i.lease.clockText, yesOrNo i.allowSlaac,
      yesOrNo i.slaacOnly] := rfl

theorem isCell_startText (h : ∀ a, i.rangeStart = some a → ∃ t : String,
    a.text = t ∧ IsCell .left t.toList) : IsCell .left (i.startText mark).toList := by
  cases hstart : i.rangeStart with
  | none =>
    rw [startText_of_none hstart]
    exact isCell_of_words (.inl rfl) (List.all_eq_true.1 (by decide))
  | some a =>
    obtain ⟨t, ht, hcell⟩ := h a hstart
    rw [startText_of_some hstart, ht, RawText.marked_ofString]
    exact hcell

/-- Neither an address nor its zone closes a tag. -/
theorem hasTag_startText (hmark : mark ≠ '/') (i : Interface6) :
    hasTag isSlash (i.startText mark).toList = false := by
  apply Console.hasTag_of_slash_not_mem
  cases hstart : i.rangeStart with
  | none =>
    rw [startText_of_none hstart]
    decide
  | some a =>
    rw [startText_of_some hstart]
    intro hmem
    rcases RawText.mem_marked hmem with hmem | heq
    · exact a.slash_not_mem_text hmem
    · exact hmark heq.symm

theorem rest_shown (s : Service) (mark : Char) (i : Interface6) :
    List.Forall₂ CellOf ((s.table6 mark).columns.drop 2) ((i.cells mark).drop 2) :=
  .cons i.lease.isCell_clockText (.cons (isCell_yesOrNo i.allowSlaac)
    (.cons (isCell_yesOrNo i.slaacOnly) .nil))

theorem cells_eq_of_not_isBroken (hname : i.name.isBroken = false)
    (hstart : ∀ a, i.rangeStart = some a → a.text.isBroken = false) (mark other : Char) :
    i.cells mark = i.cells other := by
  have hsame : i.startText mark = i.startText other := by
    cases hs : i.rangeStart with
    | none => rw [startText_of_none hs, startText_of_none hs]
    | some a =>
      rw [startText_of_some hs, startText_of_some hs]
      simp only [RawText.marked_of_not_isBroken (hstart a hs)]
  rw [cells_eq, cells_eq, hsame]
  simp only [RawText.marked_of_not_isBroken hname]

end Interface6

end LeasePlan
