import Mathlib
import LeasePlan.Command.Run
import LeasePlan.Proofs.Outcome
import LeasePlan.Proofs.RangeWalk

namespace LeasePlan.Job

/-- What the report of an address and its offset promises. -/
structure IsFree (r : AddressRange) (taken : List Address) (a : Address) (offset : Nat) :
    Prop where
  number_eq : a.number = r.first.number + offset
  contained : r.contains a = true
  untaken : ∀ b ∈ taken, r.contains b = true → b.number ≠ a.number

/-- Neither an end nor a contained taken address lies in a zone and has the number of this one. -/
structure ClearOfZones (r : AddressRange) (taken : List Address) (a : Address) : Prop where
  first : r.first.number = a.number → r.first.zone = none
  last : r.last.number = a.number → r.last.zone = none
  taken : ∀ b ∈ taken, r.contains b = true → b.number = a.number → b.zone = none

variable {r : AddressRange} {taken : List Address} {a : Address} {offset : Nat}

theorem walked_of_firstFree? (h : firstFree? r taken = some (a, offset)) :
    (∃ k : Nat, r.walk[k]? = some a) ∧ a ∉ taken ∧ offset = r.position a := by
  obtain ⟨b, hb, heq⟩ := Option.map_eq_some_iff.1 h
  cases heq
  rw [AddressRange.find?_eq] at hb
  have hfree := List.find?_some hb
  simp only [List.contains_eq_mem, Bool.not_eq_true', decide_eq_false_iff_not] at hfree
  exact ⟨List.mem_iff_getElem?.1 (List.mem_of_find?_eq_some hb), hfree, rfl⟩

theorem IsFree.clearOfZones (hz : a.zone = none) (h : IsFree r taken a offset) :
    ClearOfZones r taken a := by
  obtain ⟨-, hfirst, hlast⟩ := AddressRange.contains_iff.1 h.contained
  refine ⟨?_, ?_, ?_⟩
  · intro heq
    have hself : r.first = a := hfirst.resolve_left (by omega)
    rw [hself, hz]
  · intro heq
    have hself : a = r.last := hlast.resolve_left (by omega)
    rw [← hself, hz]
  · intro b hb hin heq
    exact absurd heq (h.untaken b hb hin)

theorem ClearOfZones.isFree {k : Nat} (hwalk : r.walk[k]? = some a) (hfree : a ∉ taken)
    (h : ClearOfZones r taken a) : IsFree r taken a (r.position a) := by
  obtain ⟨hf, hn, hz⟩ := AddressRange.isPlain_of_walk hwalk
  have hlen := r.number_add_length
  have hin : r.contains a = true := by
    rw [AddressRange.contains_walk_iff hwalk]
    rintro (⟨hk, hzone⟩ | ⟨hk, hzone⟩)
    · exact hzone (h.first (by omega))
    · exact hzone (h.last (by omega))
  refine ⟨(AddressRange.number_add_position hin).symm, hin, ?_⟩
  intro b hb hbin heq
  obtain ⟨hbf, -, -⟩ := AddressRange.number_mem_of_contains hbin
  have hself : b = a :=
    Address.ext_view (hbf.trans hf.symm) heq ((h.taken b hb hbin heq).trans hz.symm)
  exact hfree (hself ▸ hb)

theorem isFree_iff_clearOfZones (h : firstFree? r taken = some (a, offset)) :
    IsFree r taken a offset ↔ ClearOfZones r taken a := by
  obtain ⟨⟨k, hwalk⟩, hfree, rfl⟩ := walked_of_firstFree? h
  exact ⟨IsFree.clearOfZones (AddressRange.isPlain_of_walk hwalk).zone_eq,
    ClearOfZones.isFree hwalk hfree⟩

variable {console : Console}

theorem exit_of_saying {exit : Nat} {markup : String} {o : Outcome}
    (h : Outcome.saying console exit markup = .ok o) : o.exit = exit := by
  obtain ⟨ls, -, rfl⟩ := map_eq_ok.1 (mapError_eq_ok.1 h)
  rfl

theorem exit_of_ofFault {f : Fault} {o : Outcome} (h : Outcome.ofFault f = .ok o) : o.exit = 1 := by
  obtain ⟨ls, -, rfl⟩ := map_eq_ok.1 h
  rfl

/-- The last lines of a successful report tell the first free address and its offset. -/
theorem firstFree?_of_reportRange {o : Outcome} (h : reportRange console r taken = .ok o)
    (hexit : o.exit = 0) : ∃ a offset ls, firstFree? r taken = some (a, offset) ∧
      console.printRaw ("第一个可用地址: " ++ a.text ++ " (偏移 " ++ toString offset ++ ")") = .ok ls ∧
      ls <:+ o.lines := by
  obtain ⟨range, -, h⟩ := bind_eq_ok.1 h
  obtain ⟨length, -, h⟩ := bind_eq_ok.1 h
  cases hfree : firstFree? r taken with
  | none =>
    rw [hfree] at h
    obtain ⟨ls, -, h⟩ := bind_eq_ok.1 h
    cases h
    cases hexit
  | some free =>
    obtain ⟨a, offset⟩ := free
    rw [hfree] at h
    obtain ⟨ls, hls, h⟩ := bind_eq_ok.1 h
    cases h
    exact ⟨a, offset, ls, rfl, hls, List.suffix_append _ _⟩

theorem reportRange_of_runRange {first last : String} {texts : List String} {o : Outcome}
    (h : runRange console first last texts = .ok o) (hexit : o.exit = 0) :
    ∃ r taken, readRange first last texts = .ok (r, taken) ∧
      reportRange console r taken = .ok o := by
  unfold runRange at h
  split at h
  · cases (exit_of_ofFault h).symm.trans hexit
  · cases (exit_of_saying h).symm.trans hexit
  · cases h
  next r taken hread => exact ⟨r, taken, hread, h⟩

/-- A reported address is in the range, at the reported offset and not taken, exactly if no zone
was given to an end or a contained taken address with its number. -/
theorem reported_isFree_iff {first last : String} {texts : List String} {o : Outcome}
    (h : runRange console first last texts = .ok o) (hexit : o.exit = 0) :
    ∃ r taken a offset ls, readRange first last texts = .ok (r, taken) ∧
      firstFree? r taken = some (a, offset) ∧
      console.printRaw ("第一个可用地址: " ++ a.text ++ " (偏移 " ++ toString offset ++ ")") = .ok ls ∧
      ls <:+ o.lines ∧ (IsFree r taken a offset ↔ ClearOfZones r taken a) := by
  obtain ⟨r, taken, hread, hreport⟩ := reportRange_of_runRange h hexit
  obtain ⟨a, offset, ls, hfree, hls, hlines⟩ := firstFree?_of_reportRange hreport hexit
  exact ⟨r, taken, a, offset, ls, hread, hfree, hls, hlines, isFree_iff_clearOfZones hfree⟩

theorem reported_past_zoned_start :
    ∃ o, runRange (.wide fun _ => none) "fe80::1%eth0" "fe80::5" ["fe80::1"] = .ok o ∧
      o.exit = 0 ∧ ∃ r taken a offset ls,
        readRange "fe80::1%eth0" "fe80::5" ["fe80::1"] = .ok (r, taken) ∧
        firstFree? r taken = some (a, offset) ∧
        (Console.wide fun _ => none).printRaw
          ("第一个可用地址: " ++ a.text ++ " (偏移 " ++ toString offset ++ ")") = .ok ls ∧
        ls <:+ o.lines ∧ (IsFree r taken a offset ↔ ClearOfZones r taken a) := by
  have hrun : (runRange (.wide fun _ => none) "fe80::1%eth0" "fe80::5" ["fe80::1"]).toOption.map
      Outcome.exit = some 0 := by decide +kernel
  obtain ⟨o, ho, hexit⟩ := Option.map_eq_some_iff.1 hrun
  have h := toOption_eq_some_iff.1 ho
  exact ⟨o, h, hexit, reported_isFree_iff h hexit⟩

/-- Link-local addresses that differ in the last group. -/
def linkLocal (n : Fin 65536) (zone : Option Zone) : Address :=
  .v6 ⟨338288524927261089654018896841347694592 + n, by omega⟩ zone

/-- Two link-local addresses, the second of them in a zone. -/
def zonedEnd : AddressRange where
  first := linkLocal 1 none
  last := linkLocal 2 (some ⟨RawText.ofString "eth0", rfl⟩)
  family_eq := rfl
  number_lt := by decide
  length_le := by decide

/-- The report names an address outside the range at the offset of the start. -/
theorem zonedEnd_misreported :
    readRange "fe80::1" "fe80::2%eth0" ["fe80::1"] = .ok (zonedEnd, [linkLocal 1 none]) ∧
      firstFree? zonedEnd [linkLocal 1 none] = some (linkLocal 2 none, 0) ∧
      ¬ IsFree zonedEnd [linkLocal 1 none] (linkLocal 2 none) 0 := by
  refine ⟨rfl, rfl, ?_⟩
  intro h
  exact absurd h.number_eq (by decide)

end LeasePlan.Job
