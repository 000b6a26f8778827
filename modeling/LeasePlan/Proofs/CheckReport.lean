import Mathlib
import LeasePlan.Command.Run
import LeasePlan.Proofs.CellTexts
import LeasePlan.Proofs.LoadOutcome
import LeasePlan.Proofs.ServiceContents

namespace LeasePlan

open Console (CellOf IsCell hasTag hasTag_of_cellOf isSlash)
open Console.Markup (IsStyle inStyle)

namespace Service

variable {console : Console} {s : Service} {mark : Char}

/-- A service with plain names and short rows, and with starts that are shown as they are. -/
structure IsLegible (console : Console) (s : Service) : Prop where
  names : ∀ n ∈ s.names, ∃ t : String, n = t ∧ IsPlainName t
  starts : ∀ i ∈ s.interfaces6, ∀ a, i.rangeStart = some a →
    ∃ t : String, a.text = t ∧ IsCell .left t.toList
  fits4 : ∀ mark, (s.table4 mark).Fits console
  fits6 : ∀ mark, (s.table6 mark).Fits console

/-- A name, or the zone of a start, has a surrogate, which cannot be written. -/
inductive HoldsSurrogate (s : Service) : Prop
  | name {n : RawText} (hn : n ∈ s.names) (h : n.isBroken = true)
  | start {i : Interface6} {a : Address} (hi : i ∈ s.interfaces6) (ha : i.rangeStart = some a)
      (h : a.text.isBroken = true)

/-- All IPv4 ranges lie between IPv4 addresses. -/
def RangesInV4 (s : Service) : Prop := ∀ i ∈ s.interfaces4,
  ∃ first last, i.space.first = .v4 first ∧ i.space.last = .v4 last

theorem name_mem_of_v4 {i : Interface4} (hi : i ∈ s.interfaces4) : i.name ∈ s.names :=
  mem_names_iff.2 (.inl (List.mem_map_of_mem hi))

theorem name_mem_of_v6 {i : Interface6} (hi : i ∈ s.interfaces6) : i.name ∈ s.names :=
  mem_names_iff.2 (.inr (List.mem_map_of_mem hi))

theorem headers_shown {columns : List Console.Column}
    (h : ∀ c ∈ columns, (c.justify = .left ∨ c.justify = .right) ∧
      c.header.toList.all isWordChar = true) :
    List.Forall₂ CellOf columns (columns.map Console.Column.header) := by
  rw [List.forall₂_map_right_iff, List.forall₂_same]
  intro c hc
  exact isCell_of_words (h c hc).1 (List.all_eq_true.1 (h c hc).2)

theorem headers4_shown (s : Service) (mark : Char) : List.Forall₂ CellOf (s.table4 mark).columns
    ((s.table4 mark).columns.map Console.Column.header) := by
  have hwords : ∀ c ∈ (table4 ' ' ⟨true, [], []⟩).columns,
      (c.justify = .left ∨ c.justify = .right) ∧ c.header.toList.all isWordChar = true := by
    decide
  exact headers_shown hwords

theorem headers6_shown (s : Service) (mark : Char) : List.Forall₂ CellOf (s.table6 mark).columns
    ((s.table6 mark).columns.map Console.Column.header) := by
  have hwords : ∀ c ∈ (table6 ' ' ⟨true, [], []⟩).columns,
      (c.justify = .left ∨ c.justify = .right) ∧ c.header.toList.all isWordChar = true := by
    decide
  exact headers_shown hwords

theorem isInert_description (p : Protocol) : Console.IsInert p.description.toList := by
  cases p with
  | v4 =>
    exact Console.isInert_of_not_mem (by decide) (by decide) (List.all_eq_true.1 (by decide))
  | v6 =>
    exact Console.isInert_of_not_mem (by decide) (by decide) (List.all_eq_true.1 (by decide))

theorem render_description (p : Protocol) :
    Console.Markup.render console p.description = .ok p.description.toList :=
  Console.Markup.render_of_isPlain (isInert_description p).isPlain

theorem IsLegible.isCell_name (h : s.IsLegible console) {n : RawText} (hn : n ∈ s.names) :
    IsCell .left (n.marked mark).toList := by
  obtain ⟨t, rfl, ht⟩ := h.names n hn
  rw [RawText.marked_ofString]
  exact ht.isCell

theorem isLegible_table4 (h : s.IsLegible console) (hspace : s.RangesInV4) :
    (s.table4 mark).IsLegible console where
  title := render_description .v4
  cells := by
    refine List.forall_mem_cons.2 ⟨s.headers4_shown mark, ?_⟩
    intro row hrow
    obtain ⟨i, hi, rfl⟩ := List.mem_map.1 hrow
    obtain ⟨first, last, hfirst, hlast⟩ := hspace i hi
    exact .cons (h.isCell_name (name_mem_of_v4 hi))
      (Interface4.rest_shown s mark hfirst hlast)
  fits := h.fits4 mark

theorem isLegible_table6 (h : s.IsLegible console) : (s.table6 mark).IsLegible console where
  title := render_description .v6
  cells := by
    refine List.forall_mem_cons.2 ⟨s.headers6_shown mark, ?_⟩
    intro row hrow
    obtain ⟨i, hi, rfl⟩ := List.mem_map.1 hrow
    exact .cons (h.isCell_name (name_mem_of_v6 hi))
      (.cons (Interface6.isCell_startText (h.starts i hi)) (Interface6.rest_shown s mark i))
  fits := h.fits6 mark

variable (console) in
/-- If no name closes a tag, the first table can be shown. -/
theorem exists_lines4 (hnames : ∀ n ∈ s.names, hasTag isSlash (n.marked mark).toList = false)
    (hspace : s.RangesInV4) : ∃ ls, (s.table4 mark).lines console = .ok ls := by
  refine Console.Table.exists_lines (render_description .v4)
    (List.forall_mem_cons.2 ⟨hasTag_of_cellOf (s.headers4_shown mark), ?_⟩)
  intro row hrow
  obtain ⟨i, hi, rfl⟩ := List.mem_map.1 hrow
  obtain ⟨first, last, hfirst, hlast⟩ := hspace i hi
  exact List.forall_mem_cons.2 ⟨hnames i.name (name_mem_of_v4 hi),
    hasTag_of_cellOf (Interface4.rest_shown s mark hfirst hlast)⟩

variable (console) in
theorem exists_lines6 (hmark : mark ≠ '/')
    (hnames : ∀ n ∈ s.names, hasTag isSlash (n.marked mark).toList = false) :
    ∃ ls, (s.table6 mark).lines console = .ok ls := by
  refine Console.Table.exists_lines (render_description .v6)
    (List.forall_mem_cons.2 ⟨hasTag_of_cellOf (s.headers6_shown mark), ?_⟩)
  intro row hrow
  obtain ⟨i, hi, rfl⟩ := List.mem_map.1 hrow
  rw [i.cells_eq, List.forall_mem_cons, List.forall_mem_cons]
  exact ⟨hnames i.name (name_mem_of_v6 hi), i.hasTag_startText hmark,
    hasTag_of_cellOf (Interface6.rest_shown s mark i)⟩

theorem name_not_isBroken (h : ¬ s.HoldsSurrogate) {n : RawText} (hn : n ∈ s.names) :
    n.isBroken = false :=
  eq_false_of_ne_true fun hbroken => h (.name hn hbroken)

/-- Without surrogates no mark is seen. -/
theorem table4_eq (h : ¬ s.HoldsSurrogate) (hspace : s.RangesInV4) (mark other : Char) :
    s.table4 mark = s.table4 other := by
  have hrows : s.interfaces4.map (Interface4.cells mark) =
      s.interfaces4.map (Interface4.cells other) := by
    refine List.map_congr_left fun i hi => ?_
    obtain ⟨first, last, hfirst, hlast⟩ := hspace i hi
    exact i.cells_eq_of_not_isBroken hfirst hlast (name_not_isBroken h (name_mem_of_v4 hi))
      mark other
  rw [table4, table4, hrows]

theorem table6_eq (h : ¬ s.HoldsSurrogate) (mark other : Char) :
    s.table6 mark = s.table6 other := by
  have hrows : s.interfaces6.map (Interface6.cells mark) =
      s.interfaces6.map (Interface6.cells other) := by
    refine List.map_congr_left fun i hi => ?_
    exact i.cells_eq_of_not_isBroken (name_not_isBroken h (name_mem_of_v6 hi))
      (fun a ha => eq_false_of_ne_true fun hbroken => h (.start hi ha hbroken)) mark other
  rw [table6, table6, hrows]

theorem IsLegible.not_holdsSurrogate (h : s.IsLegible console) : ¬ s.HoldsSurrogate := by
  rintro (⟨hn, hbroken⟩ | ⟨hi, ha, hbroken⟩)
  · obtain ⟨t, rfl, -⟩ := h.names _ hn
    exact Bool.false_ne_true ((RawText.isBroken_ofChars _).symm.trans hbroken)
  · obtain ⟨t, ht, -⟩ := h.starts _ hi _ ha
    rw [ht] at hbroken
    exact Bool.false_ne_true ((RawText.isBroken_ofChars _).symm.trans hbroken)

end Service

section Summarised

theorem isStyle_bold : IsStyle ['b', 'o', 'l', 'd'] :=
  ⟨by decide, by decide, by decide, by decide, by decide +kernel, by decide, by decide⟩

theorem bracket_not_mem_toString (n : Nat) : '[' ∉ (toString n).toList := by
  rw [toList_toString]
  exact fun hmem => absurd (isFigure_of_mem_decimal hmem) (by decide)

/-- Behind its heading the markup of a summary holds labels and numbers. -/
theorem Summary.toList_panel (m : Summary) : ∃ rest,
    m.panel.text.toList = inStyle ['b', 'o', 'l', 'd'] "服务统计".toList ++ rest ∧ '[' ∉ rest := by
  have hheading : "[bold]服务统计[/bold]\n\n• 接口数: ".toList =
      inStyle ['b', 'o', 'l', 'd'] "服务统计".toList ++ "\n\n• 接口数: ".toList := by decide
  apply Exists.intro
  constructor
  · simp only [panel, String.toList_append, hheading, List.append_assoc]
    rfl
  · simp only [List.mem_append, not_or]
    exact ⟨by decide, bracket_not_mem_toString _, by decide, bracket_not_mem_toString _,
      by decide, bracket_not_mem_toString _, by decide, bracket_not_mem_toString _⟩

theorem isInert_title : Console.IsInert "DHCP服务".toList :=
  Console.isInert_of_not_mem (by decide) (by decide) (List.all_eq_true.1 (by decide))

/-- The heading of a summary closes the one tag that it opens. -/
theorem Summary.exists_lines (console : Console) (m : Summary) :
    ∃ ls, m.panel.lines console = .ok ls := by
  have htitle : Console.Markup.render console m.panel.title = .ok "DHCP服务".toList :=
    Console.Markup.render_of_isPlain isInert_title.isPlain
  have htags : hasTag isSlash "服务统计".toList = false := by decide
  obtain ⟨rest, htext, hrest⟩ := m.toList_panel
  obtain ⟨text, hrender⟩ := Console.Markup.exists_render_inStyle console isStyle_bold htags
    (by decide) (Console.hasTag_of_not_mem hrest)
  rw [← htext, String.ofList_toList] at hrender
  exact ⟨_, bind_eq_ok.2 ⟨_, htitle, bind_eq_ok.2 ⟨text, hrender, rfl⟩⟩⟩

end Summarised

namespace Job

theorem isStyle_green : IsStyle ['g', 'r', 'e', 'e', 'n'] :=
  ⟨by decide, by decide, by decide, by decide, by decide +kernel, by decide, by decide⟩

theorem exists_print_passed (console : Console) :
    ∃ ls, console.print "[green]配置验证通过 ✓[/green]" = .ok ls := by
  have hmarkup : "[green]配置验证通过 ✓[/green]" =
      String.ofList (inStyle ['g', 'r', 'e', 'e', 'n'] "配置验证通过 ✓".toList) := by
    apply String.toList_injective
    rw [String.toList_ofList]
    decide
  rw [hmarkup]
  exact Console.exists_print_inStyle console isStyle_green (by decide) (by decide)

variable {console : Console}

/-- Behind both tables there is nothing that could fail. -/
theorem exists_rest (console : Console) (s : Service) : ∃ panel passed,
    written (fun _ => s.summary.panel.lines console) = .ok panel ∧
      console.printRaw "[green]配置验证通过 ✓[/green]" = .ok passed := by
  obtain ⟨panel, hpanel⟩ := s.summary.exists_lines console
  obtain ⟨passed, hpassed⟩ := exists_print_passed console
  refine ⟨panel, passed, ?_, Console.printRaw_of_print hpassed⟩
  rw [written_of_eq fun _ => hpanel]
  rfl

theorem exists_report {s : Service} {lines4 lines6 : List Console.Line}
    (h4 : ∀ mark, (s.table4 mark).lines console = .ok lines4)
    (h6 : ∀ mark, (s.table6 mark).lines console = .ok lines6) :
    ∃ rest, s.report console = .ok (lines4 ++ lines6 ++ rest) := by
  obtain ⟨panel, passed, hpanel, hpassed⟩ := exists_rest console s
  refine ⟨panel ++ passed, ?_⟩
  rw [← List.append_assoc]
  exact bind_eq_ok.2 ⟨lines4, written_of_eq h4, bind_eq_ok.2 ⟨lines6, written_of_eq h6,
    bind_eq_ok.2 ⟨panel, hpanel, bind_eq_ok.2 ⟨passed, hpassed, rfl⟩⟩⟩⟩

/-- A report fails for a tag in a table, or for a surrogate. -/
theorem report_eq_error {s : Service} (hspace : s.RangesInV4) {e : Failure}
    (h : s.report console = .error e) :
    (∃ flaw mark, e = .markup flaw ∧ IsMark mark ∧
      ((s.table4 mark).lines console = .error flaw ∨
        (s.table6 mark).lines console = .error flaw)) ∨
      e = .crash .unwritable ∧ s.HoldsSurrogate := by
  obtain ⟨panel, passed, hpanel, hpassed⟩ := exists_rest console s
  rcases bind_eq_error.1 h with h | ⟨lines4, -, h⟩
  · rcases written_eq_error h with ⟨flaw, mark, he, hmark, hflaw⟩ | ⟨he, mark, other, hne⟩
    · exact .inl ⟨flaw, mark, he, hmark, .inl hflaw⟩
    · refine .inr ⟨he, ?_⟩
      by_contra hno
      exact hne (congrArg (fun t => t.lines console) (Service.table4_eq hno hspace mark other))
  rcases bind_eq_error.1 h with h | ⟨lines6, -, h⟩
  · rcases written_eq_error h with ⟨flaw, mark, he, hmark, hflaw⟩ | ⟨he, mark, other, hne⟩
    · exact .inl ⟨flaw, mark, he, hmark, .inr hflaw⟩
    · refine .inr ⟨he, ?_⟩
      by_contra hno
      exact hne (congrArg (fun t => t.lines console) (Service.table6_eq hno mark other))
  · rw [hpanel, hpassed] at h
    cases h

theorem rangesInV4_of_service {files : FileTree} {p : Path} {s : Service}
    (h : service files p = .ok (some s)) : s.RangesInV4 := by
  obtain ⟨c, -, hassemble⟩ := bind_eq_ok.1 h
  obtain ⟨ha, rfl⟩ :=
    (Service.assemble_eq_some_iff (Service.enabled_of_assemble_some hassemble)).1 hassemble
  intro i hi
  obtain ⟨v, -, hbuild⟩ := (Service.assembled_keeps ha).v4.made i hi
  exact Interface4.space_of_build hbuild

/-- In the tables of a service, rows are the same only for names that differ by blanks at the end at
most. -/
structure TellsApart (mark : Char) (s : Service) : Prop where
  v4 : ∀ i ∈ s.interfaces4, ∀ k ∈ s.interfaces4,
    (s.table4 mark).rowLine '│' (i.cells mark) = (s.table4 mark).rowLine '│' (k.cells mark) →
      Console.Line.dropBlankEnd (i.name.marked mark).toList =
        Console.Line.dropBlankEnd (k.name.marked mark).toList
  v6 : ∀ i ∈ s.interfaces6, ∀ k ∈ s.interfaces6,
    (s.table6 mark).rowLine '│' (i.cells mark) = (s.table6 mark).rowLine '│' (k.cells mark) →
      Console.Line.dropBlankEnd (i.name.marked mark).toList =
        Console.Line.dropBlankEnd (k.name.marked mark).toList

theorem tellsApart {s : Service} (h : s.IsLegible console) (mark : Char) : TellsApart mark s := by
  have hedge (n : RawText) (hn : n ∈ s.names) : '│' ∉ (n.marked mark).toList := by
    obtain ⟨t, rfl, ht⟩ := h.names n hn
    rw [RawText.marked_ofString]
    exact fun hmem => absurd (ht.printable '│' hmem) (by decide)
  constructor
  · intro i hi k hk heq
    exact Console.Table.dropBlankEnd_of_rowLine_eq rfl rfl (by decide)
      (hedge _ (Service.name_mem_of_v4 hi)) (hedge _ (Service.name_mem_of_v4 hk)) heq
  · intro i hi k hk heq
    exact Console.Table.dropBlankEnd_of_rowLine_eq rfl rfl (by decide)
      (hedge _ (Service.name_mem_of_v6 hi)) (hedge _ (Service.name_mem_of_v6 hk)) heq

theorem runCheck_of_service {files : FileTree} {p : Path} {s : Service}
    (h : service files p = .ok (some s)) :
    runCheck console files (some p) = (s.report console).map fun ls => ⟨0, ls⟩ := by
  rw [runCheck, h]

theorem runCheck_of_report {files : FileTree} {p : Path} {s : Service}
    (h : service files p = .ok (some s)) {ls : List Console.Line}
    (hreport : s.report console = .ok ls) : runCheck console files (some p) = .ok ⟨0, ls⟩ := by
  rw [runCheck_of_service h, hreport]
  rfl

/-- A file of such lines as the only one in the working directory. -/
def treeOf (lines : List String) : FileTree :=
  Config.soleFile Config.dhcpFile (Utf8.encode (lines.flatMap fun line => line.toList ++ ['\n']))

/-- Both protocols on an interface with brackets in its name. -/
def vlanTree : FileTree := treeOf
  ["interfaces:", "  vlan[10]:", "    ipv4:", "      gateway_ip: 10.0.0.1",
    "      subnet_mask: 255.255.255.0", "      range_start: 10.0.0.10",
    "      range_end: 10.0.0.99", "      enabled: true", "    ipv6:",
    "      range_start: 2001:db8::1", "      enabled: true", "local_domain_name: lan",
    "enabled: true"]

def vlanSpace : AddressRange where
  first := .v4 ⟨167772170, by decide⟩
  last := .v4 ⟨167772259, by decide⟩
  family_eq := rfl
  number_lt := by decide
  length_le := by decide

def vlanService : Service where
  enabled := true
  interfaces4 :=
    [⟨"vlan[10]", ⟨167772161, by decide⟩, ⟨⟨167772161, by decide⟩, 24, by decide⟩, vlanSpace,
      .hour, []⟩]
  interfaces6 := [⟨"vlan[10]", some (.v6 ⟨42540766411282592856903984951653826561, by decide⟩ none),
    .hour, false, false, []⟩]

theorem isPlainName_vlan : IsPlainName "vlan[10]" where
  printable := List.all_eq_true.1 (by decide)
  plain := ⟨by decide, by decide, List.forall_mem_nil _, Console.not_isControl_of_inline
    (List.all_eq_true.1 (by decide))⟩

theorem not_holdsSurrogate_vlan : ¬ vlanService.HoldsSurrogate := by
  rintro (⟨hn, hbroken⟩ | ⟨hi, ha, hbroken⟩)
  · rcases Service.mem_names_iff.1 hn with hn | hn
    · rw [List.mem_singleton.1 hn] at hbroken
      exact absurd hbroken (by decide)
    · rw [List.mem_singleton.1 hn] at hbroken
      exact absurd hbroken (by decide)
  · cases List.mem_singleton.1 hi
    cases ha
    exact absurd hbroken (by decide)

theorem rangesInV4_vlan : vlanService.RangesInV4 :=
  List.forall_mem_singleton.2 ⟨_, _, rfl, rfl⟩

theorem isLegible_vlanService : vlanService.IsLegible (.wide fun _ => none) where
  names := by
    intro n hn
    rcases Service.mem_names_iff.1 hn with hn | hn
    · exact ⟨"vlan[10]", List.mem_singleton.1 hn, isPlainName_vlan⟩
    · exact ⟨"vlan[10]", List.mem_singleton.1 hn, isPlainName_vlan⟩
  starts := by
    refine List.forall_mem_singleton.2 ?_
    rintro a ⟨⟩
    refine ⟨String.ofList _, (Address.text_of_zone rfl).trans (RawText.ofString_ofList _).symm, ?_⟩
    rw [String.toList_ofList]
    exact Interface6.isCell_start (by decide)
  fits4 := by
    intro mark
    rw [Service.table4_eq not_holdsSurrogate_vlan rangesInV4_vlan mark ' ']
    decide +kernel
  fits6 := by
    intro mark
    rw [Service.table6_eq not_holdsSurrogate_vlan mark ' ']
    decide +kernel

/-- IPv6 on an interface whose name is a closing tag. -/
def closingTree : FileTree := treeOf
  ["interfaces:", "  '[/]':", "    ipv4:", "      enabled: false", "    ipv6:",
    "      enabled: true", "local_domain_name: lan", "enabled: true"]

def closingService : Service := ⟨true, [], [⟨"[/]", none, .hour, false, false, []⟩]⟩

end Job

end LeasePlan
