import LeasePlan.Console.Panel
import LeasePlan.Console.Table
import LeasePlan.Duration.Clock
import LeasePlan.Service

namespace LeasePlan

/-- The cells of a row, with a mark in place of each surrogate. -/
def Interface4.cells (mark : Char) (i : Interface4) : List String :=
  [i.name.marked mark, (Address.v4 i.gateway).text.marked mark, i.subnet.text,
    i.space.text.marked mark, toString i.addressCount, i.lease.clockText]

def yesOrNo (b : Bool) : String := if b then "是" else "否"

def Interface6.cells (mark : Char) (i : Interface6) : List String :=
  [i.name.marked mark,
    match i.rangeStart with
    | some a => a.text.marked mark
    | none => "-",
    i.lease.clockText, yesOrNo i.allowSlaac, yesOrNo i.slaacOnly]

namespace Service

def table4 (mark : Char) (s : Service) : Console.Table where
  title := Protocol.v4.description
  columns := [⟨"接口", .left⟩, ⟨"网关", .left⟩, ⟨"子网", .left⟩, ⟨"地址范围", .left⟩,
    ⟨"地址数", .right⟩, ⟨"租约", .left⟩]
  rows := s.interfaces4.map (Interface4.cells mark)

def table6 (mark : Char) (s : Service) : Console.Table where
  title := Protocol.v6.description
  columns := [⟨"接口", .left⟩, ⟨"范围起点", .left⟩, ⟨"租约", .left⟩, ⟨"允许SLAAC", .left⟩,
    ⟨"仅SLAAC", .left⟩]
  rows := s.interfaces6.map (Interface6.cells mark)

end Service

def Summary.panel (s : Summary) : Console.Panel where
  title := "DHCP服务"
  text := "[bold]服务统计[/bold]\n\n• 接口数: " ++ toString s.interfaces ++
    "\n• IPv4 接口: " ++ toString s.interfaces4 ++ "\n• IPv6 接口: " ++ toString s.interfaces6 ++
    "\n• 可分配IPv4地址: " ++ toString s.allocatable4

/-- What is shown with one mark or another in place of surrogates. Where the mark makes a difference
there is a surrogate, which cannot be written. -/
def written (shown : Char → Except Console.MarkupFlaw (List Console.Line)) :
    Except Failure (List Console.Line) := do
  let ls ← (shown (Char.ofNat 0xFFFD)).mapError .markup
  let others ← (shown (Char.ofNat 0xFFFC)).mapError .markup
  if ls = others then .ok ls else .error (.crash .unwritable)

/-- The lines of a text in markup, if it can be written. -/
def Console.printRaw (console : Console) (markup : RawText) : Except Failure (List Line) :=
  written fun mark => console.print (markup.marked mark)

/-- Both tables, the panel and a last line. -/
def Service.report (console : Console) (s : Service) : Except Failure (List Console.Line) := do
  let table4 ← written fun mark => (s.table4 mark).lines console
  let table6 ← written fun mark => (s.table6 mark).lines console
  let panel ← written fun _ => s.summary.panel.lines console
  let passed ← console.printRaw "[green]配置验证通过 ✓[/green]"
  .ok (table4 ++ table6 ++ panel ++ passed)

/-- A headline, and each part of the fault in full. -/
def Fault.report (f : Fault) : Except Failure (List Console.Line) :=
  written fun mark => .ok (Console.printPlain "配置验证失败:" ++
    f.parts.flatMap fun p => Console.printPlain ("  • " ++ p.text.marked mark))

end LeasePlan
