import LeasePlan.AddressRange.Document
import LeasePlan.Command.Request
import LeasePlan.Config.Load
import LeasePlan.Report
import LeasePlan.Settings

namespace LeasePlan

/-- How a run ends, and what it shows. -/
structure Outcome where
  exit : Nat
  lines : List Console.Line
deriving DecidableEq

namespace Outcome

def output (o : Outcome) : String := Console.unlines o.lines

/-- The command line cannot be read; what is said about it is no output. -/
def misused : Outcome := ⟨2, []⟩

def help : Outcome := ⟨0, []⟩

def ofFault (f : Fault) : Except Failure Outcome := f.report.map fun ls => ⟨1, ls⟩

/-- An exit code with one text in markup. -/
def saying (console : Console) (exit : Nat) (markup : String) : Except Failure Outcome :=
  ((console.print markup).map fun ls => ⟨exit, ls⟩).mapError Failure.markup

end Outcome

namespace Job

/-- The file to check: the given one, or else the one from the settings. -/
def path? (file : Option String) (s : Settings) : Option Path :=
  match file with
  | some f => some (Path.ofString f)
  | none => s.configFile

def service (files : FileTree) (p : Path) : Except Failure (Option Service) := do
  let c ← Config.load files p
  Service.assemble (some c)

def runCheck (console : Console) (files : FileTree) (p : Option Path) : Except Failure Outcome :=
  match p with
  | none => Outcome.saying console 2 "[red]未指定配置文件[/red]"
  | some p =>
    match service files p with
    | .error (.fault f) => Outcome.ofFault f
    | .error e => .error e
    | .ok none => Outcome.saying console 0 "[yellow]DHCP服务未启用[/yellow]"
    | .ok (some s) => (s.report console).map fun ls => ⟨0, ls⟩

/-- The first free address of a range and its offset, which is zero for an address that the range
does not contain. -/
def firstFree? (r : AddressRange) (taken : List Address) : Option (Address × Nat) :=
  (r.find? fun a => !taken.contains a).map fun a => (a, (r.offset? a).getD 0)

/-- What is said of a range and its first free address. -/
def reportRange (console : Console) (r : AddressRange) (taken : List Address) :
    Except Failure Outcome := do
  let range ← console.printRaw ("范围: " ++ r.text)
  let length ← console.printRaw ("地址数: " ++ toString r.length)
  match firstFree? r taken with
  | none =>
    let none ← console.printRaw "[yellow]没有可用地址[/yellow]"
    .ok ⟨1, range ++ length ++ none⟩
  | some (a, offset) =>
    let first ← console.printRaw
      ("第一个可用地址: " ++ a.text ++ " (偏移 " ++ toString offset ++ ")")
    .ok ⟨0, range ++ length ++ first⟩

/-- The range and the taken addresses that the texts stand for. -/
def readRange (first last : String) (taken : List String) :
    Except Failure (AddressRange × List Address) := do
  let r ← AddressRange.ofData (.text first) (.text last)
  let addresses ← taken.mapM fun t => (Data.text t).toAddress
  .ok (r, addresses)

def runRange (console : Console) (first last : String) (taken : List String) :
    Except Failure Outcome :=
  match readRange first last taken with
  | .error (.fault f) => Outcome.ofFault f
  | .error (.notAddress d) =>
    Outcome.saying console 1 ("[red]无效地址: " ++ Failure.notAddressMessage d ++ "[/red]")
  | .error e => .error e
  | .ok (r, addresses) => reportRange console r addresses

def run (console : Console) (files : FileTree) (s : Settings) : Job → Except Failure Outcome
  | misused => .ok Outcome.misused
  | help => .ok Outcome.help
  | check file => runCheck console files (path? file s)
  | range first last taken => runRange console first last taken

end Job

namespace Request

def versionText : String := "dhcp-topo v0.1.0"

/-- The settings are read before a job, even before one that is misused. -/
def run (console : Console) (files : FileTree) (env : Environment) :
    Request → Except Failure Outcome
  | misused => .ok Outcome.misused
  | help => .ok Outcome.help
  | version => Outcome.saying console 0 versionText
  | job j => do
    let s ← Settings.ofEnvironment env
    j.run console files s

def file? (env : Environment) : Request → Option Path
  | job (.check file) => (Settings.ofEnvironment env).toOption.bind (Job.path? file)
  | _ => none

end Request

def runCommand (console : Console) (arguments : List String) (files : FileTree)
    (env : Environment) : Except Failure Outcome :=
  (Request.ofArguments arguments).run console files env

end LeasePlan
