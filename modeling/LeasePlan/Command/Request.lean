import LeasePlan.Command.Switch

namespace LeasePlan

inductive Job
  | misused
  | help
  /-- Checks the configuration in a file. -/
  | check (file : Option String)
  /-- Looks for the first free address between two addresses. -/
  | range (first last : String) (taken : List String)
deriving DecidableEq

inductive Request
  | misused
  | help
  | version
  | job (job : Job)
deriving DecidableEq

namespace Job

def helpSwitch : Switch := ⟨"help", none, false⟩

def ofCheck (w : Words) : Job :=
  match w.operands with
  | [] => check none
  | [file] => check (some file)
  | _ => misused

def takenSwitch : Switch := ⟨"taken", some 't', true⟩

def ofRange (w : Words) : Job :=
  match w.operands with
  | [first, last] =>
    range first last ((w.switches.filter fun s => s.1 = takenSwitch.name).map Prod.snd)
  | _ => misused

/-- Help wins over what else the words of a command ask for, if they can be read. -/
def ofWords (known : List Switch) (build : Words → Job) (words : List String) : Job :=
  match Switch.readWords (helpSwitch :: known) true words with
  | .error _ => misused
  | .ok w => if w.switches.any fun s => s.1 = helpSwitch.name then help else build w

/-- The job of a command and of the words behind it. -/
def ofCommand? (command : String) (words : List String) : Option Job :=
  match command with
  | "check" => some (ofWords [] ofCheck words)
  | "range" => some (ofWords [takenSwitch] ofRange words)
  | _ => none

end Job

namespace Request

def versionSwitch : Switch := ⟨"version", some 'v', false⟩

def switches : List Switch :=
  [versionSwitch, ⟨"verbose", none, false⟩, ⟨"json-logs", none, false⟩, Job.helpSwitch]

/-- The first switch that asks for something of its own. -/
def ofSwitches? (given : List (String × String)) : Option Request :=
  given.findSome? fun s =>
    if s.1 = versionSwitch.name then some version
    else if s.1 = Job.helpSwitch.name then some help
    else none

/-- Reads a command line: switches, a command and the words for it. -/
def ofArguments (arguments : List String) : Request :=
  match Switch.readWords switches false arguments with
  | .error _ => misused
  | .ok w =>
    match ofSwitches? w.switches with
    | some r => r
    | none =>
      match w.operands with
      | [] => misused
      | command :: words =>
        match Job.ofCommand? command words with
        | none => misused
        | some j => job j

end Request

end LeasePlan
