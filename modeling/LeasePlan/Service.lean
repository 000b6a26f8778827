import LeasePlan.Config.Validation
import LeasePlan.Interface.Dump

namespace LeasePlan

structure Service where
  enabled : Bool
  interfaces4 : List Interface4
  interfaces6 : List Interface6
deriving DecidableEq

structure Summary where
  interfaces : Nat
  interfaces4 : Nat
  interfaces6 : Nat
  allocatable4 : Nat
deriving DecidableEq

namespace Service

/-- The names of all interfaces with some protocol, in order. -/
def names (s : Service) : List RawText :=
  (s.interfaces4.map Interface4.name ++ s.interfaces6.map Interface6.name).eraseDups.mergeSort
    fun a b => a ≤ b

def interface4? (s : Service) (name : RawText) : Option Interface4 :=
  s.interfaces4.find? fun i => i.name = name

def interface6? (s : Service) (name : RawText) : Option Interface6 :=
  s.interfaces6.find? fun i => i.name = name

def summary (s : Service) : Summary where
  interfaces := s.names.length
  interfaces4 := s.interfaces4.length
  interfaces6 := s.interfaces6.length
  allocatable4 := (s.interfaces4.map Interface4.addressCount).foldr (· + ·) 0

def buildInterface (c : Config) (name : RawText) :
    Except Failure (Option Interface4 × Option Interface6) :=
  match c.interfaces.find? name with
  | none => .error (.defect (.missingInterface name))
  | some none => .error (.defect (.missingInterface name))
  | some (some i) =>
    match i.v4, i.v6 with
    | none, _ => .error (.defect (.missingProtocol name Protocol.v4.name))
    | some v4, v6 =>
      match Interface4.build name v4 with
      | .error e => .error (e.annotate (Config.protocolContext name Protocol.v4.name))
      | .ok i4 =>
        match v6 with
        | none => .error (.defect (.missingProtocol name Protocol.v6.name))
        | some v6 => .ok (i4, Interface6.build name v6)

/-- Builds interface after interface up to the first that cannot be built. -/
def buildAll (c : Config) :
    List RawText → Except Failure (List Interface4 × List Interface6)
  | [] => .ok ([], [])
  | name :: names => do
    let (i4, i6) ← buildInterface c name
    let (is4, is6) ← buildAll c names
    .ok (i4.toList ++ is4, i6.toList ++ is6)

/-- Validates a configuration and builds its service; there is none if it is not enabled. -/
def assemble (conf : Option Config) : Except Failure (Option Service) := do
  Config.validate conf
  match conf with
  | none => .error (.defect .missingConfig)
  | some c =>
    if !c.enabled then .ok none
    else
      let (interfaces4, interfaces6) ← buildAll c c.interfaces.sortedNames
      .ok (some { enabled := c.enabled, interfaces4, interfaces6 })

def document (s : Service) : Data :=
  .object [("enabled", .bool s.enabled),
    ("interfaces4", .list (s.interfaces4.map Interface4.document)),
    ("interfaces6", .list (s.interfaces6.map Interface6.document)),
    ("interface_names", .list (s.names.map .ofRaw))]

end Service

end LeasePlan
