import LeasePlan.Config.Basic
import LeasePlan.Interface.Requirement
import LeasePlan.Protocol

namespace LeasePlan

namespace Config

/-- The settings of an interface and of both its protocols have to be there. -/
def checkPresence (c : Config) (name : RawText) : Except Failure Unit :=
  match c.interfaces.find? name with
  | none => .error (.defect (.missingInterface name))
  | some none => .error (.ofCause (.nilInterface name))
  | some (some i) =>
    if i.v4.isNone then .error (.ofCause (.nilProtocol name Protocol.v4.name))
    else if i.v6.isNone then .error (.ofCause (.nilProtocol name Protocol.v6.name))
    else .ok ()

def checkStructure (c : Config) : List RawText → Except Failure Unit
  | [] => .ok ()
  | name :: names => do
    c.checkPresence name
    c.checkStructure names

/-- The IPv4 settings of an interface on their own. -/
def checkV4Settings (c : V4Config) : Except Failure Unit := do
  let _ ← Requirement.address4 "gateway ip" c.gateway
  let _ ← Requirement.prefixLength c.mask
  let first ← Requirement.address4 "range start" c.rangeStart
  let last ← Requirement.address4 "range end" c.rangeEnd
  let _ ← Requirement.range (.v4 first) (.v4 last)
  .ok ()

/-- The steps that lead to the settings of a protocol on an interface. -/
def protocolContext (name protocol : RawText) : List RawText := [interfaceContext name, protocol]

/-- The IPv4 settings of the interfaces up to the first one with a fault. -/
def checkV4 (c : Config) : List RawText → Except Failure (Option Fault)
  | [] => .ok none
  | name :: names =>
    match c.interfaces.find? name with
    | none => .error (.defect (.missingInterface name))
    | some none => .error (.defect (.missingProtocol name Protocol.v4.name))
    | some (some i) =>
      match i.v4 with
      | none => .error (.defect (.missingProtocol name Protocol.v4.name))
      | some v4 =>
        if v4.enabled then
          match checkV4Settings v4 with
          | .ok () => c.checkV4 names
          | .error (.fault f) => .ok (some (f.annotate (protocolContext name Protocol.v4.name)))
          | .error e => .error e
        else c.checkV4 names

/-- Nothing is asked of IPv6 settings other than that they are there. -/
def checkV6 (_ : Config) (_ : List RawText) : Option Fault := none

/-- A configuration that is not enabled is valid whatever it holds. -/
def validate : Option Config → Except Failure Unit
  | none => .error (.ofCause (.nilConfig Cause.nilMessage))
  | some c =>
    if !c.enabled then .ok ()
    else if c.icmpTimeout.isNegative then .error (.ofCause (.negativeTimeout c.icmpTimeout))
    else do
      Requirement.domainName c.domainName
      if c.interfaces.isEmpty then .error (.ofCause (.noInterfaces Cause.noInterfacesMessage))
      else
        let names := c.interfaces.sortedNames
        c.checkStructure names
        let v4 ← c.checkV4 names
        match Fault.join [v4.map (Fault.annotate ["validating v4"]),
            (c.checkV6 names).map (Fault.annotate ["validating v6"])] with
        | none => .ok ()
        | some f => .error (.fault f)

end Config

end LeasePlan
