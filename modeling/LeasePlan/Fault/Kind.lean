import LeasePlan.Fault.Basic

namespace LeasePlan

inductive FaultKind
  | general
  | nilConfig
  | nilInterface
  | nilProtocol
  | negativeTimeout
  | domainName
  | noInterfaces
  | addressFamily
  | subnetMask
  | boundary
  | gatewayInRange
  | invalidRange
  | notAscending
  | familyMismatch
  | rangeTooLarge
  | joined
  | load
deriving DecidableEq

namespace FaultKind

/-- The kinds of which a kind is a special case, the nearest first. -/
def ancestors : FaultKind → List FaultKind
  | general => []
  | nilInterface => [nilConfig, general]
  | nilProtocol => [nilConfig, general]
  | notAscending => [invalidRange, general]
  | familyMismatch => [invalidRange, general]
  | rangeTooLarge => [invalidRange, general]
  | _ => [general]

def isA (k j : FaultKind) : Bool := k = j || j ∈ k.ancestors

end FaultKind

def Cause.kind : Cause → FaultKind
  | general _ => .general
  | nilConfig _ => .nilConfig
  | nilInterface _ => .nilInterface
  | nilProtocol _ _ => .nilProtocol
  | negativeTimeout _ => .negativeTimeout
  | domainName _ _ => .domainName
  | noInterfaces _ => .noInterfaces
  | addressFamily _ _ => .addressFamily
  | subnetMask _ => .subnetMask
  | boundary _ _ _ => .boundary
  | gatewayInRange _ _ => .gatewayInRange
  | invalidRange _ => .invalidRange
  | notAscending _ => .notAscending
  | familyMismatch _ => .familyMismatch
  | rangeTooLarge _ _ => .rangeTooLarge
  | load _ _ => .load

def Fault.kind : Fault → FaultKind
  | single _ c => c.kind
  | joined _ _ => .joined

end LeasePlan
