import LeasePlan.DomainName
import LeasePlan.Fault.Failure

namespace LeasePlan.Requirement

def address4 (field : RawText) : Option Address → Except Failure Number4
  | some (.v4 n) => .ok n
  | _ => .error (.ofCause (.addressFamily field "ipv4"))

def prefixLength : Option Address → Except Failure Nat
  | some (.v4 m) =>
    match Subnet.maskLength? m with
    | some p => .ok p
    | none => .error (.ofCause (.subnetMask (.address (.v4 m))))
  | _ => .error (.ofCause (.addressFamily "subnet mask" "ipv4 cidr"))

def range (first last : Address) : Except Failure AddressRange :=
  match AddressRange.ofEnds first last with
  | .ok r => .ok r
  | .error f => .error (.fault (.ofRangeFlaw f))

def domainName (name : RawText) : Except Failure Unit :=
  match DomainName.flaw? name with
  | none => .ok ()
  | some (.label _ .unexplained) => .error (.defect .unexplainedLabel)
  | some f => .error (.ofCause (.domainName name f.reason))

/-- A name that follows the rules, as it is. -/
def checkedName (name : RawText) : Except Failure RawText := do
  domainName name
  .ok name

end LeasePlan.Requirement
