import LeasePlan.Config.Reader
import LeasePlan.Interface.Requirement

namespace LeasePlan

structure Interface4 where
  name : RawText
  gateway : Number4
  subnet : Subnet
  space : AddressRange
  lease : Duration
  options : List DhcpOption
deriving DecidableEq

namespace Interface4

def addressCount (i : Interface4) : Nat := i.space.length

def contains (i : Interface4) (a : Address) : Bool := i.space.contains a

def offset? (i : Interface4) (a : Address) : Option Nat := i.space.offset? a

/-- A boundary of the range has to lie in the subnet. -/
def checkBoundary (subnet : Subnet) (boundary : RawText) (n : Number4) :
    Except Failure Unit :=
  if subnet.contains (.v4 n) then .ok ()
  else .error (.ofCause (.boundary boundary (.address (.v4 n)) (.subnet subnet)))

/-- Checks the settings of an enabled interface one after the other. -/
def buildEnabled (name : RawText) (c : V4Config) : Except Failure Interface4 := do
  let gateway ← Requirement.address4 "gateway ip" c.gateway
  let length ← Requirement.prefixLength c.mask
  let first ← Requirement.address4 "range start" c.rangeStart
  let last ← Requirement.address4 "range end" c.rangeEnd
  match Subnet.ofLength? gateway length with
  | none => .error (.defect (.prefixTooLong length))
  | some subnet => do
    checkBoundary subnet "start" first
    checkBoundary subnet "end" last
    let space ← Requirement.range (.v4 first) (.v4 last)
    if space.contains (.v4 gateway) then
      .error (.ofCause (.gatewayInRange (.address (.v4 gateway)) (.range space)))
    else .ok { name, gateway, subnet, space, lease := c.lease, options := c.options }

/-- Nothing for a disabled interface. -/
def build (name : RawText) (c : V4Config) : Except Failure (Option Interface4) :=
  if c.enabled then (buildEnabled name c).map some else .ok none

/-- Builds from documents; a name that is no text is found out last. -/
def ofDocument (name conf : Data) : Except Failure (Option Interface4) := do
  let c ← Failure.ofChecked conf.readV4Config
  match ← build [] c with
  | none => .ok none
  | some i =>
    let n ← Failure.ofChecked (name.readText.under "name")
    .ok (some { i with name := n })

end Interface4

end LeasePlan
