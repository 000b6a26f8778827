import LeasePlan.Config.Reader
import LeasePlan.Fault.Failure

namespace LeasePlan

structure Interface6 where
  name : RawText
  rangeStart : Option Address
  lease : Duration
  slaacOnly : Bool
  allowSlaac : Bool
  options : List DhcpOption
deriving DecidableEq

namespace Interface6

/-- Nothing for a disabled interface. -/
def build (name : RawText) (c : V6Config) : Option Interface6 :=
  if c.enabled then
    some { name, rangeStart := c.rangeStart, lease := c.lease, slaacOnly := c.slaacOnly,
           allowSlaac := c.allowSlaac, options := c.options }
  else none

/-- Builds from documents; a name that is no text is found out last. -/
def ofDocument (name conf : Data) : Except Failure (Option Interface6) := do
  let c ← Failure.ofChecked conf.readV6Config
  match build [] c with
  | none => .ok none
  | some i =>
    let n ← Failure.ofChecked (name.readText.under "name")
    .ok (some { i with name := n })

end Interface6

end LeasePlan
