import LeasePlan.Address.Basic
import LeasePlan.Duration.Basic
import LeasePlan.NameMap

namespace LeasePlan

/-- The code of an option with its bytes, which nobody looks into. -/
structure DhcpOption where
  code : Fin 65536
  value : List UInt8
deriving DecidableEq

/-- The wishes for IPv4 on one interface; an address of any family can be written down. -/
structure V4Config where
  gateway : Option Address := none
  mask : Option Address := none
  rangeStart : Option Address := none
  rangeEnd : Option Address := none
  options : List DhcpOption := []
  lease : Duration := Duration.hour
  enabled : Bool := false
deriving DecidableEq

structure V6Config where
  rangeStart : Option Address := none
  options : List DhcpOption := []
  lease : Duration := Duration.hour
  slaacOnly : Bool := false
  allowSlaac : Bool := false
  enabled : Bool := false
deriving DecidableEq

structure InterfaceConfig where
  v4 : Option V4Config := none
  v6 : Option V6Config := none
deriving DecidableEq

structure Config where
  interfaces : NameMap (Option InterfaceConfig) := NameMap.empty
  domainName : RawText := []
  icmpTimeout : Duration := Duration.second
  enabled : Bool := false
deriving DecidableEq

end LeasePlan
