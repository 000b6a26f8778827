import LeasePlan.Document.Literal

namespace LeasePlan

inductive Protocol
  | v4
  | v6
deriving DecidableEq

namespace Protocol

def name : Protocol → String
  | v4 => "ipv4"
  | v6 => "ipv6"

def description : Protocol → String
  | v4 => "DHCPv4 - IPv4地址分配"
  | v6 => "DHCPv6 - IPv6地址分配与SLAAC"

def ofName? (s : String) : Option Protocol :=
  if s = v4.name then some v4 else if s = v6.name then some v6 else none

def unknownMessage (value : Data) : String := value.literal ++ " is not a valid ProtocolFamily"

end Protocol

end LeasePlan
