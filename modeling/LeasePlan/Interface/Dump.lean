import LeasePlan.Config.Dump
import LeasePlan.Interface.V4
import LeasePlan.Interface.V6

namespace LeasePlan

def AddressRange.document (r : AddressRange) : Data :=
  .object [("start", .ofRaw r.first.text), ("end", .ofRaw r.last.text)]

def Interface4.document (i : Interface4) : Data :=
  .object [("name", .ofRaw i.name), ("gateway", .ofRaw (Address.v4 i.gateway).text),
    ("subnet", .text i.subnet.text), ("address_space", i.space.document),
    ("lease_ttl", .ofDuration i.lease), ("options", .ofOptions i.options),
    ("network", .text i.subnet.networkText), ("prefix_length", .int i.subnet.length),
    ("address_count", .int i.addressCount)]

def Interface6.document (i : Interface6) : Data :=
  .object [("name", .ofRaw i.name), ("range_start", .ofAddress? i.rangeStart),
    ("lease_ttl", .ofDuration i.lease), ("ra_slaac_only", .bool i.slaacOnly),
    ("ra_allow_slaac", .bool i.allowSlaac), ("options", .ofOptions i.options)]

end LeasePlan
