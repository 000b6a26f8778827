import LeasePlan.Address.Text
import LeasePlan.Config.Basic
import LeasePlan.Document.Data
import LeasePlan.Duration.Iso
import LeasePlan.Text.Base64

namespace LeasePlan

def Data.ofAddress? : Option Address → Data
  | none => .null
  | some a => .ofRaw a.text

def Data.ofDuration (d : Duration) : Data := .text d.isoText

def DhcpOption.document (o : DhcpOption) : Data :=
  .object [("code", .int o.code.val), ("value", .text (String.ofList (Base64.encode o.value)))]

def Data.ofOptions (os : List DhcpOption) : Data := .list (os.map DhcpOption.document)

def V4Config.document (c : V4Config) : Data :=
  .object [("gateway_ip", .ofAddress? c.gateway), ("subnet_mask", .ofAddress? c.mask),
    ("range_start", .ofAddress? c.rangeStart), ("range_end", .ofAddress? c.rangeEnd),
    ("options", .ofOptions c.options), ("lease_duration", .ofDuration c.lease),
    ("enabled", .bool c.enabled)]

def V6Config.document (c : V6Config) : Data :=
  .object [("range_start", .ofAddress? c.rangeStart), ("options", .ofOptions c.options),
    ("lease_duration", .ofDuration c.lease), ("ra_slaac_only", .bool c.slaacOnly),
    ("ra_allow_slaac", .bool c.allowSlaac), ("enabled", .bool c.enabled)]

def InterfaceConfig.document (c : InterfaceConfig) : Data :=
  .object [("ipv4", (c.v4.map V4Config.document).getD .null),
    ("ipv6", (c.v6.map V6Config.document).getD .null)]

namespace Config

/-- Keys are written as bytes, in which no surrogate is left; of names that become one key the first
gives the place and the last the value. -/
def interfacesDocument (m : NameMap (Option InterfaceConfig)) : Data :=
  .mapping (m.entries.foldl (fun es e => Data.insert (.text e.1.lossy)
    ((e.2.map InterfaceConfig.document).getD .null) es) [])

def fields (c : Config) : List (String × Data) :=
  [("interfaces", interfacesDocument c.interfaces),
    ("local_domain_name", .ofRaw c.domainName), ("icmp_timeout", .ofDuration c.icmpTimeout),
    ("enabled", .bool c.enabled)]

def document (c : Config) : Data := .object c.fields

/-- The fields and the names of all interfaces in order. -/
def dump (c : Config) : Data :=
  .object (c.fields ++ [("interface_names", .list (c.interfaces.sortedNames.map .ofRaw))])

end Config

end LeasePlan
