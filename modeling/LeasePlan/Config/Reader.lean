import LeasePlan.Config.Basic
import LeasePlan.Document.Scalar

namespace LeasePlan

namespace Data

/-- The value of a field, or the default if there is no such field. -/
def fieldOr {α : Type} (name : String) (default : α) (read : Data → Checked α)
    (es : List (Data × Data)) : Checked α :=
  match field? name es with
  | none => .ok default
  | some v => (read v).under name

def requiredField {α : Type} (name : String) (read : Data → Checked α)
    (es : List (Data × Data)) : Checked α :=
  match field? name es with
  | none => Checked.under name (Checked.fail .missing)
  | some v => (read v).under name

/-- The issue that a key is if it names no field. -/
def keyIssue? (known : List String) : Data → Option Issue
  | text s => if s ∈ known then none else some ⟨[s], .extra⟩
  | k => some ⟨[k.step], .keyNotText⟩

def onlyFields (known : List String) (es : List (Data × Data)) : Checked Unit :=
  match es.filterMap fun e => keyIssue? known e.1 with
  | [] => .ok ()
  | i :: is => .error (i :: is)

def hasBrokenKey (es : List (Data × Data)) : Bool := es.any fun e => e.1.isBroken

/-- Reads the known fields of a mapping and then refuses all others. A key with a surrogate is told
instead of everything else about the mapping. -/
def readObject {α : Type} (model : String) (known : List String)
    (fields : List (Data × Data) → Checked α) : Data → Checked α
  | mapping es =>
    if hasBrokenKey es then (fields es).failInstead .notUnicode
    else (Checked.both (fields es) (onlyFields known es)).map Prod.fst
  | _ => Checked.fail (.notObject model)

def readNullable {α : Type} (read : Data → Checked α) : Data → Checked (Option α)
  | null => .ok none
  | d => (read d).map some

def readItems {α : Type} (read : Data → Checked α) (ds : List Data) : Checked (List α) :=
  Checked.all (ds.zipIdx.map fun d => (read d.1).under (toString d.2))

def readList {α : Type} (read : Data → Checked α) : Data → Checked (List α)
  | list ds => readItems read ds
  | members ds => readItems read ds
  | _ => Checked.fail .notList

/-- Reads a mapping from names; the issues of a key come before those of its value. -/
def readNames {α : Type} (read : Data → Checked α) : Data → Checked (NameMap α)
  | mapping es =>
    (Checked.all (es.map fun e =>
      ((e.1.readText.under "[key]").both (read e.2)).under e.1.step)).map NameMap.ofList
  | _ => Checked.fail .notMapping

def optionFields (es : List (Data × Data)) : Checked DhcpOption :=
  ((requiredField "code" (readBelow 65536) es).both (fieldOr "value" [] readBytes es)).map
    fun (code, value) => { code, value }

def readOption : Data → Checked DhcpOption := readObject "DHCPOption" ["code", "value"] optionFields

def v4Fields (es : List (Data × Data)) : Checked V4Config :=
  ((fieldOr "gateway_ip" none readAddress es).both <|
    (fieldOr "subnet_mask" none readAddress es).both <|
    (fieldOr "range_start" none readAddress es).both <|
    (fieldOr "range_end" none readAddress es).both <|
    (fieldOr "options" [] (readList readOption) es).both <|
    (fieldOr "lease_duration" Duration.hour readDuration es).both <|
    fieldOr "enabled" false readBool es).map
    fun (gateway, mask, rangeStart, rangeEnd, options, lease, enabled) =>
      { gateway, mask, rangeStart, rangeEnd, options, lease, enabled }

def readV4Config : Data → Checked V4Config :=
  readObject "IPv4Config"
    ["gateway_ip", "subnet_mask", "range_start", "range_end", "options", "lease_duration",
      "enabled"] v4Fields

def v6Fields (es : List (Data × Data)) : Checked V6Config :=
  ((fieldOr "range_start" none readAddress es).both <|
    (fieldOr "options" [] (readList readOption) es).both <|
    (fieldOr "lease_duration" Duration.hour readDuration es).both <|
    (fieldOr "ra_slaac_only" false readBool es).both <|
    (fieldOr "ra_allow_slaac" false readBool es).both <|
    fieldOr "enabled" false readBool es).map
    fun (rangeStart, options, lease, slaacOnly, allowSlaac, enabled) =>
      { rangeStart, options, lease, slaacOnly, allowSlaac, enabled }

def readV6Config : Data → Checked V6Config :=
  readObject "IPv6Config"
    ["range_start", "options", "lease_duration", "ra_slaac_only", "ra_allow_slaac", "enabled"]
    v6Fields

def interfaceFields (es : List (Data × Data)) : Checked InterfaceConfig :=
  ((fieldOr "ipv4" none (readNullable readV4Config) es).both <|
    fieldOr "ipv6" none (readNullable readV6Config) es).map fun (v4, v6) => { v4, v6 }

def readInterface : Data → Checked InterfaceConfig :=
  readObject "InterfaceConfig" ["ipv4", "ipv6"] interfaceFields

def configFields (es : List (Data × Data)) : Checked Config :=
  ((fieldOr "interfaces" NameMap.empty (readNames (readNullable readInterface)) es).both <|
    (fieldOr "local_domain_name" [] readText es).both <|
    (fieldOr "icmp_timeout" Duration.second readDuration es).both <|
    fieldOr "enabled" false readBool es).map
    fun (interfaces, domainName, icmpTimeout, enabled) =>
      { interfaces, domainName, icmpTimeout, enabled }

def readConfig : Data → Checked Config :=
  readObject "Config" ["interfaces", "local_domain_name", "icmp_timeout", "enabled"] configFields

end Data

end LeasePlan
