import Mathlib
import LeasePlan.Proofs.Acceptance
import LeasePlan.Proofs.ConfigDump

namespace LeasePlan

/-- An address where there may be none. -/
def Address.required : Option Address → Except Failure Address
  | some a => .ok a
  | none => .error (.notAddress .null)

/-- A subnet whose host is read from its text. -/
def Subnet.guarded (host : Number4) (length : Nat) : Except Failure Subnet :=
  match Address.parse? (Address.v4 host).text with
  | some (.v4 n) =>
    match ofLength? n length with
    | some s => .ok s
    | none => .error (.defect (.prefixTooLong length))
  | _ => .error (.notAddress (.ofRaw (Address.v4 host).text))

namespace Handed

/-- An address that is handed over for a field of the first family. -/
def address4 : Option Address → Checked Number4
  | some (.v4 n) => .ok n
  | _ => Checked.fail .notAddress

def subnet (host : Option Address) (length : Nat) : Checked Subnet :=
  match address4 host with
  | .error is => .error is
  | .ok n =>
    match Subnet.ofLength? n length with
    | some s => .ok s
    | none => Checked.fail (.aboveMaximum 32)

def range : Option Address → Option Address → Checked AddressRange
  | some a, some b =>
    match AddressRange.ofEnds a b with
    | .ok r => .ok r
    | .error f => Checked.fail (.refused (Fault.ofRangeFlaw f).text.lossy)
  | _, _ => Checked.fail .notAddress

def options (os : List (Int × List UInt8)) : Checked (List DhcpOption) :=
  Checked.all (os.map fun o =>
    ((Data.int o.1).readBelow 65536).map fun code => { code, value := o.2 })

/-- The code of an option as a number of any size, and its bytes. -/
def ofOption (o : DhcpOption) : Int × List UInt8 := (o.code.val, o.value)

end Handed

/-- What is handed over for the descriptor of an IPv4 interface: addresses that may be missing or of
any family, a length and codes of any size, ends in any order. -/
structure Interface4.Draft where
  name : Data
  gateway : Option Address
  host : Option Address
  length : Nat
  first : Option Address
  last : Option Address
  lease : Duration
  options : List (Int × List UInt8)

def Interface4.Draft.checked (d : Draft) : Checked Interface4 :=
  ((d.name.readText.under "name").both <|
    ((Handed.address4 d.gateway).under "gateway").both <|
    ((Handed.subnet d.host d.length).under "subnet").both <|
    ((Handed.range d.first d.last).under "address_space").both <|
    (Handed.options d.options).under "options").map
    fun (name, gateway, subnet, space, options) =>
      { name, gateway, subnet, space, lease := d.lease, options }

namespace Interface4

/-- The settings as they are written down, for the descriptor. -/
def draft (name : RawText) (c : V4Config) (length : Nat) : Draft where
  name := .ofRaw name
  gateway := c.gateway
  host := c.gateway
  length := length
  first := c.rangeStart
  last := c.rangeEnd
  lease := c.lease
  options := c.options.map Handed.ofOption

def buildEnabledGuarded (name : RawText) (c : V4Config) : Except Failure Interface4 := do
  let gateway ← Requirement.address4 "gateway ip" c.gateway
  let length ← Requirement.prefixLength c.mask
  let first ← Requirement.address4 "range start" c.rangeStart
  let last ← Requirement.address4 "range end" c.rangeEnd
  let subnet ← Subnet.guarded gateway length
  checkBoundary subnet "start" first
  checkBoundary subnet "end" last
  let space ← Requirement.range (.v4 first) (.v4 last)
  if space.contains (.v4 gateway) then
    .error (.ofCause (.gatewayInRange (.address (.v4 gateway)) (.range space)))
  else Failure.ofChecked (draft name c length).checked

def buildGuarded (name : RawText) (c : V4Config) : Except Failure (Option Interface4) :=
  if c.enabled then (buildEnabledGuarded name c).map some else .ok none

end Interface4

namespace Interface6

/-- The start of the range may be of any family, so it is read from its text. -/
def guarded (i : Interface6) : Except Failure Interface6 :=
  Failure.ofChecked <|
    (((Data.ofRaw i.name).readText.under "name").both <|
      ((Data.ofAddress? i.rangeStart).readAddress.under "range_start").both <|
      ((Data.bool i.slaacOnly).readBool.under "ra_slaac_only").both <|
      ((Data.bool i.allowSlaac).readBool.under "ra_allow_slaac").both <|
      (Handed.options (i.options.map Handed.ofOption)).under "options").map
        fun (name, rangeStart, slaacOnly, allowSlaac, options) =>
          { name, rangeStart, lease := i.lease, slaacOnly, allowSlaac, options }

def buildGuarded (name : RawText) (c : V6Config) : Except Failure (Option Interface6) :=
  if c.enabled then (guarded (carried name c)).map some else .ok none

end Interface6

namespace Config

/-- The ends of the range are taken as they are written down. -/
def checkV4SettingsGuarded (c : V4Config) : Except Failure Unit := do
  let _ ← Requirement.address4 "gateway ip" c.gateway
  let _ ← Requirement.prefixLength c.mask
  let _ ← Requirement.address4 "range start" c.rangeStart
  let _ ← Requirement.address4 "range end" c.rangeEnd
  let first ← Address.required c.rangeStart
  let last ← Address.required c.rangeEnd
  let _ ← Requirement.range first last
  .ok ()

def checkV4Guarded (c : Config) : List RawText → Except Failure (Option Fault)
  | [] => .ok none
  | name :: names =>
    match c.interfaces.find? name with
    | none => .error (.defect (.missingInterface name))
    | some none => .error (.defect (.missingProtocol name Protocol.v4.name))
    | some (some i) =>
      match i.v4 with
      | none => .error (.defect (.missingProtocol name Protocol.v4.name))
      | some v4 =>
        if v4.enabled then
          match checkV4SettingsGuarded v4 with
          | .ok () => c.checkV4Guarded names
          | .error (.fault f) => .ok (some (f.annotate (protocolContext name Protocol.v4.name)))
          | .error e => .error e
        else c.checkV4Guarded names

def checkInterfacesGuarded (c : Config) : Except Failure Unit := do
  c.checkStructure c.interfaces.sortedNames
  let v4 ← c.checkV4Guarded c.interfaces.sortedNames
  match Fault.join [v4.map (Fault.annotate ["validating v4"]),
      (c.checkV6 c.interfaces.sortedNames).map (Fault.annotate ["validating v6"])] with
  | none => .ok ()
  | some f => .error (.fault f)

def validateGuarded : Option Config → Except Failure Unit
  | none => .error (.ofCause (.nilConfig Cause.nilMessage))
  | some c =>
    if !c.enabled then .ok ()
    else if c.icmpTimeout.isNegative then .error (.ofCause (.negativeTimeout c.icmpTimeout))
    else do
      Requirement.domainName c.domainName
      if c.interfaces.isEmpty then .error (.ofCause (.noInterfaces Cause.noInterfacesMessage))
      else c.checkInterfacesGuarded

end Config

namespace Service

def buildInterfaceGuarded (c : Config) (name : RawText) :
    Except Failure (Option Interface4 × Option Interface6) :=
  match c.interfaces.find? name with
  | none => .error (.defect (.missingInterface name))
  | some none => .error (.defect (.missingInterface name))
  | some (some i) =>
    match i.v4, i.v6 with
    | none, _ => .error (.defect (.missingProtocol name Protocol.v4.name))
    | some v4, v6 =>
      match Interface4.buildGuarded name v4 with
      | .error e => .error (e.annotate (Config.protocolContext name Protocol.v4.name))
      | .ok i4 =>
        match v6 with
        | none => .error (.defect (.missingProtocol name Protocol.v6.name))
        | some v6 => (Interface6.buildGuarded name v6).map fun i6 => (i4, i6)

def buildAllGuarded (c : Config) :
    List RawText → Except Failure (List Interface4 × List Interface6)
  | [] => .ok ([], [])
  | name :: names => do
    let (i4, i6) ← buildInterfaceGuarded c name
    let (is4, is6) ← buildAllGuarded c names
    .ok (i4.toList ++ is4, i6.toList ++ is6)

/-- A descriptor of either protocol. -/
inductive Descriptor
  | v4 (interface : Interface4)
  | v6 (interface : Interface6)

namespace Descriptor

def interface4 : Descriptor → Checked Interface4
  | v4 i => .ok i
  | v6 _ => Checked.fail (.notObject "IPv4InterfaceInfo")

def interface6 : Descriptor → Checked Interface6
  | v6 i => .ok i
  | v4 _ => Checked.fail (.notObject "IPv6InterfaceInfo")

end Descriptor

/-- Makes a service of a switch and of descriptors, each of which may be of the other protocol. -/
def guarded (enabled : Data) (descriptors4 descriptors6 : List Descriptor) :
    Except Failure Service :=
  Failure.ofChecked <|
    ((enabled.readBool.under "enabled").both <|
      ((Checked.all (descriptors4.map Descriptor.interface4)).under "interfaces4").both <|
      (Checked.all (descriptors6.map Descriptor.interface6)).under "interfaces6").map
        fun (enabled, interfaces4, interfaces6) => { enabled, interfaces4, interfaces6 }

def assembleGuarded (conf : Option Config) : Except Failure (Option Service) := do
  Config.validateGuarded conf
  match conf with
  | none => .error (.defect .missingConfig)
  | some c =>
    if !c.enabled then .ok none
    else
      let (interfaces4, interfaces6) ← buildAllGuarded c c.interfaces.sortedNames
      (guarded (.bool c.enabled) (interfaces4.map .v4) (interfaces6.map .v6)).map some

end Service

theorem bind_congr_of_ok {α β ε : Type} {x : Except ε α} {f g : α → Except ε β}
    (h : ∀ a, x = .ok a → f a = g a) : (x >>= f) = (x >>= g) := by
  cases x with
  | error e => rfl
  | ok a => exact h a rfl

theorem Subnet.guarded_eq (host : Number4) (length : Nat) : guarded host length =
    match ofLength? host length with
    | some s => .ok s
    | none => .error (.defect (.prefixTooLong length)) := by
  rw [guarded, Address.parse?_text]

namespace Checked

variable {α β : Type}

theorem all_map_ok {f : α → Checked β} {g : α → β} (h : ∀ a, f a = .ok (g a)) (as : List α) :
    all (as.map f) = .ok (as.map g) := by
  rw [all_eq_ok, List.forall₂_map_left_iff, List.forall₂_map_right_iff, List.forall₂_same]
  exact fun a _ => h a

end Checked

theorem Handed.options_ofOption (os : List DhcpOption) :
    options (os.map ofOption) = .ok os := by
  rw [options, List.map_map]
  refine (Checked.all_map_ok (g := id) (fun o => ?_) os).trans (congrArg _ (List.map_id os))
  rw [Function.comp_apply, ofOption, Data.readBelow_val]
  rfl

theorem Interface4.checked_draft {name : RawText} {c : V4Config} {gateway first last : Number4}
    {length : Nat} {subnet : Subnet} {space : AddressRange}
    (hg : c.gateway = some (.v4 gateway)) (hs : c.rangeStart = some (.v4 first))
    (he : c.rangeEnd = some (.v4 last)) (hsubnet : Subnet.ofLength? gateway length = some subnet)
    (hspace : AddressRange.ofEnds (.v4 first) (.v4 last) = .ok space) :
    (draft name c length).checked =
      .ok { name, gateway, subnet, space, lease := c.lease, options := c.options } := by
  have hhost : Handed.subnet (some (.v4 gateway)) length = .ok subnet := by
    simp only [Handed.subnet, Handed.address4, hsubnet]
  have hrange : Handed.range (some (.v4 first)) (some (.v4 last)) = .ok space := by
    simp only [Handed.range, hspace]
  rw [Draft.checked, draft, hg, hs, he, hhost, hrange, Handed.options_ofOption,
    Data.readText_ofRaw]
  rfl

theorem Interface6.guarded_eq (i : Interface6) : i.guarded = .ok i := by
  rw [guarded, Data.readText_ofRaw, Data.readAddress_ofAddress?, Handed.options_ofOption]
  rfl

theorem Service.guarded_eq (enabled : Bool) (is4 : List Interface4) (is6 : List Interface6) :
    guarded (.bool enabled) (is4.map .v4) (is6.map .v6) = .ok ⟨enabled, is4, is6⟩ := by
  have h4 := Checked.all_map_ok (f := Descriptor.interface4 ∘ .v4) (g := id) (fun _ => rfl) is4
  have h6 := Checked.all_map_ok (f := Descriptor.interface6 ∘ .v6) (g := id) (fun _ => rfl) is6
  rw [guarded, List.map_map, List.map_map, h4, h6, List.map_id, List.map_id]
  rfl

theorem Requirement.range_eq_ok_iff {a b : Address} {r : AddressRange} :
    range a b = .ok r ↔ AddressRange.ofEnds a b = .ok r := by
  cases h : AddressRange.ofEnds a b with
  | ok r' => simp only [range, h, Except.ok.injEq]
  | error f => simp only [range, h, reduceCtorEq]

/-- What is handed over for the descriptor is what the checks before have looked at. -/
theorem Interface4.buildEnabledGuarded_eq (name : RawText) (c : V4Config) :
    buildEnabledGuarded name c = buildEnabled name c := by
  refine bind_congr_of_ok fun gateway hg => bind_congr fun length =>
    bind_congr_of_ok fun first hs => bind_congr_of_ok fun last he => ?_
  rw [Subnet.guarded_eq]
  cases hsubnet : Subnet.ofLength? gateway length with
  | none => rfl
  | some subnet =>
    change (checkBoundary subnet "start" first >>= fun _ => _) =
      (checkBoundary subnet "start" first >>= fun _ => _)
    refine bind_congr fun _ => bind_congr fun _ => bind_congr_of_ok fun space hspace => ?_
    rw [checked_draft (Requirement.address4_eq_ok_iff.1 hg) (Requirement.address4_eq_ok_iff.1 hs)
      (Requirement.address4_eq_ok_iff.1 he) hsubnet (Requirement.range_eq_ok_iff.1 hspace)]
    rfl

theorem Interface4.buildGuarded_eq (name : RawText) (c : V4Config) :
    buildGuarded name c = build name c := by
  rw [buildGuarded, buildEnabledGuarded_eq, build]

theorem Interface6.buildGuarded_eq (name : RawText) (c : V6Config) :
    buildGuarded name c = .ok (build name c) := by
  rw [buildGuarded, guarded_eq, build]
  split
  · rfl
  · rfl

namespace Config

/-- Both ends of the range have been looked at before the range is made from them. -/
theorem checkV4SettingsGuarded_eq (c : V4Config) :
    checkV4SettingsGuarded c = checkV4Settings c := by
  refine bind_congr fun gateway => bind_congr fun length => bind_congr_of_ok fun first hfirst =>
    bind_congr_of_ok fun last hlast => ?_
  rw [Requirement.address4_eq_ok_iff.1 hfirst, Requirement.address4_eq_ok_iff.1 hlast]
  rfl

theorem checkV4Guarded_eq (c : Config) (names : List RawText) :
    c.checkV4Guarded names = c.checkV4 names := by
  induction names with
  | nil => rfl
  | cons name names ih =>
    rw [checkV4Guarded, funext checkV4SettingsGuarded_eq, ih]
    rfl

theorem validateGuarded_eq (conf : Option Config) : validateGuarded conf = validate conf := by
  cases conf with
  | none => rfl
  | some c =>
    rw [validateGuarded, validate_some, checkInterfacesGuarded, checkV4Guarded_eq]
    rfl

end Config

namespace Service

theorem buildInterfaceGuarded_eq (c : Config) (name : RawText) :
    buildInterfaceGuarded c name = buildInterface c name := by
  rw [buildInterfaceGuarded, funext₂ Interface4.buildGuarded_eq, funext₂ Interface6.buildGuarded_eq]
  rfl

theorem buildAllGuarded_eq (c : Config) (names : List RawText) :
    buildAllGuarded c names = buildAll c names := by
  induction names with
  | nil => rfl
  | cons name names ih => rw [buildAllGuarded, buildAll, buildInterfaceGuarded_eq, ih]

theorem assembleGuarded_some (c : Config) : assembleGuarded (some c) = (do
    Config.validateGuarded (some c)
    if !c.enabled then .ok none
    else
      let (interfaces4, interfaces6) ← buildAllGuarded c c.interfaces.sortedNames
      (guarded (.bool c.enabled) (interfaces4.map .v4) (interfaces6.map .v6)).map some) := rfl

theorem assembleGuarded_eq (conf : Option Config) : assembleGuarded conf = assemble conf := by
  cases conf with
  | none => rfl
  | some c =>
    rw [assembleGuarded_some, Config.validateGuarded_eq, buildAllGuarded_eq]
    simp only [guarded_eq]
    rfl

theorem assemble_onlyFaults_of_any (conf : Option Config) : OnlyFaults (assemble conf) := by
  cases conf with
  | none => exact .fault _
  | some c =>
    cases he : c.enabled with
    | true => exact assemble_onlyFaults he
    | false =>
      rw [assemble_of_disabled he]
      exact .ok none

/-- Validation and assembly fail with faults alone: no guarded step fails on its own, so the
guards change nothing. -/
theorem guarded_steps_never_fail (conf : Option Config) :
    (OnlyFaults (Config.validateGuarded conf) ∧
        Config.validateGuarded conf = Config.validate conf) ∧
      OnlyFaults (assembleGuarded conf) ∧ assembleGuarded conf = assemble conf := by
  have hv := Config.validateGuarded_eq conf
  have ha := assembleGuarded_eq conf
  refine ⟨⟨?_, hv⟩, ?_, ha⟩
  · rw [hv]
    exact Config.validate_onlyFaults conf
  · rw [ha]
    exact assemble_onlyFaults_of_any conf

end Service

end LeasePlan
