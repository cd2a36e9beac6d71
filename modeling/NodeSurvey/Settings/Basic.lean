import NodeSurvey.Settings.Decode

/-! The settings of the agent and of its sources, their defaults and their form in documents. -/

namespace NodeSurvey

open Yaml Settings

structure CoreSettings where
  /-- Discover, but never talk to the labeler service. -/
  noPublish : Bool := false
deriving DecidableEq

structure CpuidSettings where
  attributeBlacklist : List String
  /-- If there is one, only these attributes count and the blacklist does not. -/
  attributeWhitelist : List String
deriving DecidableEq

def CpuidSettings.defaults : CpuidSettings where
  attributeBlacklist := ["BMI1", "BMI2", "CLMUL", "CMOV", "CX16", "ERMS", "F16C", "HT", "LZCNT",
    "MMX", "MMXEXT", "NX", "POPCNT", "RDRAND", "RDSEED", "RDTSCP", "SSE", "SSE2", "SSE3", "SSE4_1",
    "SSE4_2"]
  attributeWhitelist := []

structure CpuSettings where
  cpuid : CpuidSettings
deriving DecidableEq

structure KernelSettings where
  /-- The build configuration to read; if empty, that of the running release. -/
  kconfigFile : String
  configOpts : List String
deriving DecidableEq

structure DeviceSettings where
  deviceClassWhitelist : List String
  deviceLabelFields : List String
deriving DecidableEq

structure PciSettings extends DeviceSettings
deriving DecidableEq

structure UsbSettings extends DeviceSettings
deriving DecidableEq

structure FakeSettings where
  labels : Dict String

/-- Attributes that a PCI device must have; an empty list allows everything. -/
structure PciIdRule where
  classes : List String
  vendors : List String
  devices : List String
deriving DecidableEq

structure MatchRule where
  pciId : Option PciIdRule
  /-- Kernel modules that must all be loaded. -/
  loadedKMod : Option (List String)
deriving DecidableEq

structure CustomRule where
  name : String
  matchOn : List MatchRule
deriving DecidableEq

structure CustomSettings where
  rules : List CustomRule
deriving DecidableEq

def CpuSettings.defaults : CpuSettings := ⟨.defaults⟩

def KernelSettings.defaults : KernelSettings :=
  ⟨"", ["NO_HZ", "NO_HZ_IDLE", "NO_HZ_FULL", "PREEMPT"]⟩

def PciSettings.defaults : PciSettings := ⟨⟨["03", "0b40", "12"], ["class", "vendor"]⟩⟩

def UsbSettings.defaults : UsbSettings :=
  ⟨⟨["0e", "ef", "fe", "ff"], ["class", "vendor", "device"]⟩⟩

def FakeSettings.defaults : FakeSettings :=
  ⟨.ofList [("fakefeature1", "true"), ("fakefeature2", "true"), ("fakefeature3", "true")]⟩

def CustomSettings.defaults : CustomSettings := ⟨[]⟩

namespace Settings

def encodeStrings (l : List String) : Value := .sequence (l.map .string)

def encodeFields (l : List (String × Value)) : Value :=
  .mapping (l.map fun e => (.string e.1, e.2))

instance : Documented CoreSettings where
  encode s := encodeFields [("noPublish", .bool s.noPublish)]
  decode := Decode.record "CoreConfig" {}
    [Decode.field "noPublish" Decode.bool fun r b => { r with noPublish := b }]

instance : Documented CpuidSettings where
  encode s := encodeFields [("attributeBlacklist", encodeStrings s.attributeBlacklist),
    ("attributeWhitelist", encodeStrings s.attributeWhitelist)]
  decode := Decode.record "CpuidConfig" .defaults
    [Decode.field "attributeBlacklist" (Decode.list Decode.string) fun r l =>
        { r with attributeBlacklist := l },
      Decode.field "attributeWhitelist" (Decode.list Decode.string) fun r l =>
        { r with attributeWhitelist := l }]

instance : Documented CpuSettings where
  encode s := encodeFields [("cpuid", encode s.cpuid)]
  decode := Decode.record "CpuConfig" .defaults
    [Decode.field "cpuid" decode fun r c => { r with cpuid := c }]

instance : Documented KernelSettings where
  encode s := encodeFields [("kconfigFile", .string s.kconfigFile),
    ("configOpts", encodeStrings s.configOpts)]
  decode := Decode.record "KernelConfig" .defaults
    [Decode.field "kconfigFile" Decode.string fun r f => { r with kconfigFile := f },
      Decode.field "configOpts" (Decode.list Decode.string) fun r l => { r with configOpts := l }]

def encodeDevices (s : DeviceSettings) : Value :=
  encodeFields [("deviceClassWhitelist", encodeStrings s.deviceClassWhitelist),
    ("deviceLabelFields", encodeStrings s.deviceLabelFields)]

instance : Documented PciSettings where
  encode s := encodeDevices s.toDeviceSettings
  decode := Decode.record "PciConfig" .defaults
    [Decode.field "deviceClassWhitelist" (Decode.list Decode.string) fun r l =>
        { r with deviceClassWhitelist := l },
      Decode.field "deviceLabelFields" (Decode.list Decode.string) fun r l =>
        { r with deviceLabelFields := l }]

instance : Documented UsbSettings where
  encode s := encodeDevices s.toDeviceSettings
  decode := Decode.record "UsbConfig" .defaults
    [Decode.field "deviceClassWhitelist" (Decode.list Decode.string) fun r l =>
        { r with deviceClassWhitelist := l },
      Decode.field "deviceLabelFields" (Decode.list Decode.string) fun r l =>
        { r with deviceLabelFields := l }]

instance : Documented FakeSettings where
  encode s :=
    encodeFields [("labels", encodeFields (s.labels.toList.map fun e => (e.1, .string e.2)))]
  decode := Decode.record "FakeConfig" .defaults
    [Decode.field "labels" (Decode.dict Decode.string) fun r d => { r with labels := d }]

def encodeOption {α : Type} (f : α → Value) : Option α → Value
  | some a => f a
  | none => .null

instance : Documented PciIdRule where
  encode r := encodeFields [("class", encodeStrings r.classes), ("vendor", encodeStrings r.vendors),
    ("device", encodeStrings r.devices)]
  decode := Decode.record "PciIdRule" ⟨[], [], []⟩
    [Decode.field "class" (Decode.list Decode.string) fun r l => { r with classes := l },
      Decode.field "vendor" (Decode.list Decode.string) fun r l => { r with vendors := l },
      Decode.field "device" (Decode.list Decode.string) fun r l => { r with devices := l }]

instance : Documented MatchRule where
  encode r := encodeFields [("pciId", encodeOption encode r.pciId),
    ("loadedKMod", encodeOption encodeStrings r.loadedKMod)]
  decode := Decode.record "MatchRule" ⟨none, none⟩
    [Decode.field "pciId" (Decode.option decode) fun r o => { r with pciId := o },
      Decode.field "loadedKMod" (Decode.option (Decode.list Decode.string)) fun r o =>
        { r with loadedKMod := o }]

instance : Documented CustomRule where
  encode r := encodeFields [("name", .string r.name), ("matchOn", .sequence (r.matchOn.map encode))]
  decode := Decode.record "CustomRule" ⟨"", []⟩
    [Decode.field "name" Decode.string fun r s => { r with name := s },
      Decode.field "matchOn" (Decode.list decode) fun r l => { r with matchOn := l }]

instance : Documented CustomSettings where
  encode s := .sequence (s.rules.map encode)
  decode v := (Decode.list decode v).map .mk

end Settings

inductive SourceSettings where
  | none
  | cpu (s : CpuSettings)
  | kernel (s : KernelSettings)
  | pci (s : PciSettings)
  | usb (s : UsbSettings)
  | fake (s : FakeSettings)
  | custom (s : CustomSettings)

/-- Lays a patch over the settings of a source. Sources without settings take any record. -/
def SourceSettings.overlay (s : SourceSettings) (patch : Value) :
    Except DecodeError SourceSettings :=
  match s with
  | .none =>
    (Decode.record "NoConfig" () [] (Value.merge (.mapping []) patch)).map fun _ => .none
  | .cpu s => (Settings.overlay s patch).map .cpu
  | .kernel s => (Settings.overlay s patch).map .kernel
  | .pci s => (Settings.overlay s patch).map .pci
  | .usb s => (Settings.overlay s patch).map .usb
  | .fake s => (Settings.overlay s patch).map .fake
  | .custom s => (Settings.overlay s patch).map .custom

end NodeSurvey
