import NodeSurvey.Source.Basic

/-! Devices on the PCI bus. Every device of a listed class gives a feature that is named by some of
its attributes. -/

namespace NodeSurvey

inductive PciAttribute where
  | class'
  | vendor
  | device
  | subsystemVendor
  | subsystemDevice
deriving DecidableEq

namespace PciAttribute

def all : List PciAttribute := [class', vendor, device, subsystemVendor, subsystemDevice]

def name : PciAttribute → String
  | class' => "class"
  | vendor => "vendor"
  | device => "device"
  | subsystemVendor => "subsystem_vendor"
  | subsystemDevice => "subsystem_device"

def ofName? (s : String) : Option PciAttribute := all.find? fun a => a.name = s

end PciAttribute

structure PciDevice where
  attribute? : PciAttribute → Option (List Char)

namespace Source.Pci

def directory : String := "sys/bus/pci/devices"

def dropHexMark : List Char → List Char
  | '0' :: 'x' :: r => r
  | s => s

/-- The first `n` bytes of a text that has more, unless a character would be cut in two. -/
def takeBytes? : Nat → List Char → Option (List Char)
  | _, [] => some []
  | 0, _ => some []
  | n + 1, c :: r =>
    if c.utf8Size ≤ n + 1 then (takeBytes? (n + 1 - c.utf8Size) r).map (c :: ·) else none
termination_by _ s => s.length

/-- The class code without its last byte, which tells the programming interface. -/
def cutClass (s : List Char) : Except Trouble (List Char) :=
  if Label.byteLength s < 4 then .ok s
  else
    match takeBytes? 4 s with
    | some s => .ok s
    | none => .error (.panicked (some "assertion failed"))

def readAttribute (h : Host) (device : String) (a : PciAttribute) :
    Except Trouble (Option (List Char)) :=
  match h.readTrimmed (directory ++ "/" ++ device ++ "/" ++ a.name) with
  | .error _ => .ok none
  | .ok text =>
    let value := dropHexMark text.toList
    match a with
    | .class' => (cutClass value).map some
    | _ => .ok (some value)

def readDevice (h : Host) (device : String) : Except Trouble PciDevice := do
  let values ← PciAttribute.all.mapM fun a => return (a, ← readAttribute h device a)
  return ⟨fun a => (values.lookup a).join⟩

def scan (h : Host) : Except Trouble (List PciDevice) :=
  match h.list directory with
  | .error e => .error (.failed (.within .pciDevices (.io e)))
  | .ok names => do
    let devices ← names.mapM (readDevice h)
    return devices.filter fun d => (d.attribute? .class').isSome

def defaultFields : List PciAttribute := [.class', .vendor]

def fields (s : DeviceSettings) : List PciAttribute :=
  let known := s.deviceLabelFields.filterMap PciAttribute.ofName?
  if known.isEmpty then defaultFields else known

def fieldNotices (bus : Bus) (known : String → Bool) (s : DeviceSettings) : List Notice :=
  ((s.deviceLabelFields.filter (!known ·)).map fun f => .unknownField bus f) ++
    if s.deviceLabelFields.any known then [] else [.noFields bus]

def isListed (s : DeviceSettings) (code : List Char) : Bool :=
  s.deviceClassWhitelist.any fun p => p.toList.isPrefixOf code

def featureName (values : List (List Char)) : String :=
  "_".intercalate (values.map String.ofList) ++ ".present"

/-- The feature of a device: its class must be listed and all its fields known. -/
def feature? (s : DeviceSettings) (d : PciDevice) : Option String := do
  let code ← d.attribute? .class'
  if isListed s code then
    let values ← (fields s).mapM d.attribute?
    some (featureName values)
  else none

def discover (s : DeviceSettings) (h : Host) : Discovery Features := do
  ExceptT.lift (Logged.reportAll (fieldNotices .pci (fun f => (PciAttribute.ofName? f).isSome) s))
  let devices ← Discovery.ofExcept (scan h)
  return Dict.ofList ((devices.filterMap (feature? s)).map fun name => (name, .present))

end Source.Pci

namespace Source

def pci : Source where
  name := "pci"
  prefixed := true
  defaults := .pci .defaults
  discover
    | .pci s, h => Pci.discover s.toDeviceSettings h
    | _, h => Pci.discover PciSettings.defaults.toDeviceSettings h

end Source

end NodeSurvey
