import NodeSurvey.Source.Pci

/-! Devices on the USB bus, with features named like those of the PCI bus but from the attributes as
they stand. -/

namespace NodeSurvey

inductive UsbAttribute where
  | class'
  | vendor
  | device
  | serial
deriving DecidableEq

namespace UsbAttribute

def all : List UsbAttribute := [class', vendor, device, serial]

def name : UsbAttribute → String
  | class' => "class"
  | vendor => "vendor"
  | device => "device"
  | serial => "serial"

def file : UsbAttribute → String
  | class' => "bDeviceClass"
  | vendor => "idVendor"
  | device => "idProduct"
  | serial => "serial"

def ofName? (s : String) : Option UsbAttribute := all.find? fun a => a.name = s

end UsbAttribute

namespace Source.Usb

def directory : String := "sys/bus/usb/devices"

def readAttribute? (h : Host) (device : String) (a : UsbAttribute) : Option (List Char) :=
  match h.readTrimmed (directory ++ "/" ++ device ++ "/" ++ a.file) with
  | .ok text => some text.toList
  | .error _ => none

def defaultFields : List UsbAttribute := [.class', .vendor, .device]

def fields (s : DeviceSettings) : List UsbAttribute :=
  let known := s.deviceLabelFields.filterMap UsbAttribute.ofName?
  if known.isEmpty then defaultFields else known

/-- The feature of a device: its class must be listed and all its fields readable. -/
def feature? (s : DeviceSettings) (h : Host) (device : String) : Option String := do
  let code ← readAttribute? h device .class'
  if Pci.isListed s code then
    let values ← (fields s).mapM (readAttribute? h device)
    some (Pci.featureName values)
  else none

def discover (s : DeviceSettings) (h : Host) : Discovery Features := do
  let devices ← Discovery.reading .usbDevices (h.list directory)
  ExceptT.lift
    (Logged.reportAll (Pci.fieldNotices .usb (fun f => (UsbAttribute.ofName? f).isSome) s))
  return Dict.ofList ((devices.filterMap (feature? s h)).map fun name => (name, .present))

end Source.Usb

namespace Source

def usb : Source where
  name := "usb"
  prefixed := true
  defaults := .usb .defaults
  discover
    | .usb s, h => Usb.discover s.toDeviceSettings h
    | _, h => Usb.discover UsbSettings.defaults.toDeviceSettings h

end Source

end NodeSurvey
