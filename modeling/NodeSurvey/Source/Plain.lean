import NodeSurvey.Source.Basic

/-! Sources without settings that look at one or two directories: memory, network, storage and the
input-output memory management unit. -/

namespace NodeSurvey.Source

def Memory.isNode (name : String) : Bool :=
  let digits := name.toList.drop 4
  "node".toList.isPrefixOf name.toList && !digits.isEmpty && digits.all Char.isDigit

def Memory.isRegion (name : String) : Bool := "region".toList.isPrefixOf name.toList

def Memory.count (h : Host) (path : String) (test : String → Bool) : Nat :=
  match h.list path with
  | .ok names => names.countP test
  | .error _ => 0

def Memory.discover (h : Host) : Discovery Features :=
  return Dict.ofList (
    (if 1 < count h "sys/devices/system/node" isNode then [("numa", .present)] else []) ++
    if 0 < count h "sys/bus/nd/devices" isRegion then [("nv.present", .present)] else [])

def Network.count (h : Host) (path : String) : Nat :=
  match h.readTrimmed path with
  | .ok s => (Text.count? s.toList).getD 0
  | .error _ => 0

def Network.features (h : Host) (interface : String) : List (String × FeatureValue) :=
  let device := "sys/class/net/" ++ interface ++ "/device/"
  if 0 < count h (device ++ "sriov_totalvfs") then
    ("sriov.capable", .present) ::
      if 0 < count h (device ++ "sriov_numvfs") then [("sriov.configured", .present)] else []
  else []

def Network.discover (h : Host) : Discovery Features := do
  let interfaces ← Discovery.reading .networkInterfaces (h.list "sys/class/net")
  return Dict.ofList (interfaces.flatMap (features h))

def Storage.isNonRotational (h : Host) (device : String) : Bool :=
  match h.readTrimmed ("sys/block/" ++ device ++ "/queue/rotational") with
  | .ok s => s = "0"
  | .error _ => false

def Storage.discover (h : Host) : Discovery Features := do
  let devices ← Discovery.reading .blockDevices (h.list "sys/block")
  return Dict.ofList
    (if devices.any (isNonRotational h) then [("nonrotationaldisk", .present)] else [])

def Iommu.discover (h : Host) : Discovery Features := do
  let devices ← Discovery.reading .iommuSupport (h.list "sys/class/iommu")
  return Dict.ofList (if devices.isEmpty then [] else [("enabled", .present)])

def memory : Source := .plain "memory" Memory.discover

def network : Source := .plain "network" Network.discover

def storage : Source := .plain "storage" Storage.discover

def iommu : Source := .plain "iommu" Iommu.discover

end NodeSurvey.Source
