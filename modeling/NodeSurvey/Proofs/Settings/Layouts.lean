import NodeSurvey.Proofs.Settings.Record

/-! The layouts of all settings, and of the rules of the operator. Each record is read back from what
it is written as. -/

namespace NodeSurvey.Settings

open Yaml

/-! Texts and lists are read back from what they are written as. -/

theorem mapM_encode {α : Type} {item : Decoder α} {write : α → Value}
    (h : ∀ a, item (write a) = .ok a) (l : List α) : (l.map write).mapM item = .ok l := by
  induction l with
  | nil => rfl
  | cons a l ih =>
    rw [List.map_cons, List.mapM_cons, h, ih]
    rfl

theorem list_encode {α : Type} {item : Decoder α} {write : α → Value}
    (h : ∀ a, item (write a) = .ok a) (l : List α) :
    Decode.list item (.sequence (l.map write)) = .ok l := by
  simp only [Decode.list, Value.untagged, mapM_encode h]

theorem string_encode (s : String) : Decode.string (.string s) = .ok s := by
  simp only [Decode.string, Value.untagged]

theorem list_encodeStrings (l : List String) :
    Decode.list Decode.string (encodeStrings l) = .ok l := list_encode string_encode l

theorem option_encodeOption {α : Type} {item : Decoder α} {write : α → Value}
    (h : ∀ a, item (write a) = .ok a) (hn : ∀ a, write a ≠ .null) (o : Option α) :
    Decode.option item (encodeOption write o) = .ok o := by
  cases o with
  | none => rfl
  | some a =>
    have hw : encodeOption write (some a) = write a := rfl
    rw [hw, Decode.option, h]
    · rfl
    · exact hn a

namespace Member

variable {ρ : Type}

/-- A member that any content can be put into. -/
@[simp] def ofContent {α : Type} (name : String) (decoder : Decoder α) (write : α → Value)
    (decode_encode : ∀ a, decoder (write a) = .ok a) (get : ρ → α) (put : ρ → α → ρ)
    (get_put : ∀ r a, get (put r a) = a) : Member ρ where
  name := name
  Content := α
  decoder := decoder
  get := get
  put := put
  get_put r _ a _ := get_put r a
  encode := write
  decode_encode := decode_encode

@[simp] def texts (name : String) : (get : ρ → List String) → (put : ρ → List String → ρ) →
    (∀ r a, get (put r a) = a) → Member ρ :=
  ofContent name (Decode.list Decode.string) encodeStrings list_encodeStrings

@[simp] def text (name : String) : (get : ρ → String) → (put : ρ → String → ρ) →
    (∀ r a, get (put r a) = a) → Member ρ :=
  ofContent name Decode.string .string string_encode

/-- The members of settings that are those of a bus. -/
def devices (get : ρ → DeviceSettings) (put : DeviceSettings → ρ)
    (get_put : ∀ s, get (put s) = s) : List (Member ρ) :=
  [texts "deviceClassWhitelist" (fun r => (get r).deviceClassWhitelist)
      (fun r l => put { get r with deviceClassWhitelist := l }) fun _ _ => by rw [get_put],
    texts "deviceLabelFields" (fun r => (get r).deviceLabelFields)
      (fun r l => put { get r with deviceLabelFields := l }) fun _ _ => by rw [get_put]]

end Member

namespace Layout

def core : Layout CoreSettings where
  title := "CoreConfig"
  defaults := {}
  members := [.ofContent "noPublish" Decode.bool .bool
    (fun _ => by simp only [Decode.bool, Value.untagged]) (·.noPublish)
    (fun r b => { r with noPublish := b }) fun _ _ => rfl]
  nodup := by simp
  independent := by simp
  ext := by
    rintro ⟨a⟩ ⟨b⟩ h
    simpa using h
  encode_eq _ := rfl
  decode_eq := rfl

def cpuid : Layout CpuidSettings where
  title := "CpuidConfig"
  defaults := .defaults
  members :=
    [.texts "attributeBlacklist" (·.attributeBlacklist)
        (fun r l => { r with attributeBlacklist := l }) fun _ _ => rfl,
      .texts "attributeWhitelist" (·.attributeWhitelist)
        (fun r l => { r with attributeWhitelist := l }) fun _ _ => rfl]
  nodup := by simp
  independent := by simp [Member.Independent]
  ext := by
    rintro ⟨a, b⟩ ⟨a', b'⟩ h
    simpa using h
  encode_eq _ := rfl
  decode_eq := rfl

def cpu : Layout CpuSettings where
  title := "CpuConfig"
  defaults := .defaults
  members := [.ofContent "cpuid" decode encode cpuid.decode_encode (·.cpuid)
    (fun r c => { r with cpuid := c }) fun _ _ => rfl]
  nodup := by simp
  independent := by simp
  ext := by
    rintro ⟨a⟩ ⟨b⟩ h
    simpa using h
  encode_eq _ := rfl
  decode_eq := rfl

def kernel : Layout KernelSettings where
  title := "KernelConfig"
  defaults := .defaults
  members :=
    [.text "kconfigFile" (·.kconfigFile) (fun r f => { r with kconfigFile := f }) fun _ _ => rfl,
      .texts "configOpts" (·.configOpts) (fun r l => { r with configOpts := l }) fun _ _ => rfl]
  nodup := by simp
  independent := by simp [Member.Independent]
  ext := by
    rintro ⟨a, b⟩ ⟨a', b'⟩ h
    simpa using h
  encode_eq _ := rfl
  decode_eq := rfl

def devices {ρ : Type} [Documented ρ] (title : String) (defaults : ρ)
    (get : ρ → DeviceSettings) (put : DeviceSettings → ρ)
    (get_put : ∀ s, get (put s) = s) (put_get : ∀ r, put (get r) = r)
    (encode_eq : ∀ r : ρ, encode r = encodeDevices (get r))
    (decode_eq : (decode : Decoder ρ) =
      Decode.record title defaults ((Member.devices get put get_put).map Member.known)) :
    Layout ρ where
  title := title
  defaults := defaults
  members := Member.devices get put get_put
  nodup := by simp [Member.devices]
  independent := by simp [Member.devices, Member.Independent, get_put]
  ext := by
    intro a b h
    obtain ⟨hc, hf⟩ : (get a).deviceClassWhitelist = (get b).deviceClassWhitelist ∧
        (get a).deviceLabelFields = (get b).deviceLabelFields := by
      simpa [Member.devices] using h
    have hab : get a = get b := by
      cases ha : get a
      cases hb : get b
      simp_all
    rw [← put_get a, hab, put_get]
  encode_eq := encode_eq
  decode_eq := decode_eq

def pci : Layout PciSettings :=
  devices "PciConfig" .defaults (·.toDeviceSettings) .mk (fun _ => rfl) (fun _ => rfl)
    (fun _ => rfl) rfl

def usb : Layout UsbSettings :=
  devices "UsbConfig" .defaults (·.toDeviceSettings) .mk (fun _ => rfl) (fun _ => rfl)
    (fun _ => rfl) rfl

def pciIdRule : Layout PciIdRule where
  title := "PciIdRule"
  defaults := ⟨[], [], []⟩
  members :=
    [.texts "class" (·.classes) (fun r l => { r with classes := l }) fun _ _ => rfl,
      .texts "vendor" (·.vendors) (fun r l => { r with vendors := l }) fun _ _ => rfl,
      .texts "device" (·.devices) (fun r l => { r with devices := l }) fun _ _ => rfl]
  nodup := by simp
  independent := by simp [Member.Independent]
  ext := by
    rintro ⟨a, b, c⟩ ⟨a', b', c'⟩ h
    simpa using h
  encode_eq _ := rfl
  decode_eq := rfl

def matchRule : Layout MatchRule where
  title := "MatchRule"
  defaults := ⟨none, none⟩
  members :=
    [.ofContent "pciId" (Decode.option decode) (encodeOption encode)
        (option_encodeOption pciIdRule.decode_encode fun _ e => Value.noConfusion e) (·.pciId)
        (fun r o => { r with pciId := o }) fun _ _ => rfl,
      .ofContent "loadedKMod" (Decode.option (Decode.list Decode.string))
        (encodeOption encodeStrings)
        (option_encodeOption list_encodeStrings fun _ e => Value.noConfusion e) (·.loadedKMod)
        (fun r o => { r with loadedKMod := o }) fun _ _ => rfl]
  nodup := by simp
  independent := by simp [Member.Independent]
  ext := by
    rintro ⟨a, b⟩ ⟨a', b'⟩ h
    simpa using h
  encode_eq _ := rfl
  decode_eq := rfl

def customRule : Layout CustomRule where
  title := "CustomRule"
  defaults := ⟨"", []⟩
  members :=
    [.text "name" (·.name) (fun r s => { r with name := s }) fun _ _ => rfl,
      .ofContent "matchOn" (Decode.list decode) (fun l => .sequence (l.map encode))
        (list_encode matchRule.decode_encode) (·.matchOn) (fun r l => { r with matchOn := l })
        fun _ _ => rfl]
  nodup := by simp
  independent := by simp [Member.Independent]
  ext := by
    rintro ⟨a, b⟩ ⟨a', b'⟩ h
    simpa using h
  encode_eq _ := rfl
  decode_eq := rfl

end Layout

end NodeSurvey.Settings
