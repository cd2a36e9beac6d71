import NodeSurvey.Proofs.Host.Walk
import NodeSurvey.Proofs.Label.Aggregation
import NodeSurvey.Proofs.Source.Scan
import NodeSurvey.Proofs.Text.Lines
import NodeSurvey.Source.Usb

/-! Which features the devices of a bus give. A device of a listed class gives one feature, named by
the attributes that the settings ask for, and gives none if it lacks one of them. Devices do not
see each other, and what they are called does not matter. -/

namespace NodeSurvey

/-- What is to be known about a bus to name its devices. -/
structure DeviceBus where
  directory : String
  /-- The fields that can name a device, each with the file it is read from. -/
  files : List (String × String)
  /-- What counts of the text in the file of a field, once the blanks around it are gone. -/
  normal : String → List Char → List Char
  defaults : List String

namespace DeviceBus

def pci : DeviceBus where
  directory := "sys/bus/pci/devices"
  files := [("class", "class"), ("vendor", "vendor"), ("device", "device"),
    ("subsystem_vendor", "subsystem_vendor"), ("subsystem_device", "subsystem_device")]
  normal field text :=
    let code := (text.dropPrefix? ['0', 'x']).getD text
    if field = "class" then code.take 4 else code
  defaults := ["class", "vendor"]

def usb : DeviceBus where
  directory := "sys/bus/usb/devices"
  files := [("class", "bDeviceClass"), ("vendor", "idVendor"), ("device", "idProduct"),
    ("serial", "serial")]
  normal _ text := text
  defaults := ["class", "vendor", "device"]

variable (b : DeviceBus) (s : DeviceSettings) (h : Host)

def path (device file : String) : String := b.directory ++ "/" ++ device ++ "/" ++ file

/-- The value of a field of a device, if the device has it. -/
def value? (device field : String) : Option (List Char) :=
  (b.files.lookup field).bind fun file =>
    (h.readText (b.path device file)).toOption.map fun text =>
      b.normal field (Text.trim text.toList)

def known : List String := s.deviceLabelFields.filter fun f => f ∈ b.files.map Prod.fst

/-- The fields that name a feature: the known ones in their order, or the usual ones. -/
def fields : List String := if b.known s = [] then b.defaults else b.known s

structure Gives (device key : String) : Prop where
  listed : ∃ code, b.value? h device "class" = some code ∧
    ∃ p ∈ s.deviceClassWhitelist, p.toList <+: code
  named : ∃ values : List (List Char), (b.fields s).map (b.value? h device) = values.map some ∧
    key = "_".intercalate (values.map String.ofList) ++ ".present"

/-- What the discovery of a bus comes to. -/
structure Surveys (outcome : Except Trouble Features) : Prop where
  isOk_iff : outcome.isOk = (h.list b.directory).isOk
  get?_eq_some_iff : ∀ names features, h.list b.directory = .ok names → outcome = .ok features →
    ∀ key v, features.get? key = some v ↔ v = .bool true ∧ ∃ device ∈ names, b.Gives s h device key

def Alike (device : String) (h' : Host) (device' : String) : Prop :=
  ∀ field ∈ "class" :: b.fields s, b.value? h device field = b.value? h' device' field

/-- Every device of the one host that gives a feature has its like on the other. -/
def Covered (names : List String) (h' : Host) (names' : List String) : Prop :=
  ∀ device ∈ names, (∃ key, b.Gives s h device key) →
    ∃ device' ∈ names', b.Alike s h device h' device'

variable {b s h} {h' : Host} {device key : String} {names names' : List String}
variable {outcome outcome' : Except Trouble Features}

theorem value?_of_plainText? {field : String} {code : List Char}
    (hv : ((b.files.lookup field).bind fun file => (h.plainText? (b.path device file)).map
      fun text => b.normal field (Text.trim text.toList)) = some code) :
    b.value? h device field = some code := by
  obtain ⟨file, hf, hv⟩ := Option.bind_eq_some_iff.mp hv
  obtain ⟨text, ht, rfl⟩ := Option.map_eq_some_iff.mp hv
  rw [value?, hf, Option.bind_some, Host.readText_of_plainText? ht]
  rfl

theorem surveys_of_list {gives : String → Option String} (hl : h.list b.directory = .ok names)
    (ho : outcome = .ok (Dict.ofList ((names.filterMap gives).map fun key => (key, .present))))
    (hg : ∀ device ∈ names, ∀ key, gives device = some key ↔ b.Gives s h device key) :
    b.Surveys s h outcome := by
  subst ho
  refine ⟨by rw [hl]; rfl, fun names' features hl' ho key v => ?_⟩
  obtain rfl := Except.ok.inj (hl.symm.trans hl')
  obtain rfl := Except.ok.inj ho
  rw [Dict.get?_ofList_const, List.mem_filterMap]
  refine and_congr_right fun _ => exists_congr fun device => ?_
  exact and_congr_right fun hd => hg device hd key

theorem surveys_of_error {e : IoError} (hl : h.list b.directory = .error e)
    (ho : outcome.isOk = false) : b.Surveys s h outcome := by
  refine ⟨by rw [hl, ho]; rfl, fun names' features hl' => ?_⟩
  rw [hl] at hl'
  cases hl'

theorem not_gives {code : List Char} (hc : b.value? h device "class" = some code)
    (hn : ∀ p ∈ s.deviceClassWhitelist, ¬ p.toList <+: code) : ¬ b.Gives s h device key := by
  rintro ⟨⟨code', hc', p, hp, hprefix⟩, -⟩
  obtain rfl := Option.some.inj (hc.symm.trans hc')
  exact hn p hp hprefix

theorem Gives.of_alike {device' : String} (hv : b.Alike s h device h' device')
    (hg : b.Gives s h device key) : b.Gives s h' device' key := by
  obtain ⟨hclass, hfields⟩ := List.forall_mem_cons.mp hv
  obtain ⟨code, hc, hp⟩ := hg.listed
  obtain ⟨values, hvalues, hkey⟩ := hg.named
  refine ⟨⟨code, hclass ▸ hc, hp⟩, values, ?_, hkey⟩
  rw [← hvalues]
  exact List.map_congr_left fun field hf => (hfields field hf).symm

theorem covered_pair {device' other : String} (ha : b.Alike s h device h' device')
    (hn : ∀ key, ¬ b.Gives s h other key) :
    b.Covered s h [device, other] h' [device'] ∧ b.Covered s h' [device'] h [device, other] := by
  constructor
  · rintro d hd ⟨key, hg⟩
    rcases List.mem_pair.mp hd with rfl | rfl
    · exact ⟨device', List.mem_singleton_self _, ha⟩
    · exact absurd hg (hn key)
  · rintro d hd -
    obtain rfl := List.mem_singleton.mp hd
    exact ⟨device, List.mem_cons_self, fun field hf => (ha field hf).symm⟩

theorem Covered.exists_gives (hc : b.Covered s h names h' names')
    (hg : ∃ device ∈ names, b.Gives s h device key) :
    ∃ device ∈ names', b.Gives s h' device key := by
  obtain ⟨device, hd, hg⟩ := hg
  obtain ⟨device', hd', hv⟩ := hc device hd ⟨key, hg⟩
  exact ⟨device', hd', hg.of_alike hv⟩

theorem Surveys.exists_features (ho : b.Surveys s h outcome)
    (hl : h.list b.directory = .ok names) :
    ∃ features, outcome = .ok features ∧ ∀ key v, features.get? key = some v ↔
      v = .bool true ∧ ∃ device ∈ names, b.Gives s h device key := by
  have hok : outcome.isOk = true := by rw [ho.isOk_iff, hl]; rfl
  cases hf : outcome with
  | error t => rw [hf] at hok; cases hok
  | ok features => exact ⟨features, rfl, ho.get?_eq_some_iff names features hl hf⟩

theorem Surveys.eq_of_covered (ho : b.Surveys s h outcome) (ho' : b.Surveys s h' outcome')
    (hl : h.list b.directory = .ok names) (hl' : h'.list b.directory = .ok names')
    (hc : b.Covered s h names h' names') (hc' : b.Covered s h' names' h names) :
    outcome = outcome' := by
  obtain ⟨features, rfl, hf⟩ := ho.exists_features hl
  obtain ⟨features', rfl, hf'⟩ := ho'.exists_features hl'
  refine congrArg Except.ok (Dict.ext fun key => Option.ext fun v => ?_)
  rw [hf, hf']
  exact and_congr_right fun _ => ⟨hc.exists_gives, hc'.exists_gives⟩

section Attributes

variable {α : Type} {all : List α} {name : α → String}

theorem map_name_filterMap (l : List String) :
    (l.filterMap fun f => all.find? fun a => name a = f).map name =
      l.filter fun f => f ∈ all.map name := by
  induction l with
  | nil => rfl
  | cons f l ih =>
    cases hf : all.find? fun a => name a = f with
    | none =>
      have hmem : f ∉ all.map name := by
        simpa [List.find?_eq_none] using hf
      simp only [List.filterMap_cons, hf, List.filter_cons, hmem, decide_false, ih]
      rfl
    | some a =>
      have hname : name a = f := by simpa using List.find?_some hf
      have hmem : f ∈ all.map name := hname ▸ List.mem_map_of_mem (List.mem_of_find?_eq_some hf)
      simp only [List.filterMap_cons, hf, List.filter_cons, hmem, decide_true, if_true,
        List.map_cons, ih, hname]

theorem map_name_fields {defaults : List α} (hall : all.map name = b.files.map Prod.fst)
    (hd : defaults.map name = b.defaults) :
    (let known := s.deviceLabelFields.filterMap fun f => all.find? fun a => name a = f
     if known.isEmpty then defaults else known).map name = b.fields s := by
  have hknown : (s.deviceLabelFields.filterMap fun f => all.find? fun a => name a = f).map name =
      b.known s := by
    rw [map_name_filterMap, hall, known]
  simp only [fields, ← hknown, List.map_eq_nil_iff, List.isEmpty_iff]
  split
  · exact hd
  · rfl

theorem mapM_eq_some_iff {v : α → Option (List Char)} {l : List α} {values : List (List Char)} :
    l.mapM v = some values ↔ l.map v = values.map some := by
  induction l generalizing values with
  | nil => cases values <;> simp
  | cons a l ih =>
    rw [List.mapM_cons]
    constructor
    · intro hm
      obtain ⟨x, hx, hm⟩ := Option.bind_eq_some_iff.mp hm
      obtain ⟨xs, hxs, hm⟩ := Option.bind_eq_some_iff.mp hm
      obtain rfl := Option.some.inj hm
      rw [List.map_cons, List.map_cons, hx, ih.mp hxs]
    · intro hm
      cases values with
      | nil => cases hm
      | cons x xs =>
        obtain ⟨hx, hxs⟩ := List.cons.inj hm
        rw [hx, ih.mpr hxs]
        rfl

theorem isListed_iff {code : List Char} :
    Source.Pci.isListed s code = true ↔ ∃ p ∈ s.deviceClassWhitelist, p.toList <+: code := by
  simp [Source.Pci.isListed]

theorem key_eq_some_iff {v : α → Option (List Char)} {code : α} {used : List α}
    (hcode : name code = "class") (hv : ∀ a, b.value? h device (name a) = v a)
    (hused : used.map name = b.fields s) :
    (do
      let text ← v code
      if Source.Pci.isListed s text then
        let values ← used.mapM v
        some (Source.Pci.featureName values)
      else none) = some key ↔ b.Gives s h device key := by
  have hclass : b.value? h device "class" = v code := hcode ▸ hv code
  have hvalues : (b.fields s).map (b.value? h device) = used.map v := by
    rw [← hused, List.map_map]
    exact List.map_congr_left fun a _ => hv a
  constructor
  · intro hk
    obtain ⟨text, ht, hk⟩ := Option.bind_eq_some_iff.mp hk
    split at hk
    · rename_i hlisted
      obtain ⟨values, hm, hk⟩ := Option.bind_eq_some_iff.mp hk
      exact ⟨⟨text, hclass.trans ht, isListed_iff.mp hlisted⟩, values,
        hvalues.trans (mapM_eq_some_iff.mp hm), (Option.some.inj hk).symm⟩
    · cases hk
  · rintro ⟨⟨text, ht, hlisted⟩, values, hm, rfl⟩
    rw [← hclass, ht, mapM_eq_some_iff.mpr (hvalues.symm.trans hm)]
    simp [isListed_iff.mpr hlisted, Source.Pci.featureName]

end Attributes

end DeviceBus

/-- Whether the class of every device on the PCI bus is written in ASCII. -/
def Host.HasAsciiClasses (h : Host) : Prop :=
  ∀ names, h.list DeviceBus.pci.directory = .ok names → ∀ device ∈ names, ∀ text,
    h.readText (DeviceBus.pci.path device "class") = .ok text →
      ∀ c ∈ text.toList, c.toNat < 128

def Entry.isAscii : Entry → Bool
  | .file (.text s) _ => s.toList.all fun c => c.toNat < 128
  | .file (.bytes _) _ => false
  | _ => true

theorem Host.hasAsciiClasses_of_entries {h : Host} (ha : ∀ e ∈ h.entries, e.2.isAscii = true) :
    h.HasAsciiClasses := by
  intro names _ device _ text ht
  rw [Host.readText] at ht
  cases hf : h.find (DeviceBus.pci.path device "class") with
  | error t =>
    rw [hf] at ht
    cases ht
  | ok e =>
    rw [hf] at ht
    rcases Host.exists_mem_of_find hf with rfl | ⟨place, hm⟩
    · cases ht
    · have he := ha _ hm
      rcases e with ⟨s | b, executable⟩ | _ | target
      · obtain rfl := Except.ok.inj ht
        simpa [Entry.isAscii] using he
      · cases he
      · cases ht
      · cases ht

namespace Source.Pci

variable {h : Host} {device : String} {names : List String} {s : List Char}

theorem dropHexMark_eq (s : List Char) : dropHexMark s = (s.dropPrefix? ['0', 'x']).getD s := by
  rw [dropHexMark.eq_def]
  split
  · simp [List.dropPrefix?]
  · rename_i hmark
    rcases s with _ | ⟨c, _ | ⟨d, r⟩⟩
    · rfl
    · by_cases hc : c = '0' <;> simp [List.dropPrefix?, hc]
    · have hne : c = '0' → d ≠ 'x' := fun hc hd => hmark r (hc ▸ hd ▸ rfl)
      by_cases hc : c = '0' <;> simp [List.dropPrefix?, hc, hne]

theorem mem_of_mem_dropHexMark {c : Char} (hc : c ∈ dropHexMark s) : c ∈ s := by
  rw [dropHexMark.eq_def] at hc
  split at hc
  · exact List.mem_cons_of_mem _ (List.mem_cons_of_mem _ hc)
  · exact hc

theorem utf8Size_of_ascii {text : String} (ha : ∀ c ∈ text.toList, c.toNat < 128) :
    ∀ c ∈ dropHexMark (Text.trim text.toList), c.utf8Size = 1 := by
  intro c hc
  have hlt : c.toNat < 128 := ha c (Text.mem_of_mem_trim (mem_of_mem_dropHexMark hc))
  rw [Char.utf8Size_eq_one_iff, UInt32.le_iff_toNat_le]
  exact Nat.le_of_lt_succ hlt

section Ascii

variable (ha : ∀ text, h.readText (DeviceBus.pci.path device "class") = .ok text →
  ∀ c ∈ text.toList, c.toNat < 128)
include ha

theorem ascii_of_held? {code : List Char} (hc : held? h device .class' = some code) :
    ∀ c ∈ code, c.utf8Size = 1 := by
  obtain ⟨text, ht, rfl⟩ := Option.map_eq_some_iff.mp hc
  exact utf8Size_of_ascii (ha text (Label.toOption_eq_some_iff.mp ht))

theorem not_breaks_of_ascii : ¬ Breaks h device := by
  rintro ⟨code, hc, hcut⟩
  exact not_breaks_of_takeBytes? hc (takeBytes?_of_ascii (ascii_of_held? ha hc)) ⟨code, hc, hcut⟩

/-- In ASCII four bytes are four characters. -/
theorem value?_eq (a : PciAttribute) :
    DeviceBus.pci.value? h device a.name = attribute? h device a := by
  have hfile : DeviceBus.pci.files.lookup a.name = some a.name := by cases a <;> rfl
  have hclass : a.name = "class" ↔ a = .class' := by cases a <;> decide
  have hvalue : DeviceBus.pci.value? h device a.name =
      (held? h device a).map fun code => if a = .class' then code.take 4 else code := by
    rw [DeviceBus.value?, hfile, Option.bind_some, held?, Option.map_map]
    simp only [DeviceBus.pci, hclass, ← dropHexMark_eq]
    rfl
  rw [hvalue, attribute?]
  cases hc : held? h device a with
  | none => split <;> rfl
  | some code =>
    split
    · rename_i hac
      subst hac
      rw [Option.bind_some, takeBytes?_of_ascii (ascii_of_held? ha hc)]
      rfl
    · rfl

end Ascii

theorem filterMap_scanned (s : DeviceSettings) :
    (((names.map fun device => (⟨attribute? h device⟩ : PciDevice)).filter fun d =>
      (d.attribute? .class').isSome).filterMap (feature? s)) =
        names.filterMap fun device => feature? s ⟨attribute? h device⟩ := by
  have hclass : ∀ d : PciDevice,
      (if (d.attribute? .class').isSome then feature? s d else none) = feature? s d := by
    intro d
    rw [feature?]
    cases d.attribute? .class' <;> rfl
  rw [List.filterMap_filter, List.filterMap_map]
  refine List.filterMap_congr fun device _ => ?_
  exact hclass ⟨attribute? h device⟩

theorem surveys_discover (s : DeviceSettings) (ha : h.HasAsciiClasses) :
    DeviceBus.pci.Surveys s h (discover s h).run.value := by
  rw [value_discover]
  cases hl : h.list directory with
  | error e =>
    refine DeviceBus.surveys_of_error hl ?_
    rw [scan_of_list_error hl]
    rfl
  | ok names =>
    have hb : ∀ device ∈ names, ¬ Breaks h device := fun device hd =>
      not_breaks_of_ascii (ha names hl device hd)
    rw [scan_of_not_breaks hl hb, Except.map, filterMap_scanned]
    refine DeviceBus.surveys_of_list hl rfl fun device hd key => ?_
    exact DeviceBus.key_eq_some_iff rfl (value?_eq (ha names hl device hd))
      (DeviceBus.map_name_fields rfl rfl)

end Source.Pci

namespace Source.Usb

variable {h : Host} {device : String}

theorem value?_eq (a : UsbAttribute) :
    DeviceBus.usb.value? h device a.name = readAttribute? h device a := by
  have hfile : DeviceBus.usb.files.lookup a.name = some a.file := by cases a <;> rfl
  have hpath : DeviceBus.usb.path device a.file = directory ++ "/" ++ device ++ "/" ++ a.file := rfl
  simp only [DeviceBus.value?, hfile, Option.bind_some, hpath]
  unfold readAttribute? Host.readTrimmed
  cases h.readText (directory ++ "/" ++ device ++ "/" ++ a.file) with
  | error e => rfl
  | ok text => simp [Except.map, Except.toOption, Text.trimString, DeviceBus.usb]

theorem surveys_discover (s : DeviceSettings) :
    DeviceBus.usb.Surveys s h (discover s h).run.value := by
  cases hl : h.list directory with
  | error e =>
    refine DeviceBus.surveys_of_error hl ?_
    rw [discover, hl]
    rfl
  | ok names =>
    have ho : (discover s h).run.value = .ok (Dict.ofList
        ((names.filterMap (feature? s h)).map fun key => (key, .present))) := by
      rw [discover, hl]
      rfl
    refine DeviceBus.surveys_of_list hl ho fun device _ key => ?_
    exact DeviceBus.key_eq_some_iff rfl value?_eq (DeviceBus.map_name_fields rfl rfl)

end Source.Usb

namespace Source

/-- Both buses are surveyed by one rule. A device that gives no feature may come and go, and the
others may be given other names, without any change of the features. -/
theorem discover_devices :
    (∀ (s : PciSettings) (h : Host), h.HasAsciiClasses →
      DeviceBus.pci.Surveys s.toDeviceSettings h (pci.discover (.pci s) h).run.value) ∧
    (∀ (s : UsbSettings) (h : Host),
      DeviceBus.usb.Surveys s.toDeviceSettings h (usb.discover (.usb s) h).run.value) ∧
    (∀ (s : PciSettings) (h h' : Host) (names names' : List String),
      h.HasAsciiClasses → h'.HasAsciiClasses →
      h.list DeviceBus.pci.directory = .ok names → h'.list DeviceBus.pci.directory = .ok names' →
      DeviceBus.pci.Covered s.toDeviceSettings h names h' names' →
      DeviceBus.pci.Covered s.toDeviceSettings h' names' h names →
        (pci.discover (.pci s) h).run.value = (pci.discover (.pci s) h').run.value) ∧
    (∀ (s : UsbSettings) (h h' : Host) (names names' : List String),
      h.list DeviceBus.usb.directory = .ok names → h'.list DeviceBus.usb.directory = .ok names' →
      DeviceBus.usb.Covered s.toDeviceSettings h names h' names' →
      DeviceBus.usb.Covered s.toDeviceSettings h' names' h names →
        (usb.discover (.usb s) h).run.value = (usb.discover (.usb s) h').run.value) := by
  have hpci : ∀ (s : PciSettings) (h : Host), h.HasAsciiClasses →
      DeviceBus.pci.Surveys s.toDeviceSettings h (pci.discover (.pci s) h).run.value :=
    fun s h ha => Pci.surveys_discover s.toDeviceSettings ha
  have husb : ∀ (s : UsbSettings) (h : Host),
      DeviceBus.usb.Surveys s.toDeviceSettings h (usb.discover (.usb s) h).run.value :=
    fun s h => Usb.surveys_discover s.toDeviceSettings
  refine ⟨hpci, husb, ?_, ?_⟩
  · intro s h h' names names' ha ha' hl hl' hc hc'
    exact (hpci s h ha).eq_of_covered (hpci s h' ha') hl hl' hc hc'
  · intro s h h' names names' hl hl' hc hc'
    exact (husb s h).eq_of_covered (husb s h') hl hl' hc hc'

end Source

/-- A host with devices on its buses, each with its files. -/
def Host.withDevices (pci usb : List (String × List (String × String))) : Host :=
  let bus (name : String) (devices : List (String × List (String × String))) :=
    let place := ["sys", "bus", name, "devices"]
    (place.dropLast, Entry.directory) :: (place, .directory) :: devices.flatMap fun d =>
      (place ++ [d.1], .directory) ::
        d.2.map fun f => (place ++ [d.1, f.1], .file (.text f.2) false)
  ⟨"/", (["sys"], .directory) :: (["sys", "bus"], .directory) :: bus "pci" pci ++ bus "usb" usb⟩

/-- A display, a sound card, a receiver and a hub. -/
def Host.withSlots : Host := .withDevices
  [("0000:00:02.0", [("class", "0x030000\n"), ("vendor", "0x10de\n")]),
    ("0000:00:1f.3", [("class", "0x040300\n")])]
  [("1-1", [("bDeviceClass", "ff\n"), ("idVendor", "046d\n"), ("idProduct", "c52b\n")]),
    ("1-2", [("bDeviceClass", "09\n")])]

/-- A display of the same kind and such a receiver, at other places. -/
def Host.withOtherSlots : Host := .withDevices
  [("0000:65:00.0", [("class", " 030001"), ("vendor", "10de")])]
  [("3-2", [("bDeviceClass", "ff"), ("idVendor", "046d"), ("idProduct", "c52b")])]

namespace Source

theorem pci_slots :
    Host.withSlots.list DeviceBus.pci.directory = .ok ["0000:00:02.0", "0000:00:1f.3"] ∧
    Host.withOtherSlots.list DeviceBus.pci.directory = .ok ["0000:65:00.0"] ∧
    DeviceBus.pci.value? .withSlots "0000:00:02.0" "class" = some "0300".toList ∧
    DeviceBus.pci.value? .withSlots "0000:00:02.0" "vendor" = some "10de".toList ∧
    DeviceBus.pci.value? .withSlots "0000:00:1f.3" "class" = some "0403".toList ∧
    DeviceBus.pci.value? .withOtherSlots "0000:65:00.0" "class" = some "0300".toList ∧
    DeviceBus.pci.value? .withOtherSlots "0000:65:00.0" "vendor" = some "10de".toList := by
  refine ⟨?_, ?_, ?_, ?_, ?_, ?_, ?_⟩
  iterate 2 exact Host.list_of_plainNames? (by decide +kernel)
  all_goals exact DeviceBus.value?_of_plainText? (by decide +kernel)

theorem usb_slots :
    Host.withSlots.list DeviceBus.usb.directory = .ok ["1-1", "1-2"] ∧
    Host.withOtherSlots.list DeviceBus.usb.directory = .ok ["3-2"] ∧
    DeviceBus.usb.value? .withSlots "1-1" "class" = some "ff".toList ∧
    DeviceBus.usb.value? .withSlots "1-1" "vendor" = some "046d".toList ∧
    DeviceBus.usb.value? .withSlots "1-1" "device" = some "c52b".toList ∧
    DeviceBus.usb.value? .withSlots "1-2" "class" = some "09".toList ∧
    DeviceBus.usb.value? .withOtherSlots "3-2" "class" = some "ff".toList ∧
    DeviceBus.usb.value? .withOtherSlots "3-2" "vendor" = some "046d".toList ∧
    DeviceBus.usb.value? .withOtherSlots "3-2" "device" = some "c52b".toList := by
  refine ⟨?_, ?_, ?_, ?_, ?_, ?_, ?_, ?_, ?_⟩
  iterate 2 exact Host.list_of_plainNames? (by decide +kernel)
  all_goals exact DeviceBus.value?_of_plainText? (by decide +kernel)

/-- The sound card and the hub are of no listed class, and the others are alike on both hosts. -/
theorem discover_devices_slots :
    let s := PciSettings.defaults
    let u := UsbSettings.defaults
    Host.withSlots.HasAsciiClasses ∧ Host.withOtherSlots.HasAsciiClasses ∧
      (∃ features, (pci.discover (.pci s) .withSlots).run.value = .ok features ∧
        features.get? "0300_10de.present" = some (.bool true)) ∧
      (∃ features, (usb.discover (.usb u) .withSlots).run.value = .ok features ∧
        features.get? "ff_046d_c52b.present" = some (.bool true)) ∧
      (pci.discover (.pci s) .withSlots).run.value =
        (pci.discover (.pci s) .withOtherSlots).run.value ∧
      (usb.discover (.usb u) .withSlots).run.value =
        (usb.discover (.usb u) .withOtherSlots).run.value := by
  intro s u
  obtain ⟨hpci, husb, hpcis, husbs⟩ := discover_devices
  have ha : Host.withSlots.HasAsciiClasses := Host.hasAsciiClasses_of_entries (by decide +kernel)
  have ha' : Host.withOtherSlots.HasAsciiClasses :=
    Host.hasAsciiClasses_of_entries (by decide +kernel)
  obtain ⟨hpl, hpl', hpc, hpv, hsound, hpc', hpv'⟩ := pci_slots
  obtain ⟨hul, hul', huc, huv, hud, hhub, huc', huv', hud'⟩ := usb_slots
  have hpf : DeviceBus.pci.fields s.toDeviceSettings = ["class", "vendor"] := by decide +kernel
  have huf : DeviceBus.usb.fields u.toDeviceSettings = ["class", "vendor", "device"] := by
    decide +kernel
  have hp : DeviceBus.pci.Gives s.toDeviceSettings .withSlots "0000:00:02.0" "0300_10de.present" :=
    ⟨⟨_, hpc, "03", by decide +kernel, by decide +kernel⟩, ["0300".toList, "10de".toList],
      by simp [hpf, hpc, hpv], by decide +kernel⟩
  have hu : DeviceBus.usb.Gives u.toDeviceSettings .withSlots "1-1" "ff_046d_c52b.present" :=
    ⟨⟨_, huc, "ff", by decide +kernel, by decide +kernel⟩,
      ["ff".toList, "046d".toList, "c52b".toList], by simp [huf, huc, huv, hud], by decide +kernel⟩
  have hpa : DeviceBus.pci.Alike s.toDeviceSettings .withSlots "0000:00:02.0" .withOtherSlots
      "0000:65:00.0" := by
    simp [DeviceBus.Alike, hpf, hpc, hpc', hpv, hpv']
  have hua : DeviceBus.usb.Alike u.toDeviceSettings .withSlots "1-1" .withOtherSlots "3-2" := by
    simp [DeviceBus.Alike, huf, huc, huc', huv, huv', hud, hud']
  obtain ⟨hpcov, hpcov'⟩ := DeviceBus.covered_pair hpa fun key =>
    DeviceBus.not_gives hsound (by decide +kernel)
  obtain ⟨hucov, hucov'⟩ := DeviceBus.covered_pair hua fun key =>
    DeviceBus.not_gives hhub (by decide +kernel)
  obtain ⟨features, hf, hget⟩ := (hpci s _ ha).exists_features hpl
  obtain ⟨features', hf', hget'⟩ := (husb u _).exists_features hul
  exact ⟨ha, ha', ⟨features, hf, (hget _ _).mpr ⟨rfl, _, List.mem_cons_self, hp⟩⟩,
    ⟨features', hf', (hget' _ _).mpr ⟨rfl, _, List.mem_cons_self, hu⟩⟩,
    hpcis s _ _ _ _ ha ha' hpl hpl' hpcov hpcov', husbs u _ _ _ _ hul hul' hucov hucov'⟩

end Source

end NodeSurvey
