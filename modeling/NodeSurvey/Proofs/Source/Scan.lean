import NodeSurvey.Source.Pci

/-! What a scan of the PCI bus comes to. Every attribute of a device stands for itself, only that a
class code whose fourth byte is inside a character breaks the whole scan down. -/

namespace NodeSurvey.Source.Pci

open Label (byteLength byteLength_cons)

/-- The fourth byte of the text is not the last byte of its character. -/
def IsCutInside (s : List Char) : Prop :=
  ∃ a c r, s = a ++ c :: r ∧ byteLength a < 4 ∧ 4 < byteLength a + c.utf8Size

/-- What a scan ends with if it has to cut a character. -/
def breakdown : Trouble := .panicked (some "assertion failed")

theorem takeBytes?_eq_none_iff {n : Nat} {s : List Char} :
    takeBytes? n s = none ↔
      ∃ a c r, s = a ++ c :: r ∧ byteLength a < n ∧ n < byteLength a + c.utf8Size := by
  induction s generalizing n with
  | nil => simp [takeBytes?]
  | cons d s ih =>
    cases n with
    | zero => simp [takeBytes?]
    | succ n =>
      rw [takeBytes?]
      split
      · rename_i hd
        rw [Option.map_eq_none_iff, ih]
        constructor
        · rintro ⟨a, c, r, rfl, ha, hc⟩
          exact ⟨d :: a, c, r, rfl, by rw [byteLength_cons]; omega, by rw [byteLength_cons]; omega⟩
        · rintro ⟨a, c, r, hs, ha, hc⟩
          cases a with
          | nil =>
            obtain ⟨rfl, rfl⟩ := List.cons.inj hs
            have hzero : byteLength [] = 0 := rfl
            omega
          | cons d' a =>
            obtain ⟨rfl, rfl⟩ := List.cons.inj hs
            rw [byteLength_cons] at ha hc
            exact ⟨a, c, r, rfl, by omega, by omega⟩
      · rename_i hd
        have hzero : byteLength [] = 0 := rfl
        exact ⟨fun _ => ⟨[], d, s, rfl, by omega, by omega⟩, fun _ => rfl⟩

theorem takeBytes?_of_le {n : Nat} {s : List Char} (hs : byteLength s ≤ n) :
    takeBytes? n s = some s := by
  induction s generalizing n with
  | nil => rw [takeBytes?]
  | cons c s ih =>
    rw [byteLength_cons] at hs
    have hc := c.utf8Size_pos
    obtain ⟨n, rfl⟩ : ∃ m, n = m + 1 := ⟨n - 1, by omega⟩
    rw [takeBytes?, if_pos (by omega), ih (by omega)]
    rfl

theorem takeBytes?_of_ascii {n : Nat} {s : List Char} (hs : ∀ c ∈ s, c.utf8Size = 1) :
    takeBytes? n s = some (s.take n) := by
  induction s generalizing n with
  | nil => simp [takeBytes?]
  | cons c s ih =>
    obtain ⟨hc, hs⟩ := List.forall_mem_cons.mp hs
    cases n with
    | zero => simp [takeBytes?]
    | succ n => simp [takeBytes?, hc, ih hs]

theorem cutClass_eq (s : List Char) :
    cutClass s = (takeBytes? 4 s).elim (.error breakdown) .ok := by
  rw [cutClass]
  split
  · rename_i hs
    rw [takeBytes?_of_le (Nat.le_of_lt hs)]
    rfl
  · cases takeBytes? 4 s <;> rfl

section Device

variable (h : Host) (device : String)

/-- What an attribute file holds, without blanks around it and without a mark in front. -/
def held? (a : PciAttribute) : Option (List Char) :=
  (h.readText (directory ++ "/" ++ device ++ "/" ++ a.name)).toOption.map fun text =>
    dropHexMark (Text.trim text.toList)

def attribute? (a : PciAttribute) : Option (List Char) :=
  if a = .class' then (held? h device a).bind (takeBytes? 4) else held? h device a

def Breaks : Prop := ∃ code, held? h device .class' = some code ∧ IsCutInside code

variable {h device} {a : PciAttribute}

theorem not_breaks_of_takeBytes? {code kept : List Char} (hc : held? h device .class' = some code)
    (ht : takeBytes? 4 code = some kept) : ¬ Breaks h device := by
  rintro ⟨code', hc', hcut⟩
  obtain rfl := Option.some.inj (hc.symm.trans hc')
  rw [takeBytes?_eq_none_iff.mpr hcut] at ht
  cases ht

theorem readAttribute_class :
    readAttribute h device .class' =
      (held? h device .class').elim (.ok none) fun code => (cutClass code).map some := by
  simp only [readAttribute, Host.readTrimmed, held?]
  cases h.readText (directory ++ "/" ++ device ++ "/" ++ PciAttribute.class'.name) with
  | error e => rfl
  | ok text => simp [Except.map, Except.toOption, Text.trimString]

theorem readAttribute_of_ne (ha : a ≠ .class') :
    readAttribute h device a = .ok (held? h device a) := by
  simp only [readAttribute, Host.readTrimmed, held?]
  cases h.readText (directory ++ "/" ++ device ++ "/" ++ a.name) with
  | error e => rfl
  | ok text => cases a <;> simp_all [Except.map, Except.toOption, Text.trimString]

theorem readAttribute_of_breaks (hb : Breaks h device) :
    readAttribute h device .class' = .error breakdown := by
  obtain ⟨code, hc, hcut⟩ := hb
  rw [readAttribute_class, hc, Option.elim_some, cutClass_eq, takeBytes?_eq_none_iff.mpr hcut]
  rfl

theorem readAttribute_of_not_breaks (hb : ¬ Breaks h device) (a : PciAttribute) :
    readAttribute h device a = .ok (attribute? h device a) := by
  by_cases ha : a = .class'
  · subst ha
    rw [readAttribute_class, attribute?, if_pos rfl]
    cases hc : held? h device .class' with
    | none => rfl
    | some code =>
      cases ht : takeBytes? 4 code with
      | none => exact absurd ⟨code, hc, takeBytes?_eq_none_iff.mp ht⟩ hb
      | some kept => simp [cutClass_eq, ht, Except.map]
  · rw [readAttribute_of_ne ha, attribute?, if_neg ha]

theorem readDevice_of_breaks (hb : Breaks h device) : readDevice h device = .error breakdown := by
  rw [readDevice, PciAttribute.all, List.mapM_cons, readAttribute_of_breaks hb]
  rfl

theorem readDevice_of_not_breaks (hb : ¬ Breaks h device) :
    readDevice h device = .ok ⟨attribute? h device⟩ := by
  simp only [readDevice, PciAttribute.all, List.mapM_cons, List.mapM_nil,
    readAttribute_of_not_breaks hb]
  refine congrArg (fun f => Except.ok (PciDevice.mk f)) (funext fun a => ?_)
  cases a <;> rfl

end Device

variable {h : Host} {names : List String}

theorem scan_of_list_error {e : IoError} (hl : h.list directory = .error e) :
    scan h = .error (.failed (.within .pciDevices (.io e))) := by
  rw [scan, hl]

theorem mapM_of_breaks (hb : ∃ device ∈ names, Breaks h device) :
    names.mapM (readDevice h) = .error breakdown := by
  induction names with
  | nil => simp at hb
  | cons device names ih =>
    rw [List.mapM_cons]
    by_cases hd : Breaks h device
    · rw [readDevice_of_breaks hd]
      rfl
    · have hrest : ∃ device ∈ names, Breaks h device := by simpa [hd] using hb
      rw [readDevice_of_not_breaks hd, ih hrest]
      rfl

theorem mapM_of_not_breaks (hb : ∀ device ∈ names, ¬ Breaks h device) :
    names.mapM (readDevice h) = .ok (names.map fun device => ⟨attribute? h device⟩) := by
  induction names with
  | nil => rfl
  | cons device names ih =>
    obtain ⟨hd, hb⟩ := List.forall_mem_cons.mp hb
    rw [List.mapM_cons, readDevice_of_not_breaks hd, ih hb]
    rfl

theorem scan_of_breaks (hl : h.list directory = .ok names)
    (hb : ∃ device ∈ names, Breaks h device) : scan h = .error breakdown := by
  rw [scan, hl]
  simp only [mapM_of_breaks hb]
  rfl

theorem scan_of_not_breaks (hl : h.list directory = .ok names)
    (hb : ∀ device ∈ names, ¬ Breaks h device) :
    scan h = .ok ((names.map fun device => ⟨attribute? h device⟩).filter fun d =>
      (d.attribute? .class').isSome) := by
  rw [scan, hl]
  simp only [mapM_of_not_breaks hb]
  rfl

theorem value_discover (s : DeviceSettings) (h : Host) :
    (discover s h).run.value = (scan h).map fun devices =>
      Dict.ofList ((devices.filterMap (feature? s)).map fun name => (name, .present)) := by
  rw [discover]
  cases scan h <;> rfl

end NodeSurvey.Source.Pci
