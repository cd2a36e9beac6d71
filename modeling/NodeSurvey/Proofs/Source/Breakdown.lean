import NodeSurvey.Proofs.Source.Rules

/-! Where a class code cannot be cut after its fourth byte, the scan of the whole bus breaks down,
and with it all discovery that has to look at the devices. Everywhere else a device costs no more
than its own feature. -/

namespace NodeSurvey.Source

def Panics {α : Type} (m : Discovery α) : Prop :=
  ∃ message, m.run.value = .error (.panicked message)

namespace Pci

variable {h : Host} {names : List String} {s : DeviceSettings}

def BreaksDown (h : Host) : Prop :=
  ∃ names, h.list directory = .ok names ∧ ∃ device ∈ names, Breaks h device

theorem scan_of_breaksDown (hb : BreaksDown h) : scan h = .error breakdown := by
  obtain ⟨names, hl, hb⟩ := hb
  exact scan_of_breaks hl hb

theorem scan_panicked_iff : (∃ message, scan h = .error (.panicked message)) ↔ BreaksDown h := by
  refine ⟨fun ⟨message, hscan⟩ => ?_, fun hb => ⟨_, scan_of_breaksDown hb⟩⟩
  by_contra hb
  cases hl : h.list directory with
  | error e =>
    rw [scan_of_list_error hl] at hscan
    cases hscan
  | ok names =>
    have hnone : ∀ device ∈ names, ¬ Breaks h device := fun device hd hbreaks =>
      hb ⟨names, hl, device, hd, hbreaks⟩
    rw [scan_of_not_breaks hl hnone] at hscan
    cases hscan

theorem panics_iff : Panics (discover s h) ↔ BreaksDown h := by
  rw [← scan_panicked_iff, Panics, value_discover]
  cases scan h <;> simp [Except.map]

theorem held?_of_plainText? {device : String} {a : PciAttribute} {code : List Char}
    (hv : (h.plainText? (directory ++ "/" ++ device ++ "/" ++ a.name)).map
      (fun text => dropHexMark (Text.trim text.toList)) = some code) :
    held? h device a = some code := by
  obtain ⟨text, ht, rfl⟩ := Option.map_eq_some_iff.mp hv
  rw [held?, Host.readText_of_plainText? ht]
  rfl

theorem exists_features (hl : h.list directory = .ok names)
    (hb : ∀ device ∈ names, ¬ Breaks h device) :
    ∃ features, (discover s h).run.value = .ok features ∧ ∀ key v, features.get? key = some v ↔
      v = .bool true ∧ ∃ device ∈ names, feature? s ⟨attribute? h device⟩ = some key := by
  refine ⟨_, by rw [value_discover, scan_of_not_breaks hl hb, Except.map, filterMap_scanned], ?_⟩
  intro key v
  rw [Dict.get?_ofList_const, List.mem_filterMap]
  rfl

end Pci

namespace Custom

variable {h : Host} {g : Gathered} {t : Trouble} {entries : List MatchRule}

/-- The devices are asked for by an entry, and no entry before it matches. -/
def Reaches (h : Host) (entries : List MatchRule) : Prop :=
  ∃ earlier e later, entries = earlier ++ e :: later ∧ e.pciId ≠ none ∧
    ∀ e' ∈ earlier, e'.pciId = none ∧ ¬ Applies h e'

theorem not_reaches_nil : ¬ Reaches h [] := by
  rintro ⟨earlier, e, later, he, -⟩
  cases earlier <;> cases he

theorem reaches_cons_of_pciId {e : MatchRule} (he : e.pciId ≠ none) : Reaches h (e :: entries) :=
  ⟨[], e, entries, rfl, he, by simp⟩

theorem reaches_cons_iff {e : MatchRule} (he : e.pciId = none) :
    Reaches h (e :: entries) ↔ ¬ Applies h e ∧ Reaches h entries := by
  constructor
  · rintro ⟨earlier, e', later, hsplit, hne, hbefore⟩
    cases earlier with
    | nil =>
      obtain ⟨rfl, rfl⟩ := List.cons.inj hsplit
      exact absurd he hne
    | cons first earlier =>
      obtain ⟨rfl, rfl⟩ := List.cons.inj hsplit
      obtain ⟨hfirst, hbefore⟩ := List.forall_mem_cons.mp hbefore
      exact ⟨hfirst.2, earlier, e', later, rfl, hne, hbefore⟩
  · rintro ⟨hn, earlier, e', later, rfl, hne, hbefore⟩
    exact ⟨e :: earlier, e', later, rfl, hne, List.forall_mem_cons.mpr ⟨⟨he, hn⟩, hbefore⟩⟩

theorem verdict_eq_true_iff_of_pciId {e : MatchRule} (he : e.pciId = none) :
    verdict h e = .ok true ↔ Applies h e := by
  rw [verdict_eq_true_iff, modulesVerdict_eq_true_iff, Option.isSome_iff_ne_none,
    Option.isSome_iff_ne_none, he]
  exact ⟨fun ⟨hasks, _, hm⟩ => ⟨he ▸ hasks, fun r hr => absurd (he.symm.trans hr) nofun, hm⟩,
    fun hp => ⟨he ▸ hp.asks, rfl, hp.modules⟩⟩

theorem settled_of_breaksDown (hb : Pci.BreaksDown h) (entries : List MatchRule) :
    (Reaches h entries ∧ settled h entries = .error Pci.breakdown) ∨
      (¬ Reaches h entries ∧ (settled h entries).isOk = true) := by
  induction entries with
  | nil => exact .inr ⟨not_reaches_nil, rfl⟩
  | cons e entries ih =>
    rw [settled]
    by_cases he : e.pciId = none
    · rw [reaches_cons_iff he, ← verdict_eq_true_iff_of_pciId he]
      rcases hv : verdict h e with (f | message) | _ | _
      · simpa using ih
      · have hasks := (verdict_panicked_iff.mp hv).1
        rw [he] at hasks
        cases hasks
      · simpa using ih
      · exact .inr ⟨fun hr => hr.1 rfl, rfl⟩
    · have hv : verdict h e = .error Pci.breakdown :=
        verdict_panicked_iff.mpr ⟨Option.isSome_iff_ne_none.mpr he, Pci.scan_of_breaksDown hb⟩
      rw [hv]
      exact .inl ⟨reaches_cons_of_pciId he, rfl⟩

theorem discoverRules_eq_error (hg : g.Sound h) {rules : List CustomRule}
    (hs : ∀ rule ∈ rules, settled h rule.matchOn = .error t ∨ (settled h rule.matchOn).isOk = true)
    (ht : ∃ rule ∈ rules, settled h rule.matchOn = .error t) :
    (discoverRules h g rules).run.value = .error t := by
  induction rules generalizing g with
  | nil => simp at ht
  | cons rule rules ih =>
    obtain ⟨hrule, hrules⟩ := List.forall_mem_cons.mp hs
    obtain ⟨g', hg', hv⟩ := value_matchesAny hg rule.name rule.matchOn
    rw [discoverRules, Discovery.value_bind, hv]
    cases hb : settled h rule.matchOn with
    | error t' =>
      rw [hb] at hrule
      rcases hrule with hrule | hrule
      · exact congrArg Except.error (Except.error.inj hrule)
      · cases hrule
    | ok matched =>
      have hrest : ∃ rule ∈ rules, settled h rule.matchOn = .error t := by simpa [hb] using ht
      change (discoverRules h g' rules >>= _).run.value = _
      rw [Discovery.value_bind, ih hg' hrules hrest]
      rfl

theorem discover_cases (s : CustomSettings) (h : Host) :
    (Pci.BreaksDown h ∧ ∃ rule ∈ s.rules, Reaches h rule.matchOn) ∧
        (discover s h).run.value = .error Pci.breakdown ∨
      ¬ (Pci.BreaksDown h ∧ ∃ rule ∈ s.rules, Reaches h rule.matchOn) ∧
        (discover s h).run.value.isOk = true := by
  have hok : (∀ rule ∈ s.rules, (settled h rule.matchOn).isOk = true) →
      (discover s h).run.value.isOk = true := by
    intro hs
    obtain ⟨names, hn, -⟩ := exists_value_discoverRules (Gathered.sound_empty h) hs
    rw [value_discover, hn]
    rfl
  by_cases hb : Pci.BreaksDown h
  · have hsettled := settled_of_breaksDown hb
    by_cases hr : ∃ rule ∈ s.rules, Reaches h rule.matchOn
    · refine .inl ⟨⟨hb, hr⟩, ?_⟩
      obtain ⟨rule, hrule, hreaches⟩ := hr
      have herror : settled h rule.matchOn = .error Pci.breakdown :=
        ((hsettled rule.matchOn).resolve_right fun hn => hn.1 hreaches).2
      rw [value_discover, discoverRules_eq_error (Gathered.sound_empty h)
        (fun rule _ => (hsettled rule.matchOn).imp And.right And.right) ⟨rule, hrule, herror⟩]
      rfl
    · refine .inr ⟨fun hboth => hr hboth.2, hok fun rule hrule => ?_⟩
      exact ((hsettled rule.matchOn).resolve_left fun hs => hr ⟨rule, hrule, hs.1⟩).2
  · refine .inr ⟨fun hboth => hb hboth.1, hok fun rule _ => ?_⟩
    have hq : ∀ message, Pci.scan h ≠ .error (.panicked message) := fun message hscan =>
      hb (Pci.scan_panicked_iff.mp ⟨message, hscan⟩)
    obtain ⟨matched, hs, -⟩ := exists_settled hq rule.matchOn
    rw [hs]
    rfl

theorem panics_iff (s : CustomSettings) (h : Host) :
    Panics (discover s h) ↔ Pci.BreaksDown h ∧ ∃ rule ∈ s.rules, Reaches h rule.matchOn := by
  rcases discover_cases s h with ⟨hb, hv⟩ | ⟨hb, hv⟩
  · exact iff_of_true ⟨_, hv⟩ hb
  · refine iff_of_false ?_ hb
    rintro ⟨message, hm⟩
    rw [hm] at hv
    cases hv

end Custom

/-- Discovery panics exactly where the class code of a listed device cannot be cut, and rules do so
only if they get to the devices. Everywhere else it fails only where the bus cannot be listed, and
a device costs no more than its own feature. -/
theorem discover_panics (h : Host) :
    (∀ s : PciSettings, Panics (pci.discover (.pci s) h) ↔ Pci.BreaksDown h) ∧
    (∀ (s : PciSettings) (names : List String), h.list Pci.directory = .ok names →
      (∀ device ∈ names, ¬ Pci.Breaks h device) →
        ∃ features, (pci.discover (.pci s) h).run.value = .ok features ∧
          ∀ key v, features.get? key = some v ↔ v = .bool true ∧ ∃ device ∈ names,
            Pci.feature? s.toDeviceSettings ⟨Pci.attribute? h device⟩ = some key) ∧
    (∀ (s : PciSettings) (e : IoError), h.list Pci.directory = .error e →
      (pci.discover (.pci s) h).run.value = .error (.failed (.within .pciDevices (.io e)))) ∧
    (∀ s : CustomSettings, Panics (custom.discover (.custom s) h) ↔
      Pci.BreaksDown h ∧ ∃ rule ∈ s.rules, Custom.Reaches h rule.matchOn) ∧
    (∀ s : CustomSettings, Panics (custom.discover (.custom s) h) ∨
      (custom.discover (.custom s) h).run.value.isOk = true) := by
  refine ⟨fun s => Pci.panics_iff, fun s names hl hb => Pci.exists_features hl hb,
    fun s e hl => ?_, fun s => Custom.panics_iff s h, fun s => ?_⟩
  · change (Pci.discover s.toDeviceSettings h).run.value = _
    rw [Pci.value_discover, Pci.scan_of_list_error hl]
    rfl
  · exact (Custom.discover_cases s h).imp (fun hb => ⟨_, hb.2⟩) And.right

/-- A character that ends with the fourth byte is kept. -/
theorem discover_panics_spared :
    let h : Host := .withDevices
      [("0000:00:02.0", [("class", "0x030000\n"), ("vendor", "0x10de\n")]),
        ("0000:00:03.0", [("class", "0x03é000\n"), ("vendor", "0x8086\n")])] []
    let rules : List CustomRule := [⟨"gpu", [⟨some ⟨["0300"], [], []⟩, none⟩]⟩]
    ¬ Panics (pci.discover (.pci .defaults) h) ∧
      (∃ features, (pci.discover (.pci .defaults) h).run.value = .ok features ∧
        features.get? "03é_8086.present" = some (.bool true)) ∧
      (custom.discover (.custom ⟨rules⟩) h).run.value.isOk = true ∧
      (pci.discover (.pci .defaults) (.empty "/")).run.value =
        .error (.failed (.within .pciDevices (.io .notFound))) := by
  intro h rules
  obtain ⟨hpanics, hspared, -, hrules, hok⟩ := discover_panics h
  obtain ⟨-, -, hmissing, -⟩ := discover_panics (.empty "/")
  have hl : h.list Pci.directory = .ok ["0000:00:02.0", "0000:00:03.0"] :=
    Host.list_of_pairwise (by decide +kernel) (by decide +kernel) (by decide +kernel)
      (by decide +kernel) (by decide +kernel)
  have hgood : Pci.held? h "0000:00:02.0" .class' = some "030000".toList :=
    Pci.held?_of_plainText? (by decide +kernel)
  have hodd : Pci.held? h "0000:00:03.0" .class' = some "03é000".toList :=
    Pci.held?_of_plainText? (by decide +kernel)
  have hvendor : Pci.held? h "0000:00:03.0" .vendor = some "8086".toList :=
    Pci.held?_of_plainText? (by decide +kernel)
  have hcut : Pci.takeBytes? 4 "03é000".toList = some "03é".toList := by decide +kernel
  have hfour : Pci.takeBytes? 4 "030000".toList = some "0300".toList := by decide +kernel
  have hb : ∀ device ∈ ["0000:00:02.0", "0000:00:03.0"], ¬ Pci.Breaks h device := by
    intro device hd
    rcases List.mem_pair.mp hd with rfl | rfl
    · exact Pci.not_breaks_of_takeBytes? hgood hfour
    · exact Pci.not_breaks_of_takeBytes? hodd hcut
  have hno : ¬ Pci.BreaksDown h := by
    rintro ⟨names, hl', device, hd, hbreaks⟩
    obtain rfl := Except.ok.inj (hl.symm.trans hl')
    exact hb device hd hbreaks
  obtain ⟨features, ho, hget⟩ := hspared .defaults _ hl hb
  have hclass : Pci.attribute? h "0000:00:03.0" .class' = some "03é".toList := by
    rw [Pci.attribute?, if_pos rfl, hodd, Option.bind_some, hcut]
  have hfeature : Pci.feature? PciSettings.defaults.toDeviceSettings
      ⟨Pci.attribute? h "0000:00:03.0"⟩ = some "03é_8086.present" := by
    have hfields : Pci.fields PciSettings.defaults.toDeviceSettings = [.class', .vendor] := by
      decide +kernel
    have hlisted : Pci.isListed PciSettings.defaults.toDeviceSettings "03é".toList = true := by
      decide +kernel
    have hname : Pci.featureName ["03é".toList, "8086".toList] = "03é_8086.present" := by
      decide +kernel
    have hv : Pci.attribute? h "0000:00:03.0" .vendor = some "8086".toList := hvendor
    simp only [Pci.feature?, hclass, hfields, hv, Option.bind_eq_bind, Option.bind_some, hlisted,
      if_true, List.mapM_cons, List.mapM_nil, Option.pure_def, hname]
  have hmiss : (Host.empty "/").list Pci.directory = .error .notFound :=
    Host.list_of_missing [] ["bus", "pci", "devices"] "sys" (by decide +kernel) (by decide +kernel)
      (by decide +kernel) (by decide +kernel) (by decide +kernel) (by decide +kernel)
  refine ⟨fun hp => hno ((hpanics _).mp hp), ⟨features, ho, ?_⟩,
    (hok ⟨rules⟩).resolve_left fun hp => hno ((hrules _).mp hp).1, hmissing _ _ hmiss⟩
  exact (hget _ _).mpr ⟨rfl, _, by simp, hfeature⟩

/-- A character across the fourth byte, and the display is lost as well. -/
theorem discover_panics_accent :
    let h : Host := .withDevices
      [("0000:00:02.0", [("class", "0x030000\n"), ("vendor", "0x10de\n")]),
        ("0000:00:03.0", [("class", "0x030é00\n")])] []
    let rules : List CustomRule := [⟨"gpu", [⟨some ⟨["0300"], [], []⟩, none⟩]⟩]
    (∃ text, h.readText "sys/bus/pci/devices/0000:00:03.0/class" = .ok text) ∧
      Panics (pci.discover (.pci .defaults) h) ∧ Panics (custom.discover (.custom ⟨rules⟩) h) := by
  intro h rules
  have hl : h.list Pci.directory = .ok ["0000:00:02.0", "0000:00:03.0"] :=
    Host.list_of_pairwise (by decide +kernel) (by decide +kernel) (by decide +kernel)
      (by decide +kernel) (by decide +kernel)
  have ht : h.readText "sys/bus/pci/devices/0000:00:03.0/class" = .ok "0x030é00\n" :=
    Host.readText_of_plainText? (by decide +kernel)
  have hheld : Pci.held? h "0000:00:03.0" .class' = some "030é00".toList :=
    Pci.held?_of_plainText? (by decide +kernel)
  have hcut : Pci.IsCutInside "030é00".toList :=
    ⟨"030".toList, 'é', "00".toList, by decide +kernel, by decide +kernel, by decide +kernel⟩
  have hb : Pci.BreaksDown h := ⟨_, hl, "0000:00:03.0", by simp, _, hheld, hcut⟩
  refine ⟨⟨_, ht⟩, Pci.panics_iff.mpr hb, (Custom.panics_iff ⟨rules⟩ h).mpr ⟨hb, ?_⟩⟩
  exact ⟨_, List.mem_cons_self, Custom.reaches_cons_of_pciId nofun⟩

end NodeSurvey.Source
