import Mathlib.Data.Set.Image
import NodeSurvey.Proofs.Config.Sections
import NodeSurvey.Proofs.Settings.Layouts

/-! Laying a patch over settings is a direct update of their fields. Whatever the settings were, the
way through their form in documents and back changes the fields that the patch gives and no other. -/

namespace NodeSurvey.Settings

open Yaml

namespace Member

variable {ρ : Type}

/-- The member is never written as a mapping, so that a patch takes its place as a whole. -/
def Flat (f : Member ρ) : Prop := ∀ a entries, f.encode a ≠ .mapping entries

theorem flat_devices {get : ρ → DeviceSettings} {put : DeviceSettings → ρ}
    (h : ∀ s, get (put s) = s) : ∀ f ∈ devices get put h, f.Flat := by
  simp [devices, Flat, encodeStrings]

theorem decoder_merge_patchFor {f : Member ρ} (hf : f.Flat) (p : Plain) (a : f.Content) :
    f.decoder ((f.encode a).merge (p.patchFor f.name)) =
      match p.given? f.name with
      | none => .ok a
      | some v => f.decoder v := by
  cases hv : p.given? f.name with
  | none => rw [Plain.patchFor, hv, Option.getD_none, Value.merge_null, f.decode_encode]
  | some v =>
    rw [Plain.patchFor, hv, Option.getD_some,
      Value.merge_of_not_mapping (hf a) (Plain.isNull_of_given? hv)]

end Member

namespace Slot

variable {ρ σ : Type}

/-- A part of a part of a record. -/
def within (part : ρ → σ) (s : Slot σ) : Slot ρ where
  name := s.name
  Content := s.Content
  decoder := s.decoder
  get := s.get ∘ part

end Slot

/-- What comes of laying a patch over a record, part by part. The parts are the whole record. The
patch fits if and only if what it gives for each part can be read as that part, and then each part
holds what was read or, if nothing is given for it, what it held. -/
structure Fieldwise {ρ : Type} (slots : Set (Slot ρ)) (p : Plain) (c : ρ)
    (result : Except DecodeError ρ) : Prop where
  complete : ∀ a b : ρ, (∀ s ∈ slots, s.get a = s.get b) → a = b
  isOk_iff : result.isOk = true ↔
    ∀ s ∈ slots, ∀ v, p.given? s.name = some v → (s.decoder v).isOk = true
  reads : ∀ c', result = .ok c' → ∀ s ∈ slots, s.Reads (p.given? s.name) c c'

/-- What comes of a patch for the one part of a record, if that part is a record again. -/
theorem Fieldwise.within {ρ σ : Type} {slots : Set (Slot σ)} {p : Plain} {c : ρ} {part : ρ → σ}
    {inner : Except DecodeError σ} {result : Except DecodeError ρ}
    (h : Fieldwise slots p (part c) inner) (hpart : part.Injective)
    (hok : result.isOk = true ↔ inner.isOk = true)
    (hresult : ∀ c', result = .ok c' → inner = .ok (part c')) :
    Fieldwise (Slot.within part '' slots) p c result where
  complete := by
    intro a b hab
    exact hpart (h.complete _ _ fun s hs => hab _ (Set.mem_image_of_mem _ hs))
  isOk_iff := by
    rw [hok, h.isOk_iff, Set.forall_mem_image]
    rfl
  reads := by
    rintro c' hc _ ⟨s, hs, rfl⟩
    exact h.reads (part c') (hresult c' hc) s hs

theorem Fieldwise.eq_ok {ρ : Type} {slots : Set (Slot ρ)} {p : Plain} {c : ρ}
    {result : Except DecodeError ρ} (h : Fieldwise slots p c result)
    (hp : ∀ name, p.given? name = none) : result = .ok c := by
  have hok : result.isOk = true := h.isOk_iff.mpr fun s _ v hv => by simp [hp] at hv
  cases hr : result with
  | error e =>
    rw [hr] at hok
    cases hok
  | ok c' =>
    refine congrArg Except.ok (h.complete c' c fun s hs => ?_)
    simpa [hp] using h.reads c' hr s hs

namespace Layout

variable {ρ : Type} [Documented ρ] (l : Layout ρ)

def slots : Set (Slot ρ) := {s | ∃ f ∈ l.members, f.toSlot = s}

theorem fieldwise (hflat : ∀ f ∈ l.members, f.Flat) (c : ρ) (p : Plain) :
    Fieldwise l.slots p c (overlay c p.value) where
  complete := fun a b h => l.ext a b fun f hf => h f.toSlot ⟨f, hf, rfl⟩
  isOk_iff := by
    rw [l.isOk_overlay_iff]
    constructor
    · rintro h _ ⟨f, hf, rfl⟩ v hv
      have hm := h f hf
      rwa [Member.decoder_merge_patchFor (hflat f hf), hv] at hm
    · intro h f hf
      rw [Member.decoder_merge_patchFor (hflat f hf)]
      cases hv : p.given? f.name with
      | none => rfl
      | some v => exact h f.toSlot ⟨f, hf, rfl⟩ v hv
  reads := by
    rintro c' hc _ ⟨f, hf, rfl⟩
    have hm := l.decoder_of_overlay hc f hf
    rw [Member.decoder_merge_patchFor (hflat f hf)] at hm
    cases hv : p.given? f.name with
    | none =>
      rw [hv] at hm
      exact (Except.ok.inj hm).symm
    | some v =>
      rw [hv] at hm
      exact hm

theorem fieldwise_nested {f : Member ρ} (hl : l.members = [f])
    (hw : ∀ a, ∃ base, f.encode a = encodeFields base) {slots : Set (Slot f.Content)} {c : ρ}
    {p q : Plain} (hn : p.Nests f.name q)
    (h : Fieldwise slots q (f.get c) (f.decoder ((f.encode (f.get c)).merge q.value))) :
    Fieldwise (Slot.within f.get '' slots) q c (overlay c p.value) := by
  have hf : ∀ g ∈ l.members, g = f := by simp [hl]
  have hmem : f ∈ l.members := by simp [hl]
  have hmerge : (f.encode (f.get c)).merge (p.patchFor f.name) =
      (f.encode (f.get c)).merge q.value := by
    obtain ⟨base, hb⟩ := hw (f.get c)
    rw [hb, hn.merge_patchFor]
  refine h.within (fun a b hab => l.ext a b fun g hg => hf g hg ▸ hab) ?_ fun c' hc => ?_
  · rw [l.isOk_overlay_iff, ← hmerge, hl, List.forall_mem_singleton]
  · rw [← hmerge]
    exact l.decoder_of_overlay hc f hmem

theorem flat_core : ∀ f ∈ core.members, f.Flat := by simp [core, Member.Flat]

theorem flat_cpuid : ∀ f ∈ cpuid.members, f.Flat := by simp [cpuid, Member.Flat, encodeStrings]

theorem flat_kernel : ∀ f ∈ kernel.members, f.Flat := by simp [kernel, Member.Flat, encodeStrings]

theorem flat_pci : ∀ f ∈ pci.members, f.Flat := Member.flat_devices fun _ => rfl

theorem flat_usb : ∀ f ∈ usb.members, f.Flat := Member.flat_devices fun _ => rfl

theorem core_fieldwise (c : CoreSettings) (p : Plain) :
    Fieldwise core.slots p c (overlay c p.value) :=
  core.fieldwise flat_core c p

theorem cpuid_fieldwise (c : CpuidSettings) (p : Plain) :
    Fieldwise cpuid.slots p c (overlay c p.value) :=
  cpuid.fieldwise flat_cpuid c p

theorem kernel_fieldwise (c : KernelSettings) (p : Plain) :
    Fieldwise kernel.slots p c (overlay c p.value) :=
  kernel.fieldwise flat_kernel c p

theorem pci_fieldwise (c : PciSettings) (p : Plain) :
    Fieldwise pci.slots p c (overlay c p.value) :=
  pci.fieldwise flat_pci c p

theorem usb_fieldwise (c : UsbSettings) (p : Plain) :
    Fieldwise usb.slots p c (overlay c p.value) :=
  usb.fieldwise flat_usb c p

end Layout

/-! Labels are a map from any keys, so that every key is a part of it. -/

def labelColumn (key : String) : Column (Dict String) where
  name := key
  Content := Option String
  decoder v := (Decode.string v).map some
  get d := d.get? key
  put d
    | some s => d.insert key s
    | none => d
  get_put d v a h := by
    cases hv : Decode.string v with
    | error e =>
      rw [hv] at h
      cases h
    | ok s =>
      rw [hv] at h
      obtain rfl := Except.ok.inj h
      simp [Dict.get?_insert]

@[simp] theorem name_labelColumn (key : String) : (labelColumn key).name = key := rfl

def labelSlots : Set (Slot (Dict String)) := Set.range fun key => (labelColumn key).toSlot

def readLabel (d : Dict String) (e : String × Value) : Except DecodeError (Dict String) :=
  (Decode.string e.2).map (d.insert e.1)

theorem reading_labels : Reading (Set.range labelColumn) readLabel where
  eq_of_name := by
    rintro _ ⟨k, rfl⟩ _ ⟨k', rfl⟩ h
    exact congrArg labelColumn h
  get_put_of_ne := by
    rintro _ ⟨k, rfl⟩ _ ⟨k', rfl⟩ h d a
    cases a with
    | none => rfl
    | some s => exact (Dict.get?_insert d k k' s).trans (if_neg (Ne.symm h))
  step_cases e := by
    refine .inr ⟨labelColumn e.1, ⟨e.1, rfl⟩, rfl, fun d => ?_⟩
    simp only [readLabel, labelColumn]
    cases Decode.string e.2 <;> rfl

theorem dict_encodeFields (m : List (String × Value)) :
    Decode.dict Decode.string (encodeFields m) = m.foldlM readLabel .empty := by
  have h (d : Dict String) : Decode.dictEntries Decode.string d
      (m.map fun e => (.string e.1, e.2)) = m.foldlM readLabel d := by
    induction m generalizing d with
    | nil => rfl
    | cons e m ih =>
      rw [List.map_cons, Decode.dictEntries, string_encode, List.foldlM_cons, readLabel]
      cases Decode.string e.2 with
      | error x => rfl
      | ok s => exact ih (d.insert e.1 s)
  exact h .empty

def writtenLabels (d : Dict String) : List (String × Value) :=
  d.toList.map fun e => (e.1, .string e.2)

def encodeLabels (d : Dict String) : Value := encodeFields (writtenLabels d)

theorem find_writtenLabels (d : Dict String) (k : String) :
    Dict.find k (writtenLabels d) = (d.get? k).map .string :=
  Dict.find_map Value.string k d.toList

theorem nodup_mergedLabels (d : Dict String) (p : Plain) :
    ((mergeNamed (writtenLabels d) p.entries).map Prod.fst).Nodup := by
  refine nodup_mergeNamed ?_
  rw [writtenLabels, List.map_map]
  exact d.nodup_keys

theorem find_mergedLabels (d : Dict String) (p : Plain) (k : String) :
    Dict.find k (mergeNamed (writtenLabels d) p.entries) =
      (p.given? k).or ((d.get? k).map .string) := by
  rw [p.find_mergeNamed_of_flat, find_writtenLabels]
  intro old ho
  rw [find_writtenLabels] at ho
  obtain ⟨s, -, rfl⟩ := Option.map_eq_some_iff.mp ho
  exact fun _ e => Value.noConfusion e

theorem labels_fieldwise (d : Dict String) (p : Plain) :
    Fieldwise labelSlots p d (Decode.dict Decode.string ((encodeLabels d).merge p.value)) := by
  have hnodup := nodup_mergedLabels d p
  rw [encodeLabels, Plain.value, merge_encodeFields, dict_encodeFields]
  refine ⟨fun a b h => Dict.ext fun k => h _ ⟨k, rfl⟩, ?_, fun d' hd => ?_⟩
  · rw [reading_labels.isOk_foldlM_iff hnodup, labelSlots, Set.forall_mem_range,
      Set.forall_mem_range]
    refine forall_congr' fun k => ?_
    simp only [name_labelColumn, find_mergedLabels]
    cases p.given? k with
    | none =>
      refine iff_of_true (fun v hv => ?_) (by simp)
      obtain ⟨s, -, rfl⟩ := Option.map_eq_some_iff.mp hv
      rfl
    | some v => rw [Option.some_or]
  · rintro _ ⟨k, rfl⟩
    have hr := reading_labels.reads_of_foldlM hnodup hd _ ⟨k, rfl⟩
    simp only [name_labelColumn, find_mergedLabels] at hr ⊢
    cases hp : p.given? k with
    | none =>
      rw [hp, Option.none_or] at hr
      cases hk : d.get? k with
      | none =>
        rw [hk] at hr
        exact hr.trans hk.symm
      | some s =>
        rw [hk] at hr
        exact (Except.ok.inj hr).symm.trans hk.symm
    | some v =>
      rw [hp, Option.some_or] at hr
      exact hr

theorem dict_encodeLabels (d : Dict String) :
    Decode.dict Decode.string (encodeLabels d) = .ok d := by
  have h := (labels_fieldwise d ⟨[], List.nodup_nil⟩).eq_ok fun _ => rfl
  rwa [Plain.value, encodeLabels, merge_encodeFields] at h

def Layout.fake : Layout FakeSettings where
  title := "FakeConfig"
  defaults := .defaults
  members := [.ofContent "labels" (Decode.dict Decode.string) encodeLabels dict_encodeLabels
    (·.labels) (fun r d => { r with labels := d }) fun _ _ => rfl]
  nodup := by simp
  independent := by simp
  ext := by
    rintro ⟨a⟩ ⟨b⟩ h
    simpa using h
  encode_eq _ := rfl
  decode_eq := rfl

theorem overlay_custom (c : CustomSettings) (v : Value) :
    overlay c v = if v.isNull then .ok c else decode v := by
  cases hv : v.isNull with
  | true =>
    obtain rfl : v = .null := by cases v with
      | null => rfl
      | _ => cases hv
    have hd : (decode (encode c) : Except DecodeError CustomSettings) =
        (Decode.list decode (.sequence (c.rules.map encode))).map .mk := rfl
    rw [overlay, Value.merge_null, hd, list_encode Layout.customRule.decode_encode]
    rfl
  | false =>
    rw [overlay, Value.merge_of_not_mapping (fun _ e => Value.noConfusion e) hv]
    rfl

theorem core_applyEntry (c : Config) (key patch : Value) :
    (c.applyEntry key patch).1.core =
      if Config.isCoreKey key then (overlay c.core patch).toOption.getD c.core else c.core := by
  simp only [Config.applyEntry]
  split
  · cases overlay c.core patch <;> rfl
  · split
    · split <;> rfl
    · rfl

end NodeSurvey.Settings
