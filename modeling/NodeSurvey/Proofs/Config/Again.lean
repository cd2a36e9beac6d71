import NodeSurvey.Proofs.Config.Memory
import NodeSurvey.Proofs.Settings.Labels
import NodeSurvey.Proofs.Yaml.Document

/-! Applying a document a second time. It is accepted again if and only if it was, and it changes
nothing but labels of the fake source that were not there and are contested in the document. -/

namespace NodeSurvey

open Yaml Settings

namespace SourceSettings

variable {s t : SourceSettings} {v : Value} {values : List Value}

theorem isOk_overlay_congr (h : s.sameKind t = true) (hv : v.Proper) :
    (s.overlay v).isOk = (t.overlay v).isOk := by
  have hmap {α : Type} (x : Except DecodeError α) (f : α → SourceSettings) :
      (x.map f).isOk = x.isOk := by cases x <;> rfl
  cases s <;> cases t <;> first
    | exact absurd h Bool.false_ne_true
    | simp only [overlay, hmap]
  case cpu => exact blind_cpu hv _ _
  case kernel => exact Layout.kernel.blind_of_flat Layout.flat_kernel hv _ _
  case pci => exact Layout.pci.blind_of_flat Layout.flat_pci hv _ _
  case usb => exact Layout.usb.blind_of_flat Layout.flat_usb hv _ _
  case fake => exact blind_fake hv _ _
  case custom => exact blind_custom v _ _

theorem layAll_overlay {α : Type} {lay : α → Value → Except DecodeError α} {f : α → SourceSettings}
    (h : ∀ a v, (f a).overlay v = (lay a v).map f) (a : α) (values : List Value) :
    Config.layAll overlay (f a) values = f (Config.layAll lay a values) := by
  induction values generalizing a with
  | nil => rfl
  | cons v values ih =>
    have hv : ((f a).overlay v).toOption.getD (f a) = f ((lay a v).toOption.getD a) := by
      rw [h]
      cases lay a v <;> rfl
    rw [Config.layAll, List.foldl_cons, hv]
    exact ih _

theorem layAll_overlay_again {α : Type} {lay : α → Value → Except DecodeError α}
    (f : α → SourceSettings) (h : ∀ a v, (f a).overlay v = (lay a v).map f) {a : α}
    (ha : Config.layAll lay (Config.layAll lay a values) values = Config.layAll lay a values) :
    Config.layAll overlay (Config.layAll overlay (f a) values) values =
      Config.layAll overlay (f a) values := by
  rw [layAll_overlay h, layAll_overlay h, ha]

theorem layAll_again (hs : ∀ c, s ≠ .fake c) (hv : ∀ v ∈ values, v.Proper) :
    Config.layAll overlay (Config.layAll overlay s values) values =
      Config.layAll overlay s values := by
  cases s with
  | none =>
    have h (s : SourceSettings) (hs : s.sameKind .none = true) :
        Config.layAll overlay s values = .none :=
      eq_none_of_sameKind (sameKind_trans (s.sameKind_layAll values) hs)
    rw [h .none rfl, h .none rfl]
  | fake c => exact absurd rfl (hs c)
  | cpu c => exact layAll_overlay_again .cpu (fun _ _ => rfl) (cpu_layAll_again hv c)
  | kernel c =>
    exact layAll_overlay_again .kernel (fun _ _ => rfl)
      (Layout.kernel.layAll_again Layout.flat_kernel hv c)
  | pci c =>
    exact layAll_overlay_again .pci (fun _ _ => rfl) (Layout.pci.layAll_again Layout.flat_pci hv c)
  | usb c =>
    exact layAll_overlay_again .usb (fun _ _ => rfl) (Layout.usb.layAll_again Layout.flat_usb hv c)
  | custom c => exact layAll_overlay_again .custom (fun _ _ => rfl) (custom_layAll_again values c)

end SourceSettings

namespace Config

/-- The patches of a text. Text that is no document, or none with sections, has none. -/
def patchesOf (text : String) : List Patch :=
  match Document.parse? text with
  | some (.mapping entries) => Patch.ofEntries entries
  | _ => []

theorem proper_of_mem_ofEntry {e : Value × Value} (he : e.2.Proper) {p : Patch}
    (hp : p ∈ Patch.ofEntry e) : p.value.Proper := by
  obtain ⟨key, v⟩ := e
  rw [Patch.ofEntry] at hp
  split at hp
  · obtain rfl := List.mem_singleton.mp hp
    exact he
  · split at hp
    · cases v with
      | null => cases hp
      | mapping entries =>
        obtain ⟨e', hm, hsome⟩ := List.mem_filterMap.mp hp
        obtain ⟨name, -, rfl⟩ := Option.map_eq_some_iff.mp hsome
        exact he.value e' hm
      | _ =>
        obtain rfl := List.mem_singleton.mp hp
        exact he
    · cases hp

theorem proper_of_mem_patchesOf {text : String} {p : Patch} (hp : p ∈ patchesOf text) :
    p.value.Proper := by
  rw [patchesOf] at hp
  split at hp
  · rename_i entries hparse
    obtain ⟨e, he, hpe⟩ := List.mem_flatMap.mp hp
    exact proper_of_mem_ofEntry ((Document.proper_of_parse? hparse).value e he) hpe
  · cases hp

theorem proper_of_mem_valuesFor {text : String} {a : Addressee} :
    ∀ v ∈ Patch.valuesFor a (patchesOf text), v.Proper := by
  intro v hv
  obtain ⟨p, hp, rfl⟩ := List.mem_map.mp hv
  exact proper_of_mem_patchesOf (List.mem_of_mem_filter hp)

theorem fst_applyDocument (c : Config) (text : String) :
    (c.applyDocument text).1 = (c.applyPatches (patchesOf text)).1 := by
  rw [applyDocument, patchesOf]
  cases Document.parse? text with
  | none => rfl
  | some v =>
    cases v with
    | mapping entries => exact congrArg Prod.fst (c.applyEntries_eq entries)
    | _ => rfl

/-! Whether a document is accepted. -/

/-- A patch fits a section of a configuration, whatever is in it. -/
def Fits (c : Config) (p : Patch) : Prop :=
  match p.addressee with
  | .core => (overlay c.core p.value).isOk = true
  | .sources => False
  | .source name => ∀ s, c.sources.get? name = some s → (s.overlay p.value).isOk = true

variable {c d : Config} {text name k : String} {p : Patch}

theorem refusal?_eq_none_iff (hp : p.value.Proper) (before : List Patch) :
    c.refusal? before p = none ↔ c.Fits p := by
  obtain ⟨addressee, v⟩ := p
  cases addressee with
  | core =>
    have hblind := Layout.core.blind_of_flat Layout.flat_core hp (c.coreAfter before) c.core
    simp only [refusal?, Fits, ← hblind]
    cases overlay (c.coreAfter before) v <;> simp [Except.isOk, Except.toBool]
  | sources => simp [refusal?, Fits]
  | source name =>
    cases hs : c.sources.get? name with
    | none => simp [refusal?, Fits, sourceAfter?, hs]
    | some s =>
      have hkind := s.sameKind_layAll (Patch.valuesFor (.source name) before)
      simp only [refusal?, Fits, sourceAfter?, hs, Option.map_some, Option.some.injEq,
        forall_eq', ← SourceSettings.isOk_overlay_congr hkind hp]
      cases (layAll SourceSettings.overlay s (Patch.valuesFor (.source name) before)).overlay v <;>
        simp [Except.isOk, Except.toBool]

theorem fits_applyDocument_iff (hp : p.value.Proper) :
    (c.applyDocument text).1.Fits p ↔ c.Fits p := by
  obtain ⟨addressee, v⟩ := p
  cases addressee with
  | core => exact Bool.eq_iff_iff.mp (Layout.core.blind_of_flat Layout.flat_core hp _ _)
  | sources => rfl
  | source name =>
    obtain ⟨values, hv⟩ := c.exists_get?_applyDocument text name
    simp only [Fits, hv]
    cases c.sources.get? name with
    | none => simp
    | some s =>
      have hkind := s.sameKind_layAll values
      simp [SourceSettings.isOk_overlay_congr hkind hp]

theorem accepted_again :
    ((c.applyDocument text).1.applyDocument text).2 = none ↔ (c.applyDocument text).2 = none := by
  have hpatches : ((c.applyDocument text).1.applyPatches (patchesOf text)).2 = none ↔
      (c.applyPatches (patchesOf text)).2 = none := by
    rw [error_applyPatches_eq_none_iff, error_applyPatches_eq_none_iff]
    refine forall₃_congr fun before p after => forall_congr' fun hl => ?_
    have hm : p ∈ patchesOf text := by simp [hl]
    have hp := proper_of_mem_patchesOf hm
    rw [refusal?_eq_none_iff hp, refusal?_eq_none_iff hp, fits_applyDocument_iff hp]
  generalize (c.applyDocument text).1 = d at hpatches ⊢
  rw [applyDocument, applyDocument]
  rw [patchesOf] at hpatches
  cases hparse : Document.parse? text with
  | none => simp
  | some v =>
    cases v with
    | mapping entries =>
      rw [hparse] at hpatches
      simp only [applyValue, applyEntries_eq]
      exact hpatches
    | _ => rfl

/-! What a document makes of each section when it is applied again. -/

/-- A label of the fake source. -/
def label? (c : Config) (name k : String) : Option String :=
  match c.sources.get? name with
  | some (.fake s) => s.labels.get? k
  | _ => none

/-- A label that the configuration lacks and that is contested in the document. -/
def Unsettled (c : Config) (text name k : String) : Prop :=
  (∃ s, c.sources.get? name = some (.fake s) ∧ s.labels.get? k = none) ∧
    ∃ v ∈ Patch.valuesFor (.source name) (patchesOf text), Contests k v

theorem core_applyDocument (c : Config) (text : String) :
    (c.applyDocument text).1.core =
      layAll overlay c.core (Patch.valuesFor .core (patchesOf text)) := by
  rw [fst_applyDocument, core_applyPatches, coreAfter]

theorem get?_applyDocument (c : Config) (text name : String) :
    (c.applyDocument text).1.sources.get? name = (c.sources.get? name).map fun s =>
      layAll SourceSettings.overlay s (Patch.valuesFor (.source name) (patchesOf text)) := by
  rw [fst_applyDocument, get?_applyPatches, sourceAfter?]

theorem core_again :
    ((c.applyDocument text).1.applyDocument text).1.core = (c.applyDocument text).1.core := by
  rw [core_applyDocument, core_applyDocument]
  exact Layout.core.layAll_again Layout.flat_core proper_of_mem_valuesFor c.core

theorem get?_again (h : ∀ s, c.sources.get? name ≠ some (.fake s)) :
    ((c.applyDocument text).1.applyDocument text).1.sources.get? name =
      (c.applyDocument text).1.sources.get? name := by
  rw [get?_applyDocument, get?_applyDocument, Option.map_map]
  cases hs : c.sources.get? name with
  | none => rfl
  | some s =>
    have hfake : ∀ f, s ≠ .fake f := fun f hf => h f (hf ▸ hs)
    exact congrArg some (SourceSettings.layAll_again hfake proper_of_mem_valuesFor)

theorem get?_applyDocument_of_fake {s : FakeSettings} (hs : c.sources.get? name = some (.fake s))
    (text : String) :
    (c.applyDocument text).1.sources.get? name =
      some (.fake (layAll overlay s (Patch.valuesFor (.source name) (patchesOf text)))) := by
  rw [get?_applyDocument, hs]
  exact congrArg some (SourceSettings.layAll_overlay (fun _ _ => rfl) s _)

theorem label?_again (h : ¬ c.Unsettled text name k) :
    ((c.applyDocument text).1.applyDocument text).1.label? name k =
      (c.applyDocument text).1.label? name k := by
  by_cases hfake : ∃ s, c.sources.get? name = some (.fake s)
  · obtain ⟨s, hs⟩ := hfake
    have honce := get?_applyDocument_of_fake hs text
    rw [label?, get?_applyDocument_of_fake honce, label?, honce]
    refine label_layAll_again proper_of_mem_valuesFor s ?_
    cases hk : s.labels.get? k with
    | some t => exact .inl rfl
    | none => exact .inr fun v hv hc => h ⟨⟨s, hs, hk⟩, v, hv, hc⟩
  · rw [label?, get?_again (by simpa using hfake), label?]

theorem eq_again (h : ∀ name k, ¬ c.Unsettled text name k) :
    ((c.applyDocument text).1.applyDocument text).1 = (c.applyDocument text).1 := by
  suffices hs : ((c.applyDocument text).1.applyDocument text).1.sources =
      (c.applyDocument text).1.sources from
    (congrArg₂ Config.mk core_again hs :)
  refine Dict.ext fun name => ?_
  by_cases hfake : ∃ s, c.sources.get? name = some (.fake s)
  · obtain ⟨s, hs⟩ := hfake
    have honce := get?_applyDocument_of_fake hs text
    have htwice := get?_applyDocument_of_fake honce text
    rw [htwice, honce]
    refine congrArg (some ∘ SourceSettings.fake ∘ FakeSettings.mk) (Dict.ext fun k => ?_)
    have hk := label?_again (h name k)
    rwa [label?, htwice, label?, honce] at hk
  · exact get?_again (by simpa using hfake)

end Config

end NodeSurvey
