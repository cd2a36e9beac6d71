import NodeSurvey.Proofs.Label.Naming
import NodeSurvey.Proofs.Source.Selection

/-! The stems of the known sources. No name of a source has a hyphen, so the first hyphen of a label
ends the name of the source that it comes from, however many hyphens the feature has. Only the local
source, which gives its features no stem, can give a label of another one. -/

namespace NodeSurvey

namespace Registry

variable {s : Source}

theorem shape_of_names :
    ∀ e ∈ known.map fun s => (s.name, s.prefixed),
      '-' ∉ e.1.toList ∧ (e.2 = false → e.1 = "local") := by
  decide

theorem not_mem_name (hs : s ∈ known) : '-' ∉ s.name.toList :=
  (shape_of_names _ (List.mem_map_of_mem hs)).1

theorem eq_local_of_prefixed (hs : s ∈ known) (hp : s.prefixed = false) : s = .local' :=
  eq_of_name_eq hs local_mem_known ((shape_of_names _ (List.mem_map_of_mem hs)).2 hp)

end Registry

variable {w w' : Label.Whitelist} {h h' : Host} {active : List ActiveSource} {a b : ActiveSource}
variable {name : String}

namespace ActiveSource

theorem label?_of_labels {ls : Labels} (hl : a.labels w h = .ok ls) :
    a.label? w h name = ls.get? name := by
  rw [label?, hl]
  rfl

/-- A label without a domain is the name of its source, a hyphen and a feature. -/
theorem exists_feature_of_prefixed (hp : a.source.prefixed = true) (hname : '/' ∉ name.toList)
    (hv : a.label? w h name ≠ none) :
    ∃ feature, name.toList = a.source.name.toList ++ '-' :: feature := by
  obtain ⟨value, hv⟩ := Option.ne_none_iff_exists'.mp hv
  obtain ⟨_, _, e, _, he⟩ := exists_feature_of_label? hv
  have hl : name = Label.labelName (Label.stem a.source.name a.source.prefixed) e.1 :=
    congrArg Prod.fst (Label.ofFeature_eq_ok_iff.mp he).2.2.2
  rw [Label.labelName_eq] at hl
  split at hl
  · rename_i hm
    exact absurd (hl ▸ hm) hname
  · refine ⟨e.1.toList, ?_⟩
    simp [hl, Label.stem, hp]

theorem disjoint_of_prefixed (ha : a.source ∈ Registry.known) (hb : b.source ∈ Registry.known)
    (hpa : a.source.prefixed = true) (hpb : b.source.prefixed = true) (hne : a.source ≠ b.source)
    (hname : '/' ∉ name.toList) : a.label? w h name = none ∨ b.label? w' h' name = none := by
  by_contra hboth
  obtain ⟨hva, hvb⟩ := not_or.mp hboth
  obtain ⟨fa, hfa⟩ := exists_feature_of_prefixed hpa hname hva
  obtain ⟨fb, hfb⟩ := exists_feature_of_prefixed hpb hname hvb
  have hsplit : a.source.name.toList :: Text.split '-' fa =
      b.source.name.toList :: Text.split '-' fb := by
    rw [← Text.split_append_cons (Registry.not_mem_name ha),
      ← Text.split_append_cons (Registry.not_mem_name hb), ← hfa, ← hfb]
  have hsame : a.source.name = b.source.name := String.toList_inj.mp (List.cons.inj hsplit).1
  exact hne (Registry.eq_of_name_eq ha hb hsame)

end ActiveSource

section Selected

variable (hs : (active.map (·.source)).Sublist Registry.known)
include hs

theorem nodup_selected : (active.map (·.source.name)).Nodup := by
  have hn := Registry.nodup_names.sublist (hs.map (·.name))
  rwa [List.map_map] at hn

theorem local_of_shared (ha : a ∈ active) (hb : b ∈ active) (hne : a ≠ b)
    (hname : '/' ∉ name.toList) (hva : a.label? w h name ≠ none)
    (hvb : b.label? w h name ≠ none) : a.source = .local' ∨ b.source = .local' := by
  have hka : a.source ∈ Registry.known := hs.subset (List.mem_map_of_mem ha)
  have hkb : b.source ∈ Registry.known := hs.subset (List.mem_map_of_mem hb)
  have hsources : a.source ≠ b.source := fun he =>
    hne (List.inj_on_of_nodup_map (nodup_selected hs) ha hb (congrArg Source.name he))
  cases hpa : a.source.prefixed with
  | false => exact Or.inl (Registry.eq_local_of_prefixed hka hpa)
  | true =>
    cases hpb : b.source.prefixed with
    | false => exact Or.inr (Registry.eq_local_of_prefixed hkb hpb)
    | true =>
      rcases ActiveSource.disjoint_of_prefixed hka hkb hpa hpb hsources hname with hn | hn
      · exact absurd hn hva
      · exact absurd hn hvb

theorem exists_rival {value : String} (ha : a ∈ active) (hname : '/' ∉ name.toList)
    (hv : a.label? w h name = some value)
    (hlost : (discoverAll w active h).value.get? name ≠ some value) :
    ∃ b ∈ active, ∃ other, b.label? w h name = some other ∧
      (discoverAll w active h).value.get? name = some other ∧
      (a.source = .local' ∨ b.source = .local') := by
  have hva : a.label? w h name ≠ none := by simp [hv]
  have hsome : (discoverAll w active h).value.get? name ≠ none := by
    rw [get?_discoverAll]
    exact fun hn => hva (List.findSome?_eq_none_iff.mp hn a (List.mem_reverse.mpr ha))
  obtain ⟨other, ho⟩ := Option.ne_none_iff_exists'.mp hsome
  obtain ⟨before, b, after, hsplit, hb, _⟩ := get?_discoverAll_eq_some_iff.mp ho
  have hmem : b ∈ active := hsplit ▸ List.mem_append_right _ List.mem_cons_self
  have hvb : b.label? w h name ≠ none := by simp [hb]
  have hne : a ≠ b := by
    rintro rfl
    exact hlost (ho.trans (hb.symm.trans hv))
  exact ⟨b, hmem, other, hb, ho, local_of_shared hs ha hmem hne hname hva hvb⟩

end Selected

/-- Two known sources with stems share no label without a domain, whatever their settings and
whatever they find on whichever hosts. So of two chosen sources with such a label one is the local
source, and a chosen source loses such a label only to the local one or as the local one. -/
theorem labels_prefixed_disjoint :
    (∀ (w w' : Label.Whitelist) (h h' : Host) (a b : ActiveSource),
      a.source ∈ Registry.known → b.source ∈ Registry.known → a.source ≠ b.source →
      a.source.prefixed = true → b.source.prefixed = true →
      ∀ ls more, a.labels w h = .ok ls → b.labels w' h' = .ok more →
        ∀ name, '/' ∉ name.toList → ls.get? name = none ∨ more.get? name = none) ∧
    (∀ (w : Label.Whitelist) (h : Host) (request : List String) (active : List ActiveSource),
      active.map (·.source) = (Registry.select request).value →
      (∀ before a between b after, active = before ++ a :: (between ++ b :: after) →
        ∀ ls more, a.labels w h = .ok ls → b.labels w h = .ok more →
          ∀ name, '/' ∉ name.toList → ls.get? name ≠ none → more.get? name ≠ none →
            a.source = .local' ∨ b.source = .local') ∧
      (∀ a ∈ active, ∀ ls, a.labels w h = .ok ls →
        ∀ name value, '/' ∉ name.toList → ls.get? name = some value →
          (discoverAll w active h).value.get? name ≠ some value →
          ∃ b ∈ active, ∃ more other, b.labels w h = .ok more ∧ more.get? name = some other ∧
            (discoverAll w active h).value.get? name = some other ∧
            (a.source = .local' ∨ b.source = .local'))) := by
  refine ⟨fun w w' h h' a b ha hb hne hpa hpb ls more hl hm name hname => ?_,
    fun w h request active hs => ⟨?_, ?_⟩⟩
  · rw [← ActiveSource.label?_of_labels hl, ← ActiveSource.label?_of_labels hm]
    exact ActiveSource.disjoint_of_prefixed ha hb hpa hpb hne hname
  · rintro before a between b after rfl ls more hl hm name hname hva hvb
    rw [← ActiveSource.label?_of_labels hl] at hva
    rw [← ActiveSource.label?_of_labels hm] at hvb
    have hk := hs ▸ Registry.select_sublist request
    have hn := List.Nodup.of_map _ (nodup_selected hk)
    have hne : a ≠ b := fun he =>
      (List.nodup_cons.mp (List.nodup_append.mp hn).2.1).1 (by simp [he])
    exact local_of_shared hk (by simp) (by simp) hne hname hva hvb
  · intro a ha ls hl name value hname hv hlost
    have hk : (active.map (·.source)).Sublist Registry.known :=
      hs ▸ Registry.select_sublist request
    rw [← ActiveSource.label?_of_labels hl] at hv
    obtain ⟨b, hb, other, hvb, ho, hlocal⟩ := exists_rival hk ha hname hv hlost
    obtain ⟨more, hm, hmo⟩ := ActiveSource.label?_eq_some_iff.mp hvb
    exact ⟨b, hb, more, other, hm, hmo, ho, hlocal⟩

/-- A host on which no module of the kernel is loaded. -/
def Host.withoutModules : Host :=
  ⟨"/", [(["proc"], .directory), (["proc", "modules"], .file (.text "") false)]⟩

theorem outcome_withoutModules (rule : String) :
    ActiveSource.outcome ⟨.custom, .custom ⟨[⟨rule, [⟨none, some []⟩]⟩]⟩⟩ .withoutModules =
      .ok (.ofList [(rule, .present)]) := by
  have hf : Host.withoutModules.find "proc/modules" = _ :=
    Host.find_of_isPlain (by decide +kernel) (by decide +kernel) (by rfl)
  have hloaded : Source.Custom.loadedModules .withoutModules = .ok [] := by
    rw [Source.Custom.loadedModules, Host.readTrimmed, Host.readText, hf]
    rfl
  have hd : Source.Custom.discover ⟨[⟨rule, [⟨none, some []⟩]⟩]⟩ .withoutModules =
      pure (.ofList [(rule, .present)]) := by
    simp only [Source.Custom.discover, Source.Custom.discoverRules, Source.Custom.matchesAny,
      Source.Custom.matchesEntry, Source.Custom.matchesPci, Source.Custom.matchesModules,
      Source.Custom.modules, Source.Custom.lookOnce, hloaded]
    rfl
  exact congrArg (·.run.value) hd

/-- Features that are named like the labels of each other's source, and a label of the local source
that is lost to a made-up one. -/
theorem labels_prefixed_disjoint_named :
    let w : Label.Whitelist := ⟨"", fun _ => true⟩
    let fake : ActiveSource := ⟨.fake, .fake ⟨.ofList [("custom-x", "1")]⟩⟩
    let custom : ActiveSource := ⟨.custom, .custom ⟨[⟨"fake-x", [⟨none, some []⟩]⟩]⟩⟩
    let active := (Registry.select ["local", "fake"]).value.map ActiveSource.start
    (∃ ls more, fake.labels w .withoutModules = .ok ls ∧
      custom.labels w .withoutModules = .ok more ∧ ls.get? "fake-custom-x" = some "1" ∧
      more.get? "custom-fake-x" = some "true" ∧
      (ls.get? "custom-fake-x" = none ∨ more.get? "custom-fake-x" = none)) ∧
    ∃ b ∈ active, ∃ more other, b.labels w .withFeatureFile = .ok more ∧
      more.get? "fake-fakefeature1" = some other ∧
      (discoverAll w active .withFeatureFile).value.get? "fake-fakefeature1" = some other ∧
      ((ActiveSource.start .local').source = .local' ∨ b.source = .local') := by
  intro w fake custom active
  have hfake : fake.labels w .withoutModules = .ok (.ofList [("fake-custom-x", "1")]) := by
    rw [ActiveSource.labels_of_outcome_ok (rfl : fake.outcome .withoutModules = .ok _)]
    refine congrArg (fun l => Except.ok (Dict.ofList l)) ?_
    decide +kernel
  have hcustom : custom.labels w .withoutModules = .ok (.ofList [("custom-fake-x", "true")]) := by
    rw [ActiveSource.labels_of_outcome_ok (outcome_withoutModules "fake-x")]
    refine congrArg (fun l => Except.ok (Dict.ofList l)) ?_
    decide +kernel
  have hlocal : ActiveSource.start .local' ∈ active := List.mem_map_of_mem
    (Registry.mem_select_of_name (by decide) Registry.local_mem_known (by decide +kernel))
  have hmade : ActiveSource.start .fake ∈ active := List.mem_map_of_mem
    (Registry.mem_select_of_name (by decide) Registry.fake_mem_known (by decide +kernel))
  have hs := active_withDefaults ["local", "fake"]
  have hk : (active.map (·.source)).Sublist Registry.known :=
    hs ▸ Registry.select_sublist ["local", "fake"]
  have hd : (discoverAll w active .withFeatureFile).value.get? "fake-fakefeature1" = some "true" :=
    get?_discoverAll_of_fake hk hmade rfl (by decide +kernel)
  have hlaw := labels_prefixed_disjoint
  refine ⟨⟨_, _, hfake, hcustom, by decide +kernel, by decide +kernel, ?_⟩, ?_⟩
  · exact hlaw.1 w w _ _ fake custom Registry.fake_mem_known (by simp [custom, Registry.known,
      Registry.production]) (fun he => absurd (congrArg Source.name he) (by decide)) rfl rfl _ _
      hfake hcustom "custom-fake-x" (by decide)
  · exact (hlaw.2 w .withFeatureFile _ active hs).2 _ hlocal _ labels_withFeatureFile
      "fake-fakefeature1" "false" (by decide) (by decide +kernel) (by rw [hd]; decide)

end NodeSurvey
