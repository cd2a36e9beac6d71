import NodeSurvey.Proofs.Host.Walk
import NodeSurvey.Proofs.Label.LastWriter
import NodeSurvey.Proofs.Source.Contribution
import NodeSurvey.Proofs.Source.Request

/-! How the order of the registry decides between sources. A choice keeps that order, in which only
the sources for tests stand behind the local one. -/

namespace NodeSurvey.Registry

variable {request : List String} {s t : Source}

theorem select_sublist (request : List String) : (select request).value.Sublist known := by
  rw [value_select]
  split
  · exact List.sublist_append_left production testing
  · exact List.filter_sublist

theorem mem_select :
    s ∈ (select request).value ↔
      isForAll request = true ∧ s ∈ production ∨
      isForAll request = false ∧ s ∈ known ∧ s.name ∈ requestedNames request := by
  rw [value_select]
  cases isForAll request <;> simp [List.mem_filter]

theorem mem_select_of_name (hall : isForAll request = false) (hk : s ∈ known)
    (hr : s.name ∈ requestedNames request) : s ∈ (select request).value :=
  mem_select.mpr (Or.inr ⟨hall, hk, hr⟩)

theorem local_mem_known : Source.local' ∈ known := by simp [known, production]

theorem fake_mem_known : Source.fake ∈ known := by simp [known, testing]

theorem panicFake_mem_known : Source.panicFake ∈ known := by simp [known, testing]

theorem eq_of_name_eq (hs : s ∈ known) (ht : t ∈ known) (hn : s.name = t.name) : s = t :=
  List.inj_on_of_nodup_map nodup_names hs ht hn

theorem pairwise_names :
    (known.map (·.name)).Pairwise fun m n =>
      (m = "local" → n = "fake" ∨ n = "panic_fake") ∧ (m = "fake" → n = "panic_fake") := by
  decide

theorem requested_of_fake (hs : s ∈ (select request).value) (hn : s.name = "fake") :
    isForAll request = false ∧ "fake" ∈ requestedNames request := by
  rcases mem_select.mp hs with ⟨_, hp⟩ | ⟨hr, _, hm⟩
  · have hf : "fake" ∈ production.map (·.name) := hn ▸ List.mem_map_of_mem hp
    exact absurd hf (by decide)
  · exact ⟨hr, hn ▸ hm⟩

end NodeSurvey.Registry

namespace NodeSurvey.Source.Local

variable {h : Host} {name text : String} {executable : Bool}

theorem value_discover_of_file (hhooks : h.list hookDirectory = .error .notFound)
    (hfiles : h.list featureDirectory = .ok [name])
    (hf : h.find (featureDirectory ++ "/" ++ name) = .ok (.file (.text text) executable)) :
    (discover h).run.value = .ok (Dict.ofList (features text)) := by
  have hheld : Holds h h.readText name (some text) := holds_readText_iff.mpr ⟨_, _, hf, rfl⟩
  have hc : Contributes h h.run h.readText ([] ++ [some text]) :=
    .intro (.missing hhooks) (.present hfiles) .nil (.cons hheld .nil)
  simpa [discover] using value_discoverBy hc

end NodeSurvey.Source.Local

namespace NodeSurvey

section Selected

variable {w : Label.Whitelist} {h : Host} {active : List ActiveSource} {a b : ActiveSource}
variable {name value : String}

theorem ActiveSource.label?_panicFake (ha : a.source = .panicFake) :
    a.label? w h name = none := by
  refine label?_of_trouble ?_
  rw [outcome, find, Source.find, ha]
  rfl

variable (hs : (active.map (·.source)).Sublist Registry.known)
include hs

theorem exists_later (ha : a ∈ active) :
    ∃ before after, active = before ++ a :: after ∧ ∀ b ∈ after,
      (a.source.name = "local" → b.source.name = "fake" ∨ b.source.name = "panic_fake") ∧
      (a.source.name = "fake" → b.source.name = "panic_fake") := by
  obtain ⟨before, after, rfl⟩ := List.append_of_mem ha
  have hp := Registry.pairwise_names.sublist (hs.map (·.name))
  rw [List.map_map, List.pairwise_map] at hp
  exact ⟨before, after, rfl, (List.pairwise_cons.mp (List.pairwise_append.mp hp).2.1).1⟩

theorem label?_of_name (hb : b ∈ active) (hn : b.source.name = "panic_fake") :
    b.label? w h name = none := by
  have hk : b.source ∈ Registry.known := hs.subset (List.mem_map_of_mem hb)
  exact ActiveSource.label?_panicFake (Registry.eq_of_name_eq hk Registry.panicFake_mem_known hn)

theorem get?_discoverAll_of_fake (hb : b ∈ active) (hn : b.source.name = "fake")
    (hv : b.label? w h name = some value) :
    (discoverAll w active h).value.get? name = some value := by
  obtain ⟨before, after, hl, hlater⟩ := exists_later hs hb
  refine get?_discoverAll_eq_some_iff.mpr ⟨before, b, after, hl, hv, fun c hc => ?_⟩
  have hm : c ∈ active := hl ▸ List.mem_append_right _ (List.mem_cons_of_mem _ hc)
  exact label?_of_name hs hm ((hlater c hc).2 hn)

theorem get?_discoverAll_of_local (ha : a ∈ active) (hn : a.source.name = "local")
    (hv : a.label? w h name = some value)
    (hf : ∀ b ∈ active, b.source.name = "fake" → b.label? w h name = none) :
    (discoverAll w active h).value.get? name = some value := by
  obtain ⟨before, after, hl, hlater⟩ := exists_later hs ha
  refine get?_discoverAll_eq_some_iff.mpr ⟨before, a, after, hl, hv, fun c hc => ?_⟩
  have hm : c ∈ active := hl ▸ List.mem_append_right _ (List.mem_cons_of_mem _ hc)
  rcases (hlater c hc).1 hn with hc | hc
  · exact hf c hm hc
  · exact label?_of_name hs hm hc

end Selected

/-- A host with one feature file, in which the operator states one label of its own and one that the
source with made-up features gives too. -/
def Host.withFeatureFile : Host :=
  let directories := ["etc", "kubernetes", "node-feature-discovery", "features.d"]
  let text := "rack=west\nfake-fakefeature1=false\n"
  ⟨"/", (directories.inits.tail.map fun place => (place, .directory)) ++
    [(directories ++ ["site"], .file (.text text) false)]⟩

theorem labels_withFeatureFile :
    (ActiveSource.start .local').labels ⟨"", fun _ => true⟩ .withFeatureFile =
      .ok (.ofList [("fake-fakefeature1", "false"), ("rack", "west")]) := by
  have hhooks : Host.withFeatureFile.list Source.Local.hookDirectory = .error .notFound :=
    Host.list_of_missing ["etc", "kubernetes", "node-feature-discovery"] [] "source.d"
      (by decide +kernel) (by decide +kernel) (by decide +kernel) (by decide +kernel)
      (by decide +kernel) (by decide +kernel)
  have hfiles : Host.withFeatureFile.list Source.Local.featureDirectory = .ok ["site"] :=
    (Host.list_of_isPlain (by decide +kernel) (by decide +kernel) (by decide +kernel)).trans
      (by decide +kernel)
  have hf : Host.withFeatureFile.find (Source.Local.featureDirectory ++ "/" ++ "site") = _ :=
    Host.find_of_isPlain (by decide +kernel) (by decide +kernel) (by rfl)
  have ho : (ActiveSource.start .local').outcome .withFeatureFile = _ :=
    Source.Local.value_discover_of_file hhooks hfiles hf
  rw [ActiveSource.labels_of_outcome_ok ho]
  refine congrArg (fun l => Except.ok (Dict.ofList l)) ?_
  decide +kernel

theorem active_withDefaults (request : List String) :
    (((Registry.select request).value.map ActiveSource.start).map (·.source)) =
      (Registry.select request).value := by
  simp [ActiveSource.start, Function.comp_def]

/-- The local source wins over every source for use: what it gives is lost only where the chosen
`fake` gives the same label another value, and then the value of `fake` is the one that is kept. -/
theorem discoverAll_local (w : Label.Whitelist) (h : Host) (request : List String)
    (active : List ActiveSource) (hs : active.map (·.source) = (Registry.select request).value)
    (a : ActiveSource) (ha : a ∈ active) (hn : a.source.name = "local") (ls : Labels)
    (hl : a.labels w h = .ok ls) (name value : String) (hv : ls.get? name = some value) :
    ((discoverAll w active h).value.get? name = some value ↔
      ∀ b ∈ active, b.source.name = "fake" → ∀ more other, b.labels w h = .ok more →
        more.get? name = some other → other = value) ∧
    (∀ b ∈ active, b.source.name = "fake" → ∀ more other, b.labels w h = .ok more →
      more.get? name = some other → (discoverAll w active h).value.get? name = some other) ∧
    (Registry.isForAll request = true ∨ "fake" ∉ Registry.requestedNames request →
      (discoverAll w active h).value.get? name = some value) := by
  have hk : (active.map (·.source)).Sublist Registry.known := hs ▸ Registry.select_sublist request
  have hv : a.label? w h name = some value := ActiveSource.label?_eq_some_iff.mpr ⟨ls, hl, hv⟩
  have hfake : ∀ b ∈ active, b.source.name = "fake" → ∀ more other, b.labels w h = .ok more →
      more.get? name = some other → (discoverAll w active h).value.get? name = some other :=
    fun b hb hn more other hm ho =>
      get?_discoverAll_of_fake hk hb hn (ActiveSource.label?_eq_some_iff.mpr ⟨more, hm, ho⟩)
  refine ⟨⟨fun hd b hb hn more other hm ho => ?_, fun hagree => ?_⟩, hfake, fun hr => ?_⟩
  · exact Option.some.inj ((hfake b hb hn more other hm ho).symm.trans hd)
  · -- If `fake` gives the label, its value is kept and agrees; else nothing behind `local` gives it.
    by_cases hf : ∃ b ∈ active, b.source.name = "fake" ∧ b.label? w h name ≠ none
    · obtain ⟨b, hb, hbn, hbl⟩ := hf
      obtain ⟨other, ho⟩ := Option.ne_none_iff_exists'.mp hbl
      obtain ⟨more, hm, ho⟩ := ActiveSource.label?_eq_some_iff.mp ho
      rw [← hagree b hb hbn more other hm ho]
      exact hfake b hb hbn more other hm ho
    · exact get?_discoverAll_of_local hk ha hn hv fun b hb hbn =>
        not_not.mp fun hbl => hf ⟨b, hb, hbn, hbl⟩
  · refine get?_discoverAll_of_local hk ha hn hv fun b hb hbn => ?_
    obtain ⟨hall, hm⟩ := Registry.requested_of_fake (hs ▸ List.mem_map_of_mem hb) hbn
    rcases hr with hr | hr
    · exact absurd hr (by simp [hall])
    · exact absurd hm hr

/-- The operator's own label stays, however the two sources are asked for. -/
theorem discoverAll_local_kept :
    let w : Label.Whitelist := ⟨"", fun _ => true⟩
    let request := ["panic_fake", " local", "fake", "local"]
    let active := (Registry.select request).value.map ActiveSource.start
    active.map (·.source.name) = ["local", "fake", "panic_fake"] ∧
      (discoverAll w active .withFeatureFile).value.get? "rack" = some "west" := by
  intro w request active
  have hnames : active.map (·.source.name) = ["local", "fake", "panic_fake"] := by
    decide +kernel
  have hlocal : ActiveSource.start .local' ∈ active := List.mem_map_of_mem
    (Registry.mem_select_of_name (by decide +kernel) Registry.local_mem_known (by decide +kernel))
  have hkept := (discoverAll_local w .withFeatureFile request active
    (active_withDefaults request) _ hlocal rfl _ labels_withFeatureFile "rack" "west"
    (by decide +kernel)).1
  have hsilent : (ActiveSource.start .fake).label? w .withFeatureFile "rack" = none := by
    decide +kernel
  refine ⟨hnames, hkept.mpr fun b hb hn more other hl ho => ?_⟩
  obtain ⟨s, hs, rfl⟩ := List.mem_map.mp hb
  have hk : s ∈ Registry.known := (Registry.select_sublist request).subset hs
  obtain rfl := Registry.eq_of_name_eq hk Registry.fake_mem_known hn
  rw [ActiveSource.label?_eq_none_iff.mp hsilent more hl] at ho
  cases ho

/-- A made-up feature wins over what the operator put on the host. -/
theorem discoverAll_local_overridden :
    ¬ ∀ (w : Label.Whitelist) (h : Host) (request : List String) (active : List ActiveSource),
      active.map (·.source) = (Registry.select request).value →
      ∀ a ∈ active, a.source.name = "local" → ∀ ls, a.labels w h = .ok ls →
      ∀ name value, ls.get? name = some value →
        (discoverAll w active h).value.get? name = some value := by
  intro hall
  let request := ["local", "fake"]
  let active := (Registry.select request).value.map ActiveSource.start
  have hlocal : ActiveSource.start .local' ∈ active := List.mem_map_of_mem
    (Registry.mem_select_of_name (by decide) Registry.local_mem_known (by decide +kernel))
  have hfake : ActiveSource.start .fake ∈ active := List.mem_map_of_mem
    (Registry.mem_select_of_name (by decide) Registry.fake_mem_known (by decide +kernel))
  have hs := active_withDefaults request
  have hk : (active.map (·.source)).Sublist Registry.known :=
    hs ▸ Registry.select_sublist request
  have hmade : (ActiveSource.start .fake).label? ⟨"", fun _ => true⟩ .withFeatureFile
      "fake-fakefeature1" = some "true" := by decide +kernel
  have hstated := hall _ _ request active hs _ hlocal rfl _ labels_withFeatureFile
    "fake-fakefeature1" "false" (by decide +kernel)
  rw [get?_discoverAll_of_fake hk hfake rfl hmade] at hstated
  exact absurd hstated (by decide)

end NodeSurvey
