import NodeSurvey.Config.Reload
import NodeSurvey.Proofs.Config.Sections
import NodeSurvey.Proofs.Dict
import NodeSurvey.Source.Registry

/-! Loading has no memory. Whatever the sources of an agent went through before, a load leaves each
of them with its own section of a configuration that is built from nothing, and what they discover
then depends on that alone. -/

namespace NodeSurvey

namespace SourceSettings

variable {r s t : SourceSettings}

theorem sameKind_refl (s : SourceSettings) : s.sameKind s = true := by cases s <;> rfl

theorem sameKind_trans (hr : r.sameKind s = true) (hs : s.sameKind t = true) :
    r.sameKind t = true := by
  cases r <;> cases s <;> first
    | exact absurd hr Bool.false_ne_true
    | cases t <;> first | rfl | exact absurd hs Bool.false_ne_true

theorem eq_none_of_sameKind (h : s.sameKind .none = true) : s = .none := by
  cases s <;> first | rfl | exact absurd h Bool.false_ne_true

theorem sameKind_of_map {α : Type} {x : Except Settings.DecodeError α} {f : α → SourceSettings}
    (hf : ∀ a, (f a).sameKind s = true) (h : x.map f = .ok t) : t.sameKind s = true := by
  cases x with
  | error e => cases h
  | ok a =>
    cases h
    exact hf a

theorem sameKind_of_overlay {v : Yaml.Value} (h : s.overlay v = .ok t) :
    t.sameKind s = true := by
  cases s <;> exact sameKind_of_map (fun _ => rfl) h

theorem sameKind_layAll (s : SourceSettings) (values : List Yaml.Value) :
    (Config.layAll overlay s values).sameKind s = true := by
  induction values generalizing s with
  | nil => exact s.sameKind_refl
  | cons v values ih =>
    cases h : s.overlay v with
    | error e => simpa [Config.layAll, h, Except.toOption] using ih s
    | ok s' =>
      have hk := sameKind_trans (ih s') (sameKind_of_overlay h)
      simpa [Config.layAll, h, Except.toOption] using hk

end SourceSettings

namespace Config

/-- The section of every source is of the kind that the source takes. -/
def Suits (c : Config) (sources : List Source) : Prop :=
  ∀ s ∈ sources, ∃ given, c.sources.get? s.name = some given ∧
    given.sameKind s.defaults = true

variable {c : Config} {sources : List Source}

theorem suits_ofDefaults (hn : (sources.map (·.name)).Nodup) :
    (ofDefaults (sources.map fun s => (s.name, s.defaults))).Suits sources := by
  intro s hs
  refine ⟨s.defaults, ?_, s.defaults.sameKind_refl⟩
  have hl : ((sources.map fun s => (s.name, s.defaults)).map Prod.fst).Nodup := by
    rwa [List.map_map]
  exact (Dict.get?_ofList_eq_some_iff hl).mpr (List.mem_map_of_mem hs)

theorem Suits.applyDocument (h : c.Suits sources) (text : String) :
    (c.applyDocument text).1.Suits sources := by
  intro s hs
  obtain ⟨given, hg, hk⟩ := h s hs
  obtain ⟨values, hv⟩ := c.exists_get?_applyDocument text s.name
  rw [hg, Option.map_some] at hv
  exact ⟨_, hv, SourceSettings.sameKind_trans (given.sameKind_layAll values) hk⟩

theorem Suits.force (h : c.Suits sources) (forced : Option Bool) :
    (c.force forced).Suits sources := by
  cases forced <;> exact h

/-! Loading in terms of the documents that are applied. -/

theorem applyDocument_empty (c : Config) : c.applyDocument "" = (c, none) := rfl

theorem value_applyFile (c : Config) (path : String) (file : FileState) :
    (c.applyFile path file).value = (c.applyDocument (file.toOption.getD "")).1 := by
  cases file with
  | error e => exact congrArg Prod.fst c.applyDocument_empty.symm
  | ok text =>
    simp only [applyFile, Except.toOption, Option.getD_some]
    obtain ⟨c', e⟩ := c.applyDocument text
    cases e <;> rfl

theorem value_applyOptions (c : Config) (options : String) :
    (c.applyOptions options).value = (c.applyDocument options).1 := by
  rw [applyOptions]
  obtain ⟨c', e⟩ := c.applyDocument options
  cases e <;> rfl

/-- The configuration that a file and options make out of the defaults of the sources. An unreadable
file counts as an empty one. -/
def layered (sources : List Source) (file : FileState) (options : String) (forced : Option Bool) :
    Config :=
  let defaults := ofDefaults (sources.map fun s => (s.name, s.defaults))
  let c := (defaults.applyDocument (file.toOption.getD "")).1
  (c.applyDocument options).1.force forced

theorem value_load (sources : List Source) (path : String) (file : FileState) (options : String)
    (forced : Option Bool) :
    (load sources path file options forced).value = layered sources file options forced := by
  simp only [load, Logged.value_bind, Logged.value_pure, value_applyFile, value_applyOptions,
    layered]

theorem suits_layered (hn : (sources.map (·.name)).Nodup) (file : FileState) (options : String)
    (forced : Option Bool) : (layered sources file options forced).Suits sources :=
  (((suits_ofDefaults hn).applyDocument _).applyDocument options).force forced

end Config

/-! Sources that take settings and discover, time after time. -/

namespace ActiveSource

/-- The settings in force are of the kind that the source takes. -/
def Suited (a : ActiveSource) : Prop := a.settings.sameKind a.source.defaults = true

theorem suited_start (s : Source) : (start s).Suited := s.defaults.sameKind_refl

/-- A source with its own section of a configuration in force. -/
def underConfig (c : Config) (s : Source) : ActiveSource :=
  ⟨s, (c.sources.get? s.name).getD s.defaults⟩

theorem suited_underConfig {c : Config} {sources : List Source} (hc : c.Suits sources) {s : Source}
    (hs : s ∈ sources) : (underConfig c s).Suited := by
  obtain ⟨given, hg, hk⟩ := hc s hs
  rwa [Suited, underConfig, hg]

end ActiveSource

theorem Source.value_install {s : Source} {current given : SourceSettings}
    (hc : current.sameKind s.defaults = true) (hg : given.sameKind s.defaults = true) :
    (s.install current given).value = given := by
  rw [install]
  split
  · rename_i hd
    rw [hd] at hc hg
    rw [SourceSettings.eq_none_of_sameKind hc, SourceSettings.eq_none_of_sameKind hg]
    rfl
  · rw [if_pos hg]
    rfl

namespace Config

variable {c : Config} {sources : List Source} {active : List ActiveSource}

theorem value_installSettings (hc : c.Suits (active.map (·.source)))
    (ha : ∀ a ∈ active, a.Suited) :
    (c.installSettings active).value = active.map fun a => .underConfig c a.source := by
  rw [installSettings, Logged.value_mapM]
  refine List.map_congr_left fun a hm => ?_
  obtain ⟨given, hg, hk⟩ := hc a.source (List.mem_map_of_mem hm)
  simp only [hg, Logged.value_bind, Logged.value_pure, Source.value_install (ha a hm) hk,
    ActiveSource.underConfig, Option.getD_some]

/-- One load of the configuration and the discovery that follows it. -/
structure Cycle where
  path : String
  file : FileState
  options : String
  forced : Option Bool
  whitelist : Label.Whitelist
  host : Host

structure Cycle.Result where
  config : Config
  active : List ActiveSource
  labels : Labels

namespace Cycle

def run (active : List ActiveSource) (x : Cycle) : Logged Result := do
  let (config, active) ← reload active x.path x.file x.options x.forced
  return ⟨config, active, ← discoverAll x.whitelist active x.host⟩

/-- What becomes of sources over a list of cycles. -/
def runAll (active : List ActiveSource) (history : List Cycle) : List ActiveSource :=
  history.foldl (fun active x => (x.run active).value.active) active

/-- The sources are those of the list, and each has settings of the kind that it takes. -/
structure Follows (sources : List Source) (active : List ActiveSource) : Prop where
  sources : active.map (·.source) = sources
  suited : ∀ a ∈ active, a.Suited

/-- What a cycle comes to is a function of the cycle and of which sources there are. -/
theorem value_run (hn : (sources.map (·.name)).Nodup) (h : Follows sources active) (x : Cycle) :
    let c := layered sources x.file x.options x.forced
    let under := sources.map (.underConfig c)
    (x.run active).value = ⟨c, under, (discoverAll x.whitelist under x.host).value⟩ := by
  intro c under
  have hload : (load (active.map (·.source)) x.path x.file x.options x.forced).value = c := by
    rw [h.sources, value_load]
  have hc : c.Suits (active.map (·.source)) := by
    rw [h.sources]
    exact suits_layered hn _ _ _
  have hi : (c.installSettings active).value = under := by
    have hm : active.map (fun a => ActiveSource.underConfig c a.source) = under := by
      simp only [under, ← h.sources, List.map_map, Function.comp_def]
    rw [value_installSettings hc h.suited, hm]
  simp only [run, reload, Logged.value_bind, Logged.value_pure, hload, hi]

theorem follows_start (sources : List Source) : Follows sources (sources.map .start) where
  sources := by
    rw [List.map_map]
    exact List.map_id' sources
  suited a ha := by
    obtain ⟨s, _, rfl⟩ := List.mem_map.mp ha
    exact ActiveSource.suited_start s

theorem Follows.run (hn : (sources.map (·.name)).Nodup) (h : Follows sources active) (x : Cycle) :
    Follows sources (x.run active).value.active := by
  rw [value_run hn h x]
  refine ⟨?_, fun a ha => ?_⟩
  · rw [List.map_map]
    exact List.map_id' sources
  obtain ⟨s, hs, rfl⟩ := List.mem_map.mp ha
  exact ActiveSource.suited_underConfig (suits_layered hn _ _ _) hs

theorem Follows.runAll (hn : (sources.map (·.name)).Nodup) (h : Follows sources active)
    (history : List Cycle) : Follows sources (runAll active history) := by
  induction history generalizing active with
  | nil => exact h
  | cons x history ih => exact ih (h.run hn x)

/-- After any two histories a cycle gives the same configuration and the same labels. The
configuration is laid together from nothing, and every source discovers with its own section. -/
theorem run_memoryless (hn : (sources.map (·.name)).Nodup) (history history' : List Cycle)
    (x : Cycle) :
    let start := sources.map ActiveSource.start
    let result := (x.run (runAll start history)).value
    (x.run (runAll start history')).value = result ∧
      result.config =
        ((((ofDefaults (sources.map fun s => (s.name, s.defaults))).applyDocument
          (x.file.toOption.getD "")).1.applyDocument x.options).1.force x.forced) ∧
      result.active.map (·.source) = sources ∧
      ∀ a ∈ result.active, ∃ given, result.config.sources.get? a.source.name = some given ∧
        ∀ h, a.find h = a.source.find given h := by
  intro start result
  have hs : Follows sources start := follows_start sources
  have hr : result = _ := value_run hn (hs.runAll hn history) x
  have hr' := value_run hn (hs.runAll hn history') x
  refine ⟨hr'.trans hr.symm, by rw [hr]; rfl, ((hs.runAll hn history).run hn x).sources, ?_⟩
  intro a ha
  rw [hr] at ha ⊢
  obtain ⟨s, hm, rfl⟩ := List.mem_map.mp ha
  obtain ⟨given, hg, _⟩ := suits_layered hn x.file x.options x.forced s hm
  refine ⟨given, hg, fun h => ?_⟩
  rw [ActiveSource.find, ActiveSource.underConfig, hg, Option.getD_some]

/-- A label that only the file gave is gone with the file. -/
theorem run_memoryless_removed :
    let start := Registry.testing.map ActiveSource.start
    let told : Cycle :=
      { path := "worker.conf"
        file := .ok "sources:\n  fake:\n    labels:\n      extra: \"yes\"\n"
        options := ""
        forced := none
        whitelist := ⟨"", fun _ => true⟩
        host := .empty "/" }
    let silent : Cycle := { told with file := .error .notFound }
    (Registry.testing.map (·.name)).Nodup ∧
      (told.run start).value.labels.get? "fake-extra" = some "yes" ∧
      (silent.run (runAll start [told])).value = (silent.run start).value ∧
      (silent.run (runAll start [told])).value.labels.get? "fake-extra" = none := by
  intro start told silent
  have hn : (Registry.testing.map (·.name)).Nodup := by decide
  have hgiven : (told.run start).value.labels.get? "fake-extra" = some "yes" := by decide +kernel
  have hkept : (silent.run start).value.labels.get? "fake-extra" = none := by decide +kernel
  have hsame : (silent.run (runAll start [told])).value = (silent.run start).value :=
    (run_memoryless hn [] [told] silent).1
  refine ⟨hn, hgiven, hsame, ?_⟩
  rw [hsame]
  exact hkept

end Cycle

end Config

end NodeSurvey
