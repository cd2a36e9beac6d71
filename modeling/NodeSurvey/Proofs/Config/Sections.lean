import NodeSurvey.Config.Basic

/-! Documents section by section. A document comes down to a list of patches, each addressed to one
section. What becomes of a section is decided by the patches that are addressed to it and by nothing
else, and the error of a document is that of the first patch that does not fit. -/

namespace NodeSurvey.Config

open Yaml

inductive Addressee where
  | core
  /-- All sources at once, by something that is no mapping and so fits none. -/
  | sources
  | source (name : String)
deriving DecidableEq

structure Patch where
  addressee : Addressee
  value : Value

namespace Patch

def ofSourceEntry (e : Value × Value) : Option Patch :=
  e.1.text?.map fun name => ⟨.source name, e.2⟩

def ofEntry (e : Value × Value) : List Patch :=
  if isCoreKey e.1 then [⟨.core, e.2⟩]
  else if isSourcesKey e.1 then
    match e.2 with
    | .null => []
    | .mapping entries => entries.filterMap ofSourceEntry
    | v => [⟨.sources, v⟩]
  else []

/-- The patches of a document in its order. Entries with unknown names are none. -/
def ofEntries (entries : List (Value × Value)) : List Patch := entries.flatMap ofEntry

def valuesFor (a : Addressee) (patches : List Patch) : List Value :=
  (patches.filter fun p => p.addressee = a).map (·.value)

end Patch

/-- Lays values over a section one after the other. One that does not fit leaves it as it was. -/
def layAll {α : Type} (overlay : α → Value → Except Settings.DecodeError α) (a : α)
    (values : List Value) : α :=
  values.foldl (fun a v => (overlay a v).toOption.getD a) a

def coreAfter (c : Config) (patches : List Patch) : CoreSettings :=
  layAll Settings.overlay c.core (Patch.valuesFor .core patches)

def sourceAfter? (c : Config) (patches : List Patch) (name : String) : Option SourceSettings :=
  (c.sources.get? name).map fun s =>
    layAll SourceSettings.overlay s (Patch.valuesFor (.source name) patches)

/-- Why a patch does not fit, once others have been laid over its section. A patch for a source that
is not there is passed over. -/
def refusal? (c : Config) (earlier : List Patch) (p : Patch) : Option ConfigError :=
  match p.addressee with
  | .core =>
    match Settings.overlay (c.coreAfter earlier) p.value with
    | .ok _ => none
    | .error e => some (.core e)
  | .sources => some (.notAMapping .sources)
  | .source name =>
    match c.sourceAfter? earlier name with
    | none => none
    | some settings =>
      match settings.overlay p.value with
      | .ok _ => none
      | .error e => some (.source name e)

/-! Applying a document comes to the same as applying its patches one by one. -/

def applyPatch (c : Config) (p : Patch) : Config × Option ConfigError :=
  match p.addressee with
  | .core =>
    match Settings.overlay c.core p.value with
    | .ok core => ({ c with core := core }, none)
    | .error e => (c, some (.core e))
  | .sources => (c, some (.notAMapping .sources))
  | .source name =>
    let (sources, e) := applySource c.sources (.string name) p.value
    ({ c with sources := sources }, e)

def applyPatches (c : Config) : List Patch → Config × Option ConfigError
  | [] => (c, none)
  | p :: r =>
    let (c, e) := applyPatch c p
    let (c, e') := applyPatches c r
    (c, e <|> e')

theorem applyPatches_append (c : Config) (l m : List Patch) :
    c.applyPatches (l ++ m) =
      (((c.applyPatches l).1.applyPatches m).1,
        (c.applyPatches l).2 <|> ((c.applyPatches l).1.applyPatches m).2) := by
  induction l generalizing c with
  | nil => simp [applyPatches]
  | cons p l ih => simp [applyPatches, ih, Option.or_assoc]

theorem applySource_of_text? {key : Value} {name : String} (hk : key.text? = some name)
    (d : Dict SourceSettings) (patch : Value) :
    applySource d key patch = applySource d (.string name) patch := by
  have hn : (Value.string name).text? = some name := rfl
  rw [applySource, applySource, hk, hn]

theorem applySources_eq (c : Config) (entries : List (Value × Value)) :
    ({ c with sources := (applySources c.sources entries).1 },
      (applySources c.sources entries).2) =
        c.applyPatches (entries.filterMap Patch.ofSourceEntry) := by
  induction entries generalizing c with
  | nil => rfl
  | cons e entries ih =>
    obtain ⟨key, patch⟩ := e
    cases hk : key.text? with
    | none =>
      have hs : applySource c.sources key patch = (c.sources, none) := by rw [applySource, hk]
      simp [applySources, hs, Patch.ofSourceEntry, hk, ← ih c]
    | some name =>
      have hs := applySource_of_text? hk c.sources patch
      have hr := ih { c with sources := (applySource c.sources (.string name) patch).1 }
      simp [applySources, hs, Patch.ofSourceEntry, hk, applyPatches, applyPatch, ← hr]

theorem applyEntry_eq (c : Config) (key patch : Value) :
    c.applyEntry key patch = c.applyPatches (Patch.ofEntry (key, patch)) := by
  simp only [applyEntry, Patch.ofEntry]
  split
  · simp only [applyPatches, applyPatch]
    cases Settings.overlay c.core patch <;> rfl
  · split
    · cases patch with
      | mapping entries => exact c.applySources_eq entries
      | _ => rfl
    · rfl

theorem applyEntries_eq (c : Config) (entries : List (Value × Value)) :
    c.applyEntries entries = c.applyPatches (Patch.ofEntries entries) := by
  induction entries generalizing c with
  | nil => rfl
  | cons e entries ih =>
    rw [applyEntries, applyEntry_eq, Patch.ofEntries, List.flatMap_cons, applyPatches_append]
    simp only [ih]
    rfl

/-! What one patch does to each section, and from it what a list of patches does. -/

theorem layAll_append {α : Type} (overlay : α → Value → Except Settings.DecodeError α) (a : α)
    (l m : List Value) : layAll overlay a (l ++ m) = layAll overlay (layAll overlay a l) m :=
  List.foldl_append

theorem valuesFor_singleton (a : Addressee) (p : Patch) :
    Patch.valuesFor a [p] = if p.addressee = a then [p.value] else [] := by
  by_cases h : p.addressee = a <;> simp [Patch.valuesFor, h]

theorem valuesFor_cons (a : Addressee) (p : Patch) (l : List Patch) :
    Patch.valuesFor a (p :: l) = Patch.valuesFor a [p] ++ Patch.valuesFor a l := by
  rw [← List.singleton_append, Patch.valuesFor, List.filter_append, List.map_append]
  rfl

theorem core_applyPatch (c : Config) (p : Patch) :
    (c.applyPatch p).1.core = c.coreAfter [p] := by
  obtain ⟨addressee, v⟩ := p
  cases addressee with
  | core =>
    rw [coreAfter, valuesFor_singleton, if_pos rfl]
    cases h : Settings.overlay c.core v <;> simp [applyPatch, layAll, h, Except.toOption]
  | sources => rfl
  | source name => rfl

theorem map_layAll_nil {α : Type} (overlay : α → Value → Except Settings.DecodeError α)
    (x : Option α) : x.map (fun a => layAll overlay a []) = x :=
  Option.map_id'

theorem get?_applySource (d : Dict SourceSettings) (name : String) (v : Value) (name' : String) :
    (applySource d (.string name) v).1.get? name' = (d.get? name').map fun s =>
      layAll SourceSettings.overlay s (if name = name' then [v] else []) := by
  have hn : (Value.string name).text? = some name := rfl
  simp only [applySource, hn]
  by_cases h : name = name'
  · subst h
    rw [if_pos rfl]
    cases hs : d.get? name with
    | none => simp [hs]
    | some s =>
      cases ho : s.overlay v <;> simp [ho, hs, Dict.get?_insert, layAll, Except.toOption]
  · rw [if_neg h]
    rw [map_layAll_nil]
    cases d.get? name with
    | none => rfl
    | some s =>
      cases ho : s.overlay v with
      | error e => simp [ho]
      | ok s' => simp [ho, Dict.get?_insert, Ne.symm h]

theorem get?_applyPatch (c : Config) (p : Patch) (name : String) :
    (c.applyPatch p).1.sources.get? name = c.sourceAfter? [p] name := by
  obtain ⟨addressee, v⟩ := p
  rw [sourceAfter?, valuesFor_singleton]
  cases addressee with
  | core =>
    have hs : (c.applyPatch ⟨.core, v⟩).1.sources = c.sources := by
      simp only [applyPatch]
      cases Settings.overlay c.core v <;> rfl
    rw [hs]
    exact (map_layAll_nil _ _).symm
  | sources => exact (map_layAll_nil _ _).symm
  | source name' =>
    simp only [Addressee.source.injEq]
    exact get?_applySource c.sources name' v name

theorem coreAfter_cons (c : Config) (p : Patch) (l : List Patch) :
    c.coreAfter (p :: l) = (c.applyPatch p).1.coreAfter l := by
  rw [coreAfter, valuesFor_cons, layAll_append]
  exact congrArg (layAll _ · _) (core_applyPatch c p).symm

theorem sourceAfter?_cons (c : Config) (p : Patch) (l : List Patch) (name : String) :
    c.sourceAfter? (p :: l) name = (c.applyPatch p).1.sourceAfter? l name := by
  have h := get?_applyPatch c p name
  rw [sourceAfter?] at h
  rw [sourceAfter?, sourceAfter?, h, valuesFor_cons, Option.map_map]
  simp only [Function.comp_def, layAll_append]

theorem error_applyPatch (c : Config) (p : Patch) : (c.applyPatch p).2 = c.refusal? [] p := by
  obtain ⟨addressee, v⟩ := p
  cases addressee with
  | core =>
    have hc : c.coreAfter [] = c.core := rfl
    simp only [applyPatch, refusal?, hc]
    cases Settings.overlay c.core v <;> rfl
  | sources => rfl
  | source name =>
    have hs : c.sourceAfter? [] name = c.sources.get? name := map_layAll_nil _ _
    have hn : (Value.string name).text? = some name := rfl
    simp only [applyPatch, refusal?, hs, applySource, hn]
    cases c.sources.get? name with
    | none => rfl
    | some s => cases h : s.overlay v <;> simp [h]

theorem refusal?_cons (c : Config) (p : Patch) (earlier : List Patch) (q : Patch) :
    c.refusal? (p :: earlier) q = (c.applyPatch p).1.refusal? earlier q := by
  simp only [refusal?, coreAfter_cons, sourceAfter?_cons]

theorem core_applyPatches (c : Config) (l : List Patch) :
    (c.applyPatches l).1.core = c.coreAfter l := by
  induction l generalizing c with
  | nil => rfl
  | cons p l ih => rw [coreAfter_cons, ← ih, applyPatches]

theorem get?_applyPatches (c : Config) (l : List Patch) (name : String) :
    (c.applyPatches l).1.sources.get? name = c.sourceAfter? l name := by
  induction l generalizing c with
  | nil => exact (map_layAll_nil _ _).symm
  | cons p l ih => rw [sourceAfter?_cons, ← ih, applyPatches]

/-- The patch at which a list of patches is refused: every one before it fits. -/
def Refuses (c : Config) (patches : List Patch) (e : ConfigError) : Prop :=
  ∃ before p after, patches = before ++ p :: after ∧ c.refusal? before p = some e ∧
    ∀ earlier q between, before = earlier ++ q :: between → c.refusal? earlier q = none

theorem refuses_cons_iff {c : Config} {p : Patch} {l : List Patch} {e : ConfigError} :
    c.Refuses (p :: l) e ↔
      c.refusal? [] p = some e ∨
        c.refusal? [] p = none ∧ (c.applyPatch p).1.Refuses l e := by
  constructor
  · rintro ⟨before, q, after, hl, hq, hb⟩
    cases before with
    | nil =>
      obtain ⟨rfl, -⟩ := List.cons.inj hl
      exact .inl hq
    | cons p' before =>
      obtain ⟨rfl, rfl⟩ := List.cons.inj hl
      refine .inr ⟨hb [] p before rfl, before, q, after, rfl, ?_, fun earlier r between h => ?_⟩
      · rw [← refusal?_cons]
        exact hq
      · rw [← refusal?_cons]
        exact hb (p :: earlier) r between (congrArg (p :: ·) h)
  · rintro (h | ⟨h, before, q, after, rfl, hq, hb⟩)
    · exact ⟨[], p, l, rfl, h, by simp⟩
    · refine ⟨p :: before, q, after, rfl, ?_, fun earlier r between hs => ?_⟩
      · rw [refusal?_cons]
        exact hq
      · cases earlier with
        | nil =>
          obtain ⟨rfl, -⟩ := List.cons.inj hs
          exact h
        | cons p' earlier =>
          obtain ⟨rfl, hbefore⟩ := List.cons.inj hs
          rw [refusal?_cons]
          exact hb earlier r between hbefore

theorem error_applyPatches_cons (c : Config) (p : Patch) (l : List Patch) :
    (c.applyPatches (p :: l)).2 =
      (c.refusal? [] p).or ((c.applyPatch p).1.applyPatches l).2 := by
  rw [← error_applyPatch]
  cases h : (c.applyPatch p).2 <;> simp [applyPatches, h]

theorem error_applyPatches_eq_some_iff {c : Config} {l : List Patch} {e : ConfigError} :
    (c.applyPatches l).2 = some e ↔ c.Refuses l e := by
  induction l generalizing c with
  | nil => simp [applyPatches, Refuses]
  | cons p l ih => rw [refuses_cons_iff, ← ih, error_applyPatches_cons, Option.or_eq_some_iff]

theorem error_applyPatches_eq_none_iff {c : Config} {l : List Patch} :
    (c.applyPatches l).2 = none ↔
      ∀ before p after, l = before ++ p :: after → c.refusal? before p = none := by
  induction l generalizing c with
  | nil => simp [applyPatches]
  | cons p l ih =>
    rw [error_applyPatches_cons, Option.or_eq_none_iff, ih]
    constructor
    · rintro ⟨h, hr⟩ before q after hl
      cases before with
      | nil =>
        obtain ⟨rfl, -⟩ := List.cons.inj hl
        exact h
      | cons p' before =>
        obtain ⟨rfl, hafter⟩ := List.cons.inj hl
        rw [refusal?_cons]
        exact hr before q after hafter
    · intro h
      refine ⟨h [] p l rfl, fun before q after hl => ?_⟩
      rw [← refusal?_cons]
      exact h (p :: before) q after (congrArg (p :: ·) hl)

/-- What it means that the entries of a document bear on a configuration section by section. -/
structure Sectioned (c : Config) (entries : List (Value × Value))
    (result : Config × Option ConfigError) : Prop where
  core : result.1.core = c.coreAfter (Patch.ofEntries entries)
  source : ∀ name, result.1.sources.get? name = c.sourceAfter? (Patch.ofEntries entries) name
  /-- All other entries, and all other sections, can be exchanged for anything else. -/
  core_congr : ∀ (c' : Config) entries', c'.core = c.core →
    Patch.valuesFor .core (Patch.ofEntries entries') =
      Patch.valuesFor .core (Patch.ofEntries entries) →
    (c'.applyEntries entries').1.core = result.1.core
  source_congr : ∀ (c' : Config) entries' name, c'.sources.get? name = c.sources.get? name →
    Patch.valuesFor (.source name) (Patch.ofEntries entries') =
      Patch.valuesFor (.source name) (Patch.ofEntries entries) →
    (c'.applyEntries entries').1.sources.get? name = result.1.sources.get? name
  accepted_iff : result.2 = none ↔ ∀ before p after,
    Patch.ofEntries entries = before ++ p :: after → c.refusal? before p = none
  refused_iff : ∀ e, result.2 = some e ↔ c.Refuses (Patch.ofEntries entries) e

theorem sectioned_applyEntries (c : Config) (entries : List (Value × Value)) :
    c.Sectioned entries (c.applyEntries entries) where
  core := by rw [applyEntries_eq, core_applyPatches]
  source name := by rw [applyEntries_eq, get?_applyPatches]
  core_congr c' entries' hc hv := by
    rw [applyEntries_eq, applyEntries_eq, core_applyPatches, core_applyPatches, coreAfter,
      coreAfter, hc, hv]
  source_congr c' entries' name hc hv := by
    rw [applyEntries_eq, applyEntries_eq, get?_applyPatches, get?_applyPatches, sourceAfter?,
      sourceAfter?, hc, hv]
  accepted_iff := by rw [applyEntries_eq, error_applyPatches_eq_none_iff]
  refused_iff e := by rw [applyEntries_eq, error_applyPatches_eq_some_iff]

theorem exists_get?_applyDocument (c : Config) (text name : String) :
    ∃ values, (c.applyDocument text).1.sources.get? name =
      (c.sources.get? name).map fun s => layAll SourceSettings.overlay s values := by
  have hkept : ∃ values, c.sources.get? name =
      (c.sources.get? name).map fun s => layAll SourceSettings.overlay s values :=
    ⟨[], (map_layAll_nil _ _).symm⟩
  rw [applyDocument]
  cases Document.parse? text with
  | none => exact hkept
  | some v =>
    cases v with
    | mapping entries => exact ⟨_, (c.sectioned_applyEntries entries).source name⟩
    | _ => exact hkept

/-- A text that is no document, or a document that is neither empty nor a mapping, changes nothing.
Every other document bears on the configuration section by section. -/
theorem applyDocument_sectioned (c : Config) (text : String) :
    match Document.parse? text with
    | none => c.applyDocument text = (c, some .malformed)
    | some .null => c.applyDocument text = (c, none)
    | some (.mapping entries) => c.Sectioned entries (c.applyDocument text)
    | some _ => c.applyDocument text = (c, some (.notAMapping .topLevel)) := by
  rw [applyDocument]
  cases Document.parse? text with
  | none => rfl
  | some v =>
    cases v with
    | mapping entries => exact c.sectioned_applyEntries entries
    | _ => rfl

end NodeSurvey.Config
