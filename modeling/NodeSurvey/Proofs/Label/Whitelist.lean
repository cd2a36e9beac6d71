import NodeSurvey.Proofs.Label.WellFormed

/-! What a whitelist takes away. It is asked about every feature before the labels of the sources
come together, but its answer depends on the name of the label alone, so it could as well be asked
once at the end. -/

namespace NodeSurvey

namespace Label

variable {w all : Whitelist}

/-- The labels that a whitelist lets pass. -/
def Whitelist.restrict (w : Whitelist) (labels : Labels) : Labels :=
  labels.filter fun name => w.accepts (localPart name)

theorem toOption_ofFeature (hall : ∀ name, all.accepts name = true) (stem feature : String)
    (value : FeatureValue) :
    (ofFeature w stem feature value).toOption =
      (ofFeature all stem feature value).toOption.filter fun l => w.accepts (localPart l.1) := by
  cases ho : ofFeature all stem feature value with
  | ok label =>
    obtain ⟨hn, hv, _, rfl⟩ := ofFeature_eq_ok_iff.mp ho
    have hlocal := (nameViolations_labelName hn).2
    cases hw : w.accepts (listedName stem feature) with
    | true =>
      rw [ofFeature_eq_ok_iff.mpr ⟨hn, hv, hw, rfl⟩]
      simp [Except.toOption, Option.filter, hlocal, hw]
    | false => simp [ofFeature, hn, hv, hw, Except.toOption, Option.filter, hlocal]
  | error n =>
    cases hw : ofFeature w stem feature value with
    | error n' => rfl
    | ok label =>
      obtain ⟨hn, hv, _, rfl⟩ := ofFeature_eq_ok_iff.mp hw
      rw [ofFeature_eq_ok_iff.mpr ⟨hn, hv, hall _, rfl⟩] at ho
      cases ho

theorem filter_ofFeatures (hall : ∀ name, all.accepts name = true) (stem : String)
    (l : List (String × FeatureValue)) :
    (ofFeatures w stem l).value =
      (ofFeatures all stem l).value.filter fun label => w.accepts (localPart label.1) := by
  rw [value_ofFeatures, value_ofFeatures, List.filter_filterMap]
  simp only [toOption_ofFeature (w := w) hall]

end Label

namespace ActiveSource

variable {w all : Label.Whitelist} (hall : ∀ name, all.accepts name = true)
include hall

theorem labels_restrict (a : ActiveSource) (h : Host) :
    a.labels w h = (a.labels all h).map w.restrict := by
  cases ho : a.outcome h with
  | error t => rw [labels_of_outcome_error ho, labels_of_outcome_error ho]; rfl
  | ok features =>
    rw [labels_of_outcome_ok ho, labels_of_outcome_ok ho, Label.filter_ofFeatures hall]
    exact congrArg Except.ok (Dict.ofList_filter (fun name => w.accepts (Label.localPart name)) _)

theorem label?_restrict (a : ActiveSource) (h : Host) (name : String) :
    a.label? w h name =
      if w.accepts (Label.localPart name) then a.label? all h name else none := by
  rw [label?, label?, labels_restrict hall]
  cases a.labels all h with
  | error e => simp [Except.map, Except.toOption]
  | ok ls => exact Dict.get?_filter (fun name => w.accepts (Label.localPart name)) ls name

end ActiveSource

/-- The source that a label comes from: of those that give it, the last. -/
def winner? (w : Label.Whitelist) (sources : List ActiveSource) (h : Host) (name : String) :
    Option ActiveSource :=
  sources.reverse.find? fun a => (a.label? w h name).isSome

theorem get?_discoverAll_restrict {w all : Label.Whitelist}
    (hall : ∀ name, all.accepts name = true) (sources : List ActiveSource) (h : Host)
    (name : String) :
    (discoverAll w sources h).value.get? name =
      if w.accepts (Label.localPart name) then (discoverAll all sources h).value.get? name
      else none := by
  simp only [get?_discoverAll, ActiveSource.label?_restrict (w := w) hall]
  split
  · rfl
  · exact List.findSome?_eq_none_iff.mpr fun a _ => rfl

theorem winner?_of_accepts {w all : Label.Whitelist} (hall : ∀ name, all.accepts name = true)
    (sources : List ActiveSource) (h : Host) {name : String}
    (hw : w.accepts (Label.localPart name) = true) :
    winner? w sources h name = winner? all sources h name := by
  simp only [winner?, ActiveSource.label?_restrict (w := w) hall, hw, if_true]

/-- A whitelist removes the labels whose local name it refuses from what is found without one, and
does nothing else: the labels that stay keep their value and the source that they come from. So a
whitelist that accepts more lets more labels through and changes none. -/
theorem discoverAll_whitelist (sources : List ActiveSource) (h : Host) :
    (∀ w all : Label.Whitelist, (∀ name, all.accepts name = true) →
      (discoverAll w sources h).value =
        (discoverAll all sources h).value.filter (fun name => w.accepts (Label.localPart name)) ∧
      ∀ name value, (discoverAll w sources h).value.get? name = some value →
        (discoverAll all sources h).value.get? name = some value ∧
        winner? w sources h name = winner? all sources h name) ∧
    (∀ w wider : Label.Whitelist,
      (∀ name, w.accepts name = true → wider.accepts name = true) →
      ∀ name value, (discoverAll w sources h).value.get? name = some value →
        (discoverAll wider sources h).value.get? name = some value) := by
  refine ⟨fun w all hall => ⟨Dict.ext fun name => ?_, fun name value hv => ?_⟩,
    fun w wider hmore name value hv => ?_⟩
  · rw [get?_discoverAll_restrict hall, Dict.get?_filter]
  · have hr := get?_discoverAll_restrict (w := w) hall sources h name
    rw [hv] at hr
    split at hr
    · rename_i hw
      exact ⟨hr.symm, winner?_of_accepts hall sources h hw⟩
    · cases hr
  · -- Both are what a whitelist that accepts everything leaves, cut down by their own answers.
    let all : Label.Whitelist := ⟨"", fun _ => true⟩
    have hall : ∀ name, all.accepts name = true := fun _ => rfl
    rw [get?_discoverAll_restrict hall] at hv ⊢
    split at hv
    · rename_i hw
      rw [if_pos (hmore _ hw)]
      exact hv
    · cases hv

/-- Two sources give one label. The whitelist keeps it with the value of the later one and drops the
label of the device, which the wider whitelist keeps too. -/
theorem discoverAll_whitelist_overlap :
    let h := Host.empty "/"
    let w : Label.Whitelist := ⟨"^cpu", fun s => "cpu".toList.isPrefixOf s.toList⟩
    let wider : Label.Whitelist :=
      ⟨"^cpu|^gpu", fun s => w.accepts s || "gpu".toList.isPrefixOf s.toList⟩
    let all : Label.Whitelist := ⟨"", fun _ => true⟩
    let cpu := ActiveSource.start (.constant "cpu" true (.ok (.ofList [("model", .text "arm64")])))
    let pci := ActiveSource.start
      (.constant "pci" true (.ok (.ofList [("vendor.example.com/gpu", .bool true)])))
    let hook := ActiveSource.start
      (.constant "local" false (.ok (.ofList [("cpu-model", .text "x86_64")])))
    let sources := [cpu, pci, hook]
    (discoverAll w sources h).value.get? "vendor.example.com/gpu" = none ∧
      (discoverAll all sources h).value.get? "cpu-model" = some "x86_64" ∧
      (discoverAll wider sources h).value.get? "cpu-model" = some "x86_64" := by
  intro h w wider all cpu pci hook sources
  have hl := discoverAll_whitelist sources h
  have hall := hl.1 w all fun _ => rfl
  have hv : (discoverAll w sources h).value.get? "cpu-model" = some "x86_64" := by decide +kernel
  have hmore : ∀ name, w.accepts name = true → wider.accepts name = true :=
    fun name hw => Bool.or_eq_true_iff.mpr (Or.inl hw)
  refine ⟨?_, (hall.2 _ _ hv).1, hl.2 w wider hmore _ _ hv⟩
  rw [hall.1, Dict.get?_filter]
  decide +kernel

end NodeSurvey
