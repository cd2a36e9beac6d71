import NodeSurvey.Proofs.Label.Aggregation
import NodeSurvey.Proofs.Text.Split

/-! Labels as they are published. What is checked of a feature is another text than the name of its
label, and the whitelist sees a third one; all three agree once the check has passed, since a name
that passes behind a made-up domain has no slash of its own. -/

namespace NodeSurvey.Label

theorem nameViolations_of_not_mem {s : String} (hs : '/' ∉ s.toList) :
    nameViolations s = partViolations s.toList := by
  rw [nameViolations, Text.split_eq_singleton_iff.mpr ⟨rfl, hs⟩]

theorem domainViolations_ns : domainViolations ['n', 's'] = [] := by decide

theorem nameViolations_ns_append_iff {s : String} :
    nameViolations ("ns/" ++ s) = [] ↔ '/' ∉ s.toList ∧ nameViolations s = [] := by
  have hl : ("ns/" ++ s).toList = ['n', 's'] ++ '/' :: s.toList := by
    rw [String.toList_append]
    rfl
  have hs : Text.split '/' ("ns/" ++ s).toList = ['n', 's'] :: Text.split '/' s.toList := by
    rw [hl, Text.split_append_cons (by decide)]
  by_cases hm : '/' ∈ s.toList
  · have hne : ∀ p, Text.split '/' s.toList ≠ [p] :=
      fun p hp => (Text.split_eq_singleton_iff.mp hp).2 hm
    rw [nameViolations, hs]
    simp only [hm, not_true, false_and, iff_false]
    split
    · rename_i hp
      exact absurd (List.cons.inj hp).2 (Text.splitBy_ne_nil _ _)
    · rename_i p hp
      exact absurd (List.cons.inj hp).2 (hne p)
    · simp
  · have hp := Text.split_eq_singleton_iff.mpr ⟨rfl, hm⟩
    rw [nameViolations_of_not_mem hm, nameViolations, hs, hp]
    simp [hm, domainViolations_ns]

theorem localPart_of_not_mem {s : String} (hs : '/' ∉ s.toList) : localPart s = s := by
  rw [localPart, Text.splitOnce_eq_none_iff.mpr hs]

theorem nameViolations_labelName {stem feature : String}
    (hn : nameViolations (checkedName stem feature) = []) :
    nameViolations (labelName stem feature) = [] ∧
      localPart (labelName stem feature) = listedName stem feature := by
  cases hf : isNamespaced feature with
  | true =>
    have hc : checkedName stem feature = feature := if_pos hf
    have hl : labelName stem feature = feature := if_pos hf
    have hw : listedName stem feature = localPart feature := if_pos hf
    rw [hl, hw]
    exact ⟨hc ▸ hn, rfl⟩
  | false =>
    have hf' : ¬ isNamespaced feature = true := by simp [hf]
    have hc : checkedName stem feature = "ns/" ++ (stem ++ feature) :=
      (if_neg hf').trans (String.append_assoc ..)
    have hl : labelName stem feature = stem ++ feature := if_neg hf'
    have hw : listedName stem feature = stem ++ feature := if_neg hf'
    obtain ⟨hm, hv⟩ := nameViolations_ns_append_iff.mp (hc ▸ hn)
    rw [hl, hw]
    exact ⟨hv, localPart_of_not_mem hm⟩

/-- What holds of every published label, whatever the sources find. -/
theorem discoverAll_wellFormed (w : Whitelist) (sources : List ActiveSource) (h : Host)
    {name value : String} (hv : (discoverAll w sources h).value.get? name = some value) :
    nameViolations name = [] ∧ valueViolations value = [] ∧
      w.accepts (localPart name) = true := by
  rw [get?_discoverAll] at hv
  obtain ⟨a, _, ha⟩ := List.exists_of_findSome?_eq_some hv
  obtain ⟨_, _, e, _, he⟩ := ActiveSource.exists_feature_of_label? ha
  obtain ⟨hn, hvalue, hw, hlabel⟩ := ofFeature_eq_ok_iff.mp he
  obtain ⟨rfl, rfl⟩ := Prod.mk.inj hlabel
  obtain ⟨hname, hlocal⟩ := nameViolations_labelName hn
  exact ⟨hname, hvalue, hlocal ▸ hw⟩

/-- A label with a domain, beside a source whose name has a slash and one that panics. -/
theorem discoverAll_wellFormed_domain :
    let w : Whitelist := ⟨"^gpu", fun s => "gpu".toList.isPrefixOf s.toList⟩
    let sources := [ActiveSource.start (.constant "a/b" true (.ok (.ofList [("gpu", .bool true)]))),
      .start (.constant "pci" true (.ok (.ofList [("vendor.example.com/gpu", .bool true)]))),
      .start (.constant "gpu" true (.error (.panicked none)))]
    (discoverAll w sources (.empty "/")).value.get? "vendor.example.com/gpu" = some "true" ∧
      nameViolations "vendor.example.com/gpu" = [] ∧ valueViolations "true" = [] ∧
      w.accepts (localPart "vendor.example.com/gpu") = true := by
  intro w sources
  have hv : (discoverAll w sources (.empty "/")).value.get? "vendor.example.com/gpu" =
      some "true" := by decide +kernel
  exact ⟨hv, discoverAll_wellFormed w sources (.empty "/") hv⟩

end NodeSurvey.Label
