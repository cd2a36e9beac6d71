import NodeSurvey.Proofs.Label.WellFormed

/-! How features are named as labels. A slash is what tells a feature that keeps its name from one
that gets a stem, and a stem has none, so no two features share a label. A source therefore gives
one label for each feature that passes the checks, whatever its other features are. -/

namespace NodeSurvey

namespace Label

variable {stem feature feature' name : String}

theorem isNamespaced_iff : isNamespaced feature = true ↔ '/' ∈ feature.toList := by
  rw [isNamespaced, ← not_iff_not, ← Text.splitOnce_eq_none_iff]
  cases Text.splitOnce '/' feature.toList <;> simp

theorem labelName_eq (stem feature : String) :
    labelName stem feature = if '/' ∈ feature.toList then feature else stem ++ feature := by
  simp only [labelName, isNamespaced_iff]

theorem not_mem_stem {source : String} (hs : '/' ∉ source.toList) (prefixed : Bool) :
    '/' ∉ (Label.stem source prefixed).toList := by
  cases prefixed with
  | true => simpa [Label.stem] using hs
  | false => simp [Label.stem]

section Plain

variable (hs : '/' ∉ stem.toList)
include hs

theorem mem_labelName_iff : '/' ∈ (labelName stem feature).toList ↔ '/' ∈ feature.toList := by
  rw [labelName_eq]
  split
  · rfl
  · simp [hs]

theorem labelName_injective : Function.Injective (labelName stem) := by
  intro feature feature' he
  have hm : '/' ∈ feature.toList ↔ '/' ∈ feature'.toList := by
    rw [← mem_labelName_iff hs, he, mem_labelName_iff hs]
  rw [labelName_eq, labelName_eq] at he
  by_cases hf : '/' ∈ feature.toList
  · rwa [if_pos hf, if_pos (hm.mp hf)] at he
  · rw [if_neg hf, if_neg fun hf' => hf (hm.mpr hf')] at he
    exact String.append_right_inj stem |>.mp he

theorem nameViolations_checkedName_iff :
    nameViolations (checkedName stem feature) = [] ↔
      nameViolations (labelName stem feature) = [] := by
  cases hf : isNamespaced feature with
  | true => simp [checkedName, labelName, hf]
  | false =>
    have hm : '/' ∉ (stem ++ feature).toList := by
      have hf' : '/' ∉ feature.toList := fun h => by simp [isNamespaced_iff.mpr h] at hf
      simp [hs, hf']
    have hc : checkedName stem feature = "ns/" ++ (stem ++ feature) := by
      simp [checkedName, hf, String.append_assoc]
    have hl : labelName stem feature = stem ++ feature := by simp [labelName, hf]
    rw [hc, hl, nameViolations_ns_append_iff]
    exact and_iff_right hm

theorem ofFeature_eq_ok_iff_labelName {w : Whitelist} {value : FeatureValue}
    {label : String × String} :
    ofFeature w stem feature value = .ok label ↔
      nameViolations (labelName stem feature) = [] ∧ valueViolations value.render = [] ∧
      w.accepts (localPart (labelName stem feature)) = true ∧
      label = (labelName stem feature, value.render) := by
  rw [ofFeature_eq_ok_iff, nameViolations_checkedName_iff hs]
  refine and_congr_right fun hn => ?_
  rw [(nameViolations_labelName ((nameViolations_checkedName_iff hs).mpr hn)).2]

theorem nodup_names_ofFeatures (w : Whitelist) {l : List (String × FeatureValue)}
    (hl : (l.map Prod.fst).Nodup) : ((ofFeatures w stem l).value.map Prod.fst).Nodup := by
  rw [List.Nodup, List.pairwise_map] at hl
  rw [value_ofFeatures, List.Nodup, List.pairwise_map, List.pairwise_filterMap]
  refine hl.imp fun {e e'} hne label ho label' ho' he => hne ?_
  obtain ⟨_, _, _, rfl⟩ := ofFeature_eq_ok_iff.mp (toOption_eq_some_iff.mp ho)
  obtain ⟨_, _, _, rfl⟩ := ofFeature_eq_ok_iff.mp (toOption_eq_some_iff.mp ho')
  exact labelName_injective hs he

theorem get?_ofFeatures_eq_some_iff (w : Whitelist) (features : Features) {value : String} :
    (Dict.ofList (ofFeatures w stem features.toList).value).get? name = some value ↔
      ∃ feature v, features.get? feature = some v ∧ name = labelName stem feature ∧
        value = v.render ∧ nameViolations name = [] ∧ valueViolations value = [] ∧
        w.accepts (localPart name) = true := by
  rw [Dict.get?_ofList_eq_some_iff (nodup_names_ofFeatures hs w features.nodup_keys),
    mem_value_ofFeatures]
  constructor
  · rintro ⟨⟨feature, v⟩, he, ho⟩
    obtain ⟨hn, hv, hw, hl⟩ := (ofFeature_eq_ok_iff_labelName hs).mp ho
    obtain ⟨rfl, rfl⟩ := Prod.mk.inj hl
    exact ⟨feature, v, Dict.get?_eq_some_iff.mpr he, rfl, rfl, hn, hv, hw⟩
  · rintro ⟨feature, v, hf, rfl, rfl, hn, hv, hw⟩
    exact ⟨(feature, v), Dict.get?_eq_some_iff.mp hf,
      (ofFeature_eq_ok_iff_labelName hs).mpr ⟨hn, hv, hw, rfl⟩⟩

theorem ofFeatures_erase (w : Whitelist) (features : Features) (feature : String) :
    Dict.ofList (ofFeatures w stem (features.erase feature).toList).value =
      (Dict.ofList (ofFeatures w stem features.toList).value).erase (labelName stem feature) := by
  refine Dict.ext fun name => Option.ext fun value => ?_
  rw [get?_ofFeatures_eq_some_iff hs, Dict.get?_erase]
  constructor
  · rintro ⟨other, v, hf, hname, hrest⟩
    rw [Dict.get?_erase] at hf
    split at hf
    · cases hf
    · rename_i hne
      rw [if_neg fun he => hne (labelName_injective hs (hname.symm.trans he)),
        get?_ofFeatures_eq_some_iff hs]
      exact ⟨other, v, hf, hname, hrest⟩
  · intro hv
    split at hv
    · cases hv
    · rename_i hne
      obtain ⟨other, v, hf, hname, hrest⟩ := (get?_ofFeatures_eq_some_iff hs w features).mp hv
      refine ⟨other, v, ?_, hname, hrest⟩
      rw [Dict.get?_erase, if_neg fun he : other = feature => hne (he ▸ hname)]
      exact hf

end Plain

end Label

/-- A source without a slash in its name loses and merges nothing. Every feature whose label is well
formed and listed gives that label, no two features give the same one, and a source that finds one
feature less gives what the first one gives without the label of that feature. -/
theorem labels_lossless (w : Label.Whitelist) (h : Host) (a : ActiveSource) (features : Features)
    (hn : '/' ∉ a.source.name.toList) (ho : a.outcome h = .ok features) :
    let label := fun feature : String => if '/' ∈ feature.toList then feature
      else (if a.source.prefixed then a.source.name ++ "-" else "") ++ feature
    (∃ ls, a.labels w h = .ok ls ∧
      (∀ name value, ls.get? name = some value ↔
        ∃ feature v, features.get? feature = some v ∧ name = label feature ∧ value = v.render ∧
          Label.nameViolations name = [] ∧ Label.valueViolations value = [] ∧
          w.accepts (Label.localPart name) = true) ∧
      ∀ feature, ∀ b : ActiveSource, ∀ h', b.source.name = a.source.name →
        b.source.prefixed = a.source.prefixed → b.outcome h' = .ok (features.erase feature) →
        b.labels w h' = .ok (ls.erase (label feature))) ∧
    Function.Injective label := by
  intro label
  have hs := Label.not_mem_stem hn a.source.prefixed
  have hl : label = Label.labelName (Label.stem a.source.name a.source.prefixed) :=
    funext fun feature => (Label.labelName_eq _ feature).symm
  rw [hl]
  refine ⟨⟨_, ActiveSource.labels_of_outcome_ok ho, fun name value => ?_,
    fun feature b h' hname hp hb => ?_⟩, Label.labelName_injective hs⟩
  · exact Label.get?_ofFeatures_eq_some_iff hs w features
  · rw [ActiveSource.labels_of_outcome_ok hb, hname, hp, Label.ofFeatures_erase hs]

/-- A feature with a stem, one with a domain and one with a blank, and then without the first. -/
theorem labels_lossless_blank :
    let w : Label.Whitelist := ⟨"", fun _ => true⟩
    let h := Host.empty "/"
    let features : Features := .ofList
      [("model", .text "x86_64"), ("example.com/vendor", .text "intel"), ("bad key", .bool true)]
    let a := ActiveSource.start (.constant "cpu" true (.ok features))
    let b := ActiveSource.start (.constant "cpu" true (.ok (features.erase "model")))
    ∃ ls, a.labels w h = .ok ls ∧ ls.get? "cpu-model" = some "x86_64" ∧
      ls.get? "example.com/vendor" = some "intel" ∧ ls.get? "cpu-bad key" = none ∧
      b.labels w h = .ok (ls.erase "cpu-model") := by
  intro w h features a b
  have ho : a.outcome h = .ok features := rfl
  have hb : b.outcome h = .ok (features.erase "model") := rfl
  obtain ⟨⟨ls, hl, hget, herase⟩, _⟩ := labels_lossless w h a features (by decide) ho
  refine ⟨ls, hl, ?_, ?_, Option.eq_none_iff_forall_ne_some.mpr fun value hv => ?_,
    herase "model" b h rfl rfl hb⟩
  · exact (hget _ _).mpr ⟨"model", .text "x86_64", by decide, by decide, rfl, by decide, by decide,
      rfl⟩
  · exact (hget _ _).mpr ⟨"example.com/vendor", .text "intel", by decide, by decide, rfl, by decide,
      by decide, rfl⟩
  · obtain ⟨_, _, _, _, _, hbad, _⟩ := (hget _ _).mp hv
    exact absurd hbad (by decide)

end NodeSurvey
