import NodeSurvey.Label.Aggregation
import NodeSurvey.Proofs.Dict

/-! What one source gives, and what a list of sources gives in terms of that. A feature that gives
no label leaves the others alone, and of several sources with one label the last is heard. -/

namespace NodeSurvey

namespace Label

theorem value_ofFeatures (w : Whitelist) (stem : String) (l : List (String × FeatureValue)) :
    (ofFeatures w stem l).value = l.filterMap fun e => (ofFeature w stem e.1 e.2).toOption := by
  induction l with
  | nil => rfl
  | cons e l ih =>
    unfold ofFeatures
    rw [List.filterMap_cons]
    cases ofFeature w stem e.1 e.2 with
    | error n => exact ih
    | ok label => exact congrArg (label :: ·) ih

theorem toOption_eq_some_iff {ε α : Type} {x : Except ε α} {a : α} :
    x.toOption = some a ↔ x = .ok a := by
  cases x <;> simp [Except.toOption]

theorem mem_value_ofFeatures {w : Whitelist} {stem : String} {l : List (String × FeatureValue)}
    {label : String × String} :
    label ∈ (ofFeatures w stem l).value ↔ ∃ e ∈ l, ofFeature w stem e.1 e.2 = .ok label := by
  rw [value_ofFeatures, List.mem_filterMap]
  exact exists_congr fun e => and_congr_right fun _ => toOption_eq_some_iff

theorem ofFeature_eq_ok_iff {w : Whitelist} {stem feature : String} {value : FeatureValue}
    {label : String × String} :
    ofFeature w stem feature value = .ok label ↔
      nameViolations (checkedName stem feature) = [] ∧ valueViolations value.render = [] ∧
      w.accepts (listedName stem feature) = true ∧
      label = (labelName stem feature, value.render) := by
  simp only [ofFeature]
  cases hn : nameViolations (checkedName stem feature) with
  | cons v vs => simp
  | nil =>
    cases hv : valueViolations value.render with
    | cons v vs => simp
    | nil =>
      cases hw : w.accepts (listedName stem feature) with
      | false => simp
      | true => simp [eq_comm]

end Label

namespace ActiveSource

def outcome (a : ActiveSource) (h : Host) : Except Trouble Features := (a.find h).value.outcome

/-- The labels that a source gives by itself, or why it gives none. -/
def labels (a : ActiveSource) (w : Label.Whitelist) (h : Host) : Except SourceError Labels :=
  (Label.ofFinding w (a.find h).value).value

def label? (a : ActiveSource) (w : Label.Whitelist) (h : Host) (name : String) : Option String :=
  (a.labels w h).toOption.bind (·.get? name)

variable {a : ActiveSource} {w : Label.Whitelist} {h : Host} {name value : String}

theorem labels_of_outcome_ok {features : Features} (ho : a.outcome h = .ok features) :
    a.labels w h = .ok (.ofList (Label.ofFeatures w (Label.stem a.source.name a.source.prefixed)
      features.toList).value) := by
  change (a.find h).value.outcome = _ at ho
  simp only [labels, Label.ofFinding, ho]
  rfl

theorem labels_of_outcome_error {t : Trouble} (ho : a.outcome h = .error t) :
    a.labels w h = .error ⟨a.source.name, t⟩ := by
  change (a.find h).value.outcome = _ at ho
  simp only [labels, Label.ofFinding, ho]
  rfl

theorem isOk_labels : (a.labels w h).isOk = (a.outcome h).isOk := by
  cases ho : a.outcome h with
  | error t => rw [labels_of_outcome_error ho]; rfl
  | ok features => rw [labels_of_outcome_ok ho]; rfl

theorem label?_eq_some_iff :
    a.label? w h name = some value ↔ ∃ ls, a.labels w h = .ok ls ∧ ls.get? name = some value := by
  cases hl : a.labels w h <;> simp [label?, hl, Except.toOption]

theorem label?_eq_none_iff :
    a.label? w h name = none ↔ ∀ ls, a.labels w h = .ok ls → ls.get? name = none := by
  cases hl : a.labels w h <;> simp [label?, hl, Except.toOption]

theorem exists_feature_of_label? (hv : a.label? w h name = some value) :
    ∃ features, a.outcome h = .ok features ∧ ∃ e ∈ features.toList,
      Label.ofFeature w (Label.stem a.source.name a.source.prefixed) e.1 e.2 =
        .ok (name, value) := by
  obtain ⟨ls, hl, hv⟩ := label?_eq_some_iff.mp hv
  cases ho : a.outcome h with
  | error t =>
    rw [labels_of_outcome_error ho] at hl
    exact absurd hl (by simp)
  | ok features =>
    rw [labels_of_outcome_ok ho, Except.ok.injEq] at hl
    have hm := Dict.mem_of_get?_ofList (hl ▸ hv)
    exact ⟨features, rfl, Label.mem_value_ofFeatures.mp hm⟩

end ActiveSource

def Source.constant (name : String) (prefixed : Bool) (found : Except Trouble Features) : Source :=
  ⟨name, prefixed, .none, fun _ _ => Discovery.ofExcept found⟩

theorem get?_addFinding (w : Label.Whitelist) (labels : Labels) (a : ActiveSource) (h : Host)
    (name : String) :
    (Label.addFinding w labels (a.find h).value).value.get? name =
      (a.label? w h name).or (labels.get? name) := by
  cases hl : a.labels w h with
  | error e =>
    have hl' : (Label.ofFinding w (a.find h).value).value = .error e := hl
    simp [Label.addFinding, hl', ActiveSource.label?, hl, Except.toOption]
  | ok more =>
    have hl' : (Label.ofFinding w (a.find h).value).value = .ok more := hl
    simp [Label.addFinding, hl', ActiveSource.label?, hl, Except.toOption, Dict.get?_union]

theorem get?_foldl_addFinding (w : Label.Whitelist) (sources : List ActiveSource) (h : Host)
    (labels : Labels) (name : String) :
    (sources.foldl (fun ls a => (Label.addFinding w ls (a.find h).value).value) labels).get? name =
      (sources.reverse.findSome? (·.label? w h name)).or (labels.get? name) := by
  induction sources generalizing labels with
  | nil => simp
  | cons a sources ih =>
    rw [List.foldl_cons, ih, get?_addFinding, List.reverse_cons, List.findSome?_append,
      Option.or_assoc]
    simp

theorem get?_discoverAll (w : Label.Whitelist) (sources : List ActiveSource) (h : Host)
    (name : String) :
    (discoverAll w sources h).value.get? name =
      sources.reverse.findSome? (·.label? w h name) := by
  have hf := get?_foldl_addFinding w sources h .empty name
  rw [Dict.get?_empty, Option.or_none] at hf
  rw [discoverAll, Logged.value_foldlM]
  exact hf

end NodeSurvey
