import NodeSurvey.Proofs.Label.Aggregation

/-! Which source a label comes from. Among the sources that give a label the last in the list wins;
a source in trouble and a feature that is refused take part in nothing. -/

namespace NodeSurvey

namespace ActiveSource

/-- Every feature of the source whose label would have this name is refused. -/
def Refused (a : ActiveSource) (w : Label.Whitelist) (h : Host) (name : String) : Prop :=
  let stem := Label.stem a.source.name a.source.prefixed
  ∀ features, a.outcome h = .ok features → ∀ e ∈ features.toList,
    Label.labelName stem e.1 = name →
      Label.nameViolations (Label.checkedName stem e.1) ≠ [] ∨
      Label.valueViolations e.2.render ≠ [] ∨ w.accepts (Label.listedName stem e.1) = false

def Disjoint (a b : ActiveSource) (w : Label.Whitelist) (h : Host) : Prop :=
  ∀ name, a.label? w h name = none ∨ b.label? w h name = none

variable {a b : ActiveSource} {w : Label.Whitelist} {h : Host} {name : String}

theorem Refused.label? (hr : a.Refused w h name) : a.label? w h name = none := by
  refine Option.eq_none_iff_forall_ne_some.mpr fun value hv => ?_
  obtain ⟨features, ho, e, he, hf⟩ := exists_feature_of_label? hv
  obtain ⟨hn, hvalue, hw, hlabel⟩ := Label.ofFeature_eq_ok_iff.mp hf
  have hname := (congrArg Prod.fst hlabel).symm
  rcases hr features ho e he hname with hbad | hbad | hbad
  · exact hbad hn
  · exact hbad hvalue
  · simp [hw] at hbad

theorem label?_of_trouble (ho : (a.outcome h).isOk = false) : a.label? w h name = none := by
  refine label?_eq_none_iff.mpr fun ls hl => ?_
  have hok : (a.labels w h).isOk = true := by rw [hl]; rfl
  rw [isOk_labels, ho] at hok
  exact absurd hok (by simp)

end ActiveSource

variable {w : Label.Whitelist} {h : Host}

theorem discoverAll_congr {sources others : List ActiveSource}
    (hs : ∀ name, sources.reverse.findSome? (·.label? w h name) =
      others.reverse.findSome? (·.label? w h name)) :
    (discoverAll w sources h).value = (discoverAll w others h).value :=
  Dict.ext fun name => by rw [get?_discoverAll, get?_discoverAll, hs name]

theorem get?_discoverAll_eq_some_iff {sources : List ActiveSource} {name value : String} :
    (discoverAll w sources h).value.get? name = some value ↔
      ∃ before a after, sources = before ++ a :: after ∧ a.label? w h name = some value ∧
        ∀ b ∈ after, b.label? w h name = none := by
  rw [get?_discoverAll, List.findSome?_eq_some_iff]
  constructor
  · rintro ⟨l, a, m, hl, ha, hb⟩
    refine ⟨m.reverse, a, l.reverse, ?_, ha, fun b hm => hb b (List.mem_reverse.mp hm)⟩
    rw [← List.reverse_reverse sources, hl]
    simp
  · rintro ⟨before, a, after, rfl, ha, hb⟩
    exact ⟨after.reverse, a, before.reverse, by simp, ha,
      fun b hm => hb b (List.mem_reverse.mp hm)⟩

theorem findSome?_filter_outcome (sources : List ActiveSource) (name : String) :
    (sources.filter fun a => (a.outcome h).isOk).findSome? (·.label? w h name) =
      sources.findSome? (·.label? w h name) := by
  induction sources with
  | nil => rfl
  | cons a sources ih =>
    cases ho : (a.outcome h).isOk with
    | true => simp only [List.filter_cons, ho, if_true, List.findSome?_cons, ih]
    | false =>
      have hn : a.label? w h name = none := ActiveSource.label?_of_trouble ho
      simp only [List.filter_cons, ho, Bool.false_eq_true, if_false, List.findSome?_cons, hn, ih]

theorem get?_discoverAll_skip {before after : List ActiveSource} {b : ActiveSource} {name : String}
    (hb : b.label? w h name = none) :
    (discoverAll w (before ++ b :: after) h).value.get? name =
      (discoverAll w (before ++ after) h).value.get? name := by
  rw [get?_discoverAll, get?_discoverAll]
  simp [List.findSome?_append, hb]

theorem discoverAll_swap {before after : List ActiveSource} {a b : ActiveSource}
    (hd : a.Disjoint b w h) :
    (discoverAll w (before ++ a :: b :: after) h).value =
      (discoverAll w (before ++ b :: a :: after) h).value := by
  refine discoverAll_congr fun name => ?_
  rcases hd name with hn | hn <;>
    simp [List.findSome?_append, List.findSome?_cons, hn]

/-- A label has the value that the last source with this label gives to it. So sources in trouble
can be left out, refused labels hide nothing, and disjoint neighbours can change places. -/
theorem discoverAll_lastWriter (w : Label.Whitelist) (h : Host) :
    (∀ sources name value, (discoverAll w sources h).value.get? name = some value ↔
      ∃ before a after ls, sources = before ++ a :: after ∧ a.labels w h = .ok ls ∧
        ls.get? name = some value ∧
        ∀ b ∈ after, ∀ more, b.labels w h = .ok more → more.get? name = none) ∧
    (∀ sources, (discoverAll w (sources.filter fun a => (a.outcome h).isOk) h).value =
      (discoverAll w sources h).value) ∧
    (∀ before b after name, b.Refused w h name →
      (discoverAll w (before ++ b :: after) h).value.get? name =
        (discoverAll w (before ++ after) h).value.get? name) ∧
    (∀ before a b after, a.Disjoint b w h →
      (discoverAll w (before ++ a :: b :: after) h).value =
        (discoverAll w (before ++ b :: a :: after) h).value) := by
  refine ⟨fun sources name value => ?_, fun sources => ?_, fun _ _ _ _ hr => ?_,
    fun _ _ _ _ hd => discoverAll_swap hd⟩
  · simp only [get?_discoverAll_eq_some_iff, ActiveSource.label?_eq_some_iff,
      ActiveSource.label?_eq_none_iff]
    constructor
    · rintro ⟨before, a, after, hs, ⟨ls, hl, hv⟩, hb⟩
      exact ⟨before, a, after, ls, hs, hl, hv, hb⟩
    · rintro ⟨before, a, after, ls, hs, hl, hv, hb⟩
      exact ⟨before, a, after, hs, ⟨ls, hl, hv⟩, hb⟩
  · refine discoverAll_congr fun name => ?_
    rw [← List.filter_reverse, findSome?_filter_outcome]
  · exact get?_discoverAll_skip hr.label?

/-- A value with a blank does not hide the one before it, and two sources with labels of their own
change places. -/
theorem discoverAll_lastWriter_cpu :
    let w : Label.Whitelist := ⟨"", fun _ => true⟩
    let h := Host.empty "/"
    let cpu := ActiveSource.start (.constant "cpu" true (.ok (.ofList [("model", .text "arm64")])))
    let usb := ActiveSource.start (.constant "usb" true (.ok (.ofList [("hub", .bool true)])))
    let hook := ActiveSource.start
      (.constant "local" false (.ok (.ofList [("cpu-model", .text "two words")])))
    hook.Refused w h "cpu-model" ∧ cpu.Disjoint usb w h ∧
      (discoverAll w [cpu, usb, hook] h).value.get? "cpu-model" =
        (discoverAll w [cpu, usb] h).value.get? "cpu-model" ∧
      (discoverAll w [cpu, usb, hook] h).value = (discoverAll w [usb, cpu, hook] h).value := by
  intro w h cpu usb hook
  have hr : hook.Refused w h "cpu-model" := by
    intro features ho e he _
    have hf : [("cpu-model", FeatureValue.text "two words")] = features.toList :=
      congrArg Dict.toList (Except.ok.inj ho)
    obtain rfl := List.mem_singleton.mp (hf ▸ he)
    exact Or.inr (Or.inl (by decide))
  have hd : cpu.Disjoint usb w h := by
    intro name
    by_cases hn : name = "cpu-model"
    · exact Or.inr (by rw [hn]; decide +kernel)
    · refine Or.inl (Option.eq_none_iff_forall_ne_some.mpr fun value hv => hn ?_)
      obtain ⟨features, ho, e, he, hf⟩ := ActiveSource.exists_feature_of_label? hv
      have hs : [("model", FeatureValue.text "arm64")] = features.toList :=
        congrArg Dict.toList (Except.ok.inj ho)
      obtain rfl := List.mem_singleton.mp (hs ▸ he)
      exact congrArg Prod.fst (Label.ofFeature_eq_ok_iff.mp hf).2.2.2
  have hl := discoverAll_lastWriter w h
  exact ⟨hr, hd, hl.2.2.1 [cpu, usb] hook [] _ hr, hl.2.2.2 [] cpu usb [hook] hd⟩

end NodeSurvey
