import NodeSurvey.Proofs.Text.Lines
import NodeSurvey.Source.Local

/-! The lines that hooks print and feature files hold, as they may be written. What was written is
read back line by line, whatever blanks stand around a line or between two lines. -/

namespace NodeSurvey.Source.Local

open Text (isBlank)

def IsBlankText (s : String) : Prop := ∀ c ∈ s.toList, isBlank c = true

instance (s : String) : Decidable (IsBlankText s) :=
  decidable_of_iff (s.toList.all isBlank = true) List.all_eq_true

/-- A name ends where the line or an equals sign does, and starts with what is no blank. -/
structure IsName (name : String) : Prop where
  first : ∃ c, name.toList.head? = some c ∧ isBlank c = false
  noEquals : '=' ∉ name.toList
  noNewline : '\n' ∉ name.toList

structure IsValue (value : String) : Prop where
  last : ∀ c, value.toList.getLast? = some c → isBlank c = false
  noNewline : '\n' ∉ value.toList

/-- A line with the feature that it states, if it states one. -/
inductive Line : String → Option (String × FeatureValue) → Prop where
  | blank {s : String} (hs : IsBlankText s) : Line s none
  | valued {before name value after : String} (hb : IsBlankText before) (hn : IsName name)
      (hv : IsValue value) (ha : IsBlankText after) :
      Line (before ++ (name ++ "=" ++ value) ++ after) (some (name, .text value))
  | bare {before name after : String} (hb : IsBlankText before) (hn : IsName name)
      (he : ∀ c, name.toList.getLast? = some c → isBlank c = false) (ha : IsBlankText after) :
      Line (before ++ name ++ after) (some (name, .bool true))

theorem feature?_trim (line : List Char) : feature? (Text.trim line) = feature? line := by
  simp only [feature?, Text.trim_trim]

theorem feature?_nil : feature? [] = none := rfl

theorem features_around {before core after : String} (hb : IsBlankText before)
    (ha : IsBlankText after) (hc : '\n' ∉ core.toList) :
    features (before ++ core ++ after) = (feature? core.toList).toList := by
  rw [features, String.toList_append, String.toList_append]
  exact Text.filterMap_lines_around feature?_trim feature?_nil hb ha hc

theorem features_append (a b : String) :
    features (a ++ "\n" ++ b) = features a ++ features b := by
  have hcut : (a ++ "\n" ++ b).toList = a.toList ++ '\n' :: b.toList := by simp
  rw [features, hcut]
  exact Text.filterMap_lines_append feature?_trim feature?_nil _ _

theorem feature?_valued {name value : String} (hn : IsName name) (hv : IsValue value) :
    feature? (name ++ "=" ++ value).toList = some (name, .text value) := by
  obtain ⟨c, hc, hcb⟩ := hn.first
  obtain ⟨r, hr⟩ := List.head?_eq_some_iff.mp hc
  have htext : (name ++ "=" ++ value).toList = name.toList ++ '=' :: value.toList := by simp
  have hend : isBlank (value.toList.getLast?.getD '=') = false := by
    cases hl : value.toList.getLast? with
    | none => decide
    | some d => exact hv.last d hl
  have htrim : Text.trim (name ++ "=" ++ value).toList = (name ++ "=" ++ value).toList :=
    Text.trim_eq_self (by simp [htext, hr]) (by simp [htext, List.getLast?_cons]) hcb hend
  rw [feature?, htrim, htext, Text.splitOnce_append_cons hn.noEquals]
  simp

theorem feature?_bare {name : String} (hn : IsName name)
    (he : ∀ c, name.toList.getLast? = some c → isBlank c = false) :
    feature? name.toList = some (name, .bool true) := by
  obtain ⟨c, hc, hcb⟩ := hn.first
  obtain ⟨r, hr⟩ := List.head?_eq_some_iff.mp hc
  have hne : name.toList ≠ [] := hr ▸ List.cons_ne_nil c r
  have hlast := List.getLast?_eq_some_getLast hne
  have htrim : Text.trim name.toList = name.toList :=
    Text.trim_eq_self hc hlast hcb (he _ hlast)
  rw [feature?, htrim, Text.splitOnce_eq_none_iff.mpr hn.noEquals]
  simp [hne, FeatureValue.present]

theorem features_of_line {s : String} {e : Option (String × FeatureValue)} (h : Line s e) :
    features s = e.toList := by
  cases h with
  | blank hs =>
    rw [features, ← Text.filterMap_lines_trim feature?_trim feature?_nil, Text.trim_of_blanks hs]
    rfl
  | @valued before name value after hb hn hv ha =>
    have hnewline : '\n' ∉ (name ++ "=" ++ value).toList := by
      simp [hn.noNewline, hv.noNewline]
    rw [features_around hb ha hnewline, feature?_valued hn hv, Option.toList_some]
  | @bare before name after hb hn he ha =>
    rw [features_around hb ha hn.noNewline, feature?_bare hn he, Option.toList_some]

theorem features_intercalate {lines : List String} {entries : List (Option (String × FeatureValue))}
    (h : List.Forall₂ Line lines entries) :
    features ("\n".intercalate lines) = entries.reduceOption :=
  Text.filterMap_lines_intercalate feature?_trim feature?_nil (h.imp fun _ _ => features_of_line)

theorem first_of_all {s : String} (h : s.toList.head?.all (!isBlank ·) = true) :
    ∀ c, s.toList.head? = some c → isBlank c = false := by
  intro c hc
  simpa [hc] using h

theorem last_of_all {s : String} (h : s.toList.getLast?.all (!isBlank ·) = true) :
    ∀ c, s.toList.getLast? = some c → isBlank c = false := by
  intro c hc
  simpa [hc] using h

/-- Lines are read back as they were written, one after the other, whatever is known before. A text
in two parts can be read part by part. -/
theorem addFeatures_lines :
    (∀ (known : Features) (lines : List String) (entries : List (Option (String × FeatureValue))),
      List.Forall₂ Line lines entries →
        addFeatures known ("\n".intercalate lines) =
          entries.reduceOption.foldl (fun d e => d.insert e.1 e.2) known) ∧
    ∀ (known : Features) (a b : String),
      addFeatures known (a ++ "\n" ++ b) = addFeatures (addFeatures known a) b := by
  refine ⟨fun known lines entries h => ?_, fun known a b => ?_⟩
  · rw [addFeatures, features_intercalate h]
  · rw [addFeatures, features_append, List.foldl_append]
    rfl

/-- A name keeps the blank before its equals sign and a value the one behind it, a value may hold
equals signs or nothing, and the last line with a name counts. -/
theorem addFeatures_lines_rack :
    let known : Features := .ofList [("rack", .text "east")]
    let lines := ["\t rack = west=1 \r", "", "rack=north", " \r", "gpu ", "rack="]
    let entries := [some ("rack ", .text " west=1"), none, some ("rack", .text "north"), none,
      some ("gpu", .bool true), some ("rack", .text "")]
    List.Forall₂ Line lines entries ∧
      addFeatures known ("\n".intercalate lines) =
        entries.reduceOption.foldl (fun d e => d.insert e.1 e.2) known ∧
      (addFeatures known ("\n".intercalate lines)).toList =
        [("gpu", .bool true), ("rack", .text ""), ("rack ", .text " west=1")] := by
  intro known lines entries
  have hrack : IsName "rack" := ⟨⟨'r', by decide, by decide⟩, by decide, by decide⟩
  have hspaced : IsName "rack " := ⟨⟨'r', by decide, by decide⟩, by decide, by decide⟩
  have hgpu : IsName "gpu" := ⟨⟨'g', by decide, by decide⟩, by decide, by decide⟩
  have hwest : Line "\t rack = west=1 \r" (some ("rack ", .text " west=1")) :=
    @Line.valued "\t " "rack " " west=1" " \r" (by decide) hspaced
      ⟨last_of_all (by decide), by decide⟩ (by decide)
  have hnorth : Line "rack=north" (some ("rack", .text "north")) :=
    @Line.valued "" "rack" "north" "" (by decide) hrack ⟨last_of_all (by decide), by decide⟩
      (by decide)
  have hbare : Line "gpu " (some ("gpu", .bool true)) :=
    @Line.bare "" "gpu" " " (by decide) hgpu (last_of_all (by decide)) (by decide)
  have hempty : Line "rack=" (some ("rack", .text "")) :=
    @Line.valued "" "rack" "" "" (by decide) hrack ⟨last_of_all (by decide), by decide⟩
      (by decide)
  have hl : List.Forall₂ Line lines entries :=
    .cons hwest (.cons (.blank (by decide)) (.cons hnorth (.cons (.blank (by decide))
      (.cons hbare (.cons hempty .nil)))))
  have hread := addFeatures_lines.1 known lines entries hl
  exact ⟨hl, hread, hread ▸ by decide +kernel⟩

end NodeSurvey.Source.Local
